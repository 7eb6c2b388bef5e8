import Bindery.Template.Lexeme

/-!
# Templates

A template is a list of parts: texts, outputs of expressions, loops, branches and other templates
that are put in. The readers follow the grammar of lexemes, one function for each level of binding.
-/

namespace Bindery.Template

/-- What a filter makes of a value. -/
inductive Filter where
  | length
  | upper
  | join
deriving DecidableEq, Repr

/-- How two values are compared. -/
inductive Comparison where
  | equal
  | different
  | less
  | atMost
  | greater
  | atLeast
deriving DecidableEq, Repr

/-- An expression. -/
inductive Expr where
  | constant (v : Value)
  | list (items : List Expr)
  | name (s : String)
  | member (e : Expr) (s : String)
  | item (e index : Expr)
  /-- A filter with its arguments in order, then those that are given by name. -/
  | filter (f : Filter) (e : Expr) (arguments : List Expr) (named : List (String × Expr))
  | signed (negative : Bool) (e : Expr)
  | not (e : Expr)
  | and (a b : Expr)
  | or (a b : Expr)
  | compare (c : Comparison) (a b : Expr)
  | choose (condition yes : Expr) (no : Option Expr)

/-- A part of a template. -/
inductive Part where
  | text (s : String)
  | output (e : Expr)
  /-- The body for each item that fits, or another body if there is none. -/
  | loop (target : String) (items : Expr) (condition : Option Expr) (body otherwise : List Part)
  | branch (condition : Expr) (yes no : List Part)
  | insert (template : Expr) (ignoreMissing : Bool)

/-! ## Expressions -/

/-- The filter of a name. -/
def filter? : String → Option Filter
  | "length" => some .length
  | "count" => some .length
  | "upper" => some .upper
  | "join" => some .join
  | _ => none

/-- The words that are values of their own. -/
def constantWord? : String → Option Value
  | "true" => some (.bool true)
  | "True" => some (.bool true)
  | "false" => some (.bool false)
  | "False" => some (.bool false)
  | "none" => some .null
  | "None" => some .null
  | _ => none

/-- Texts beside each other are one text. -/
def joinTexts (s : String) : List Lexeme → Value × List Lexeme
  | .constant (.string t) :: rest => joinTexts (s ++ t) rest
  | rest => (.string s, rest)

/-- A comparison, and what follows. -/
def comparison? : List Lexeme → Option (Comparison × List Lexeme)
  | .sign "==" :: rest => some (.equal, rest)
  | .sign "!=" :: rest => some (.different, rest)
  | .sign "<" :: rest => some (.less, rest)
  | .sign "<=" :: rest => some (.atMost, rest)
  | .sign ">" :: rest => some (.greater, rest)
  | .sign ">=" :: rest => some (.atLeast, rest)
  | _ => none

/-- A sign that has to follow. -/
def expect (sign : String) : List Lexeme → Result (List Lexeme)
  | .sign s :: rest => if s = sign then .ok rest else .error .badForm
  | _ => .error .badForm

mutual

/-- An expression: a value, or one of two by a condition. -/
def expression : Nat → List Lexeme → Except TemplateFault (Expr × List Lexeme)
  | 0, _ => .error .badForm
  | fuel + 1, ls => do
      let (e, rest) ← disjunction fuel ls
      match rest with
      | .name "if" :: rest => do
          let (condition, rest) ← disjunction fuel rest
          match rest with
          | .name "else" :: rest => do
              let (other, rest) ← expression fuel rest
              return (.choose condition e (some other), rest)
          | rest => return (.choose condition e none, rest)
      | rest => return (e, rest)

def disjunction : Nat → List Lexeme → Except TemplateFault (Expr × List Lexeme)
  | 0, _ => .error .badForm
  | fuel + 1, ls => do
      let (e, rest) ← conjunction fuel ls
      match rest with
      | .name "or" :: rest => do
          let (other, rest) ← disjunction fuel rest
          return (.or e other, rest)
      | rest => return (e, rest)

def conjunction : Nat → List Lexeme → Except TemplateFault (Expr × List Lexeme)
  | 0, _ => .error .badForm
  | fuel + 1, ls => do
      let (e, rest) ← negation fuel ls
      match rest with
      | .name "and" :: rest => do
          let (other, rest) ← conjunction fuel rest
          return (.and e other, rest)
      | rest => return (e, rest)

def negation : Nat → List Lexeme → Except TemplateFault (Expr × List Lexeme)
  | 0, _ => .error .badForm
  | fuel + 1, ls =>
      match ls with
      | .name "not" :: rest => do
          let (e, rest) ← negation fuel rest
          return (.not e, rest)
      | _ => comparison fuel ls

def comparison : Nat → List Lexeme → Except TemplateFault (Expr × List Lexeme)
  | 0, _ => .error .badForm
  | fuel + 1, ls => do
      let (e, rest) ← operand fuel ls
      match comparison? rest with
      | some (c, rest) => compared fuel e c rest
      | none => return (e, rest)

/-- A value behind a comparison. A chain of comparisons holds if each one does. -/
def compared : Nat → Expr → Comparison → List Lexeme → Except TemplateFault (Expr × List Lexeme)
  | 0, _, _, _ => .error .badForm
  | fuel + 1, e, c, ls => do
      let (other, rest) ← operand fuel ls
      match comparison? rest with
      | some (next, rest) => do
          let (more, rest) ← compared fuel other next rest
          return (.and (.compare c e other) more, rest)
      | none => return (.compare c e other, rest)

/-- A value with the filters behind it. -/
def operand : Nat → List Lexeme → Except TemplateFault (Expr × List Lexeme)
  | 0, _ => .error .badForm
  | fuel + 1, ls => do
      let (e, rest) ← signed fuel ls
      filters fuel e rest

/-- A value with the signs before it. -/
def signed : Nat → List Lexeme → Except TemplateFault (Expr × List Lexeme)
  | 0, _ => .error .badForm
  | fuel + 1, ls =>
      match ls with
      | .sign "-" :: rest => do
          let (e, rest) ← signed fuel rest
          return (.signed true e, rest)
      | .sign "+" :: rest => do
          let (e, rest) ← signed fuel rest
          return (.signed false e, rest)
      | ls => primary fuel ls

/-- A value with what is taken of it. -/
def primary : Nat → List Lexeme → Except TemplateFault (Expr × List Lexeme)
  | 0, _ => .error .badForm
  | fuel + 1, ls =>
      match ls with
      | .constant (.string s) :: rest =>
          let (v, rest) := joinTexts s rest
          members fuel (.constant v) rest
      | .constant v :: rest => members fuel (.constant v) rest
      | .name s :: rest =>
          match constantWord? s with
          | some v => members fuel (.constant v) rest
          | none => members fuel (.name s) rest
      | .sign "(" :: rest => do
          let (e, rest) ← expression fuel rest
          members fuel e (← expect ")" rest)
      | .sign "[" :: rest => do
          let (items, rest) ← listItems fuel rest
          members fuel (.list items) rest
      | _ => .error .badForm

/-- The items of a list, up to the closing bracket. -/
def listItems : Nat → List Lexeme → Except TemplateFault (List Expr × List Lexeme)
  | 0, _ => .error .badForm
  | fuel + 1, ls =>
      match ls with
      | .sign "]" :: rest => .ok ([], rest)
      | ls => do
          let (e, rest) ← expression fuel ls
          match rest with
          | .sign "," :: rest => do
              let (more, rest) ← listItems fuel rest
              return (e :: more, rest)
          | rest => return ([e], ← expect "]" rest)

/-- The attributes and items that are taken of a value. -/
def members : Nat → Expr → List Lexeme → Except TemplateFault (Expr × List Lexeme)
  | 0, _, _ => .error .badForm
  | fuel + 1, e, ls =>
      match ls with
      | .sign "." :: .name s :: rest => members fuel (.member e s) rest
      | .sign "." :: .constant (.int i) :: rest => members fuel (.item e (.constant (.int i))) rest
      | .sign "." :: _ => .error .badForm
      | .sign "[" :: rest => do
          let (index, rest) ← expression fuel rest
          members fuel (.item e index) (← expect "]" rest)
      | rest => .ok (e, rest)

/-- The filters behind a value. -/
def filters : Nat → Expr → List Lexeme → Except TemplateFault (Expr × List Lexeme)
  | 0, _, _ => .error .badForm
  | fuel + 1, e, ls =>
      match ls with
      | .sign "|" :: .name s :: rest =>
          match filter? s with
          | none => .error .unknownFilter
          | some f =>
              match rest with
              | .sign "(" :: rest => do
                  let (found, named, rest) ← arguments fuel rest
                  filters fuel (.filter f e found named) rest
              | .sign "." :: _ => .error .unknownFilter
              | rest => filters fuel (.filter f e [] []) rest
      | .sign "|" :: _ => .error .badForm
      | rest => .ok (e, rest)

/-- The arguments of a filter, up to the closing bracket; those with a name stand last. -/
def arguments : Nat → List Lexeme →
    Except TemplateFault (List Expr × List (String × Expr) × List Lexeme)
  | 0, _ => .error .badForm
  | fuel + 1, ls =>
      match ls with
      | .sign ")" :: rest => .ok ([], [], rest)
      | .name s :: .sign "=" :: rest => do
          let (e, rest) ← expression fuel rest
          let (found, named, rest) ← moreArguments fuel rest
          if found.isEmpty then return ([], (s, e) :: named, rest) else .error .badForm
      | ls => do
          let (e, rest) ← expression fuel ls
          let (found, named, rest) ← moreArguments fuel rest
          return (e :: found, named, rest)

/-- The arguments behind one, up to the closing bracket. -/
def moreArguments : Nat → List Lexeme →
    Except TemplateFault (List Expr × List (String × Expr) × List Lexeme)
  | 0, _ => .error .badForm
  | fuel + 1, ls =>
      match ls with
      | .sign "," :: rest => arguments fuel rest
      | rest => do return ([], [], ← expect ")" rest)

end

/-! ## Parts -/

/-- The end of a block that has to follow. -/
def closeBlock : List Lexeme → Result (List Lexeme)
  | .closeBlock :: rest => .ok rest
  | _ => .error .badForm

/-- The start of a body: the end of its block, with a colon before it or without. -/
def openBody : List Lexeme → Result (List Lexeme)
  | .sign ":" :: rest => closeBlock rest
  | rest => closeBlock rest

/-- The words behind the name of an inserted template: whether it may be missing, and what follows.
-/
def insertOptions : List Lexeme → Bool × List Lexeme
  | .name "ignore" :: .name "missing" :: .name w :: .name "context" :: rest =>
      if w = "with" ∨ w = "without" then (true, rest)
      else (true, .name w :: .name "context" :: rest)
  | .name "ignore" :: .name "missing" :: rest => (true, rest)
  | .name "with" :: .name "context" :: rest => (false, rest)
  | rest => (false, rest)

/-- What stands behind the items of a loop: a condition, if there is one. -/
def loopCondition (fuel : Nat) : List Lexeme → Except TemplateFault (Option Expr × List Lexeme)
  | .name "if" :: rest => do
      let (e, rest) ← expression fuel rest
      return (some e, rest)
  | rest => .ok (none, rest)

mutual

/-- Parts up to a block whose word is one of `ends`, or up to the end of the template if there are
none. The word is left. -/
def parts (ends : List String) : Nat → List Lexeme → Except TemplateFault (List Part × List Lexeme)
  | 0, _ => .error .badForm
  | fuel + 1, ls =>
      match ls with
      | [] => if ends.isEmpty then .ok ([], []) else .error .badForm
      | .text s :: rest => do
          let (more, rest) ← parts ends fuel rest
          return (.text s :: more, rest)
      | .openOutput :: rest => do
          let (e, rest) ← expression fuel rest
          match rest with
          | .closeOutput :: rest => do
              let (more, rest) ← parts ends fuel rest
              return (.output e :: more, rest)
          | _ => .error .badForm
      | .openBlock :: .name word :: rest =>
          if ends.contains word then .ok ([], .name word :: rest)
          else do
            let (part, rest) ← statement word fuel rest
            let (more, rest) ← parts ends fuel (← closeBlock rest)
            return (part :: more, rest)
      | _ => .error .badForm

/-- The part that a block begins, up to the end of its last tag. -/
def statement (word : String) : Nat → List Lexeme → Except TemplateFault (Part × List Lexeme)
  | 0, _ => .error .badForm
  | fuel + 1, ls =>
      match word with
      | "for" =>
          match ls with
          | .name target :: .name "in" :: rest => do
              if (constantWord? target).isSome then .error .badForm
              else
                let (items, rest) ← disjunction fuel rest
                let (condition, rest) ← loopCondition fuel rest
                let (body, rest) ← parts ["endfor", "else"] fuel (← openBody rest)
                match rest with
                | .name "else" :: rest => do
                    let (otherwise, rest) ← parts ["endfor"] fuel (← openBody rest)
                    return (.loop target items condition body otherwise, rest.tail)
                | rest => return (.loop target items condition body [], rest.tail)
          | _ => .error .badForm
      | "if" => branches fuel ls
      | "include" => do
          let (template, rest) ← expression fuel ls
          let (ignoreMissing, rest) := insertOptions rest
          return (.insert template ignoreMissing, rest)
      | _ => .error .badForm

/-- A branch behind its word. -/
def branches : Nat → List Lexeme → Except TemplateFault (Part × List Lexeme)
  | 0, _ => .error .badForm
  | fuel + 1, ls => do
      let (condition, rest) ← disjunction fuel ls
      let (yes, rest) ← parts ["elif", "else", "endif"] fuel (← openBody rest)
      match rest with
      | .name "elif" :: rest => do
          let (no, rest) ← branches fuel rest
          return (.branch condition yes [no], rest)
      | .name "else" :: rest => do
          let (no, rest) ← parts ["endif"] fuel (← openBody rest)
          return (.branch condition yes no, rest.tail)
      | rest => return (.branch condition yes [], rest.tail)

end

/-- The parts of a template. -/
def ofSource (source : String) : Result (List Part) := do
  let ls ← lexemes source
  return (← parts [] (16 * ls.length + 16) ls).1

end Bindery.Template
