import Bindery.Text.Digit
import Bindery.Text.Lines

/-!
# Flags

The arguments of a program are words, flags and at most one divider; behind the divider every
argument is a word. A flag is given by one of its names, by the beginning of a long name that no
other flag shares, or as a letter in a bundle of letters behind one dash. A value is attached to a
long name by an equals sign, and to a letter by standing right behind it.

An argument is classified without regard to its neighbours. The only argument that cannot be
classified is the beginning of several names.
-/

namespace Bindery.CommandLine

/-! ## Flags -/

/-- What a flag does. -/
inductive Effect (κ : Type) where
  /-- Asks for the help text. -/
  | help
  | switch (key : κ)
  /-- Takes a value. -/
  | value (key : κ)
deriving DecidableEq, Repr

/-- A flag with its names, in the order in which they are shown. -/
structure Flag (κ : Type) where
  names : List String
  effect : Effect κ
deriving DecidableEq, Repr

/-- The names of a flag as messages show them. -/
def Flag.shown {κ : Type} (f : Flag κ) : String := "/".intercalate f.names

/-- Does the flag take a value? -/
def Flag.takesValue {κ : Type} (f : Flag κ) : Bool :=
  match f.effect with
  | .value _ => true
  | _ => false

/-! ## Arguments -/

/-- What stands at the end of a bundle of switches. -/
inductive Ending (κ : Type) where
  /-- A flag; its value, if it takes one, is the next argument. -/
  | flag (f : Flag κ)
  /-- A flag with its value. -/
  | attached (f : Flag κ) (value : String)
  /-- A flag that takes no value, with one. -/
  | refused (f : Flag κ) (value : String)
  /-- Something that is no flag. -/
  | stray (text : String)
deriving Repr

/-- One argument. -/
inductive Argument (κ : Type) where
  | word (text : String)
  | divider
  | bundle (text : String) (switches : List (Flag κ)) (ending : Ending κ)
deriving Repr

/-- The argument as it was given. -/
def Argument.text {κ : Type} : Argument κ → String
  | word text => text
  | divider => "--"
  | bundle text _ _ => text

/-- The beginning of several names. -/
structure Ambiguous where
  argument : String
  names : List String
deriving DecidableEq, Repr

/-! ## Names -/

/-- The names of all flags with their flags, in order. -/
def allNames {κ : Type} (flags : List (Flag κ)) : List (String × Flag κ) :=
  flags.flatMap fun f => f.names.map fun name => (name, f)

/-- The flag of a name. -/
def named? {κ : Type} (flags : List (Flag κ)) (name : String) : Option (Flag κ) :=
  (allNames flags).lookup name

/-- The text before the first equals sign, and the text behind it if there is one. -/
def atEquals (argument : List Char) : String × Option String :=
  match argument.dropWhile (· ≠ '=') with
  | _ :: value => (String.ofList (argument.takeWhile (· ≠ '=')), some (String.ofList value))
  | [] => (String.ofList argument, none)

/-- Does the argument look like a number below zero? -/
def isNegative (argument : List Char) : Bool :=
  match argument with
  | '-' :: rest =>
      let rest := if rest.getLast? = some '\n' then rest.dropLast else rest
      match rest.dropWhile Text.isDigit with
      | [] => !rest.isEmpty
      | '.' :: places => !places.isEmpty && places.all Text.isDigit
      | _ => false
  | _ => false

/-! ## Bundles -/

/-- A flag with an attached value, given by a long name. -/
def attach {κ : Type} (f : Flag κ) (value : String) : Ending κ :=
  if f.takesValue then .attached f value else .refused f value

/-- A flag with what stands right behind its letter; further letters are switches. -/
def spread {κ : Type} (flags : List (Flag κ)) (f : Flag κ) : List Char → List (Flag κ) × Ending κ
  | [] => ([], .flag f)
  | c :: rest =>
      if f.takesValue then
        ([], .attached f (String.ofList (if c = '=' then rest else c :: rest)))
      else if c = '=' then ([], .refused f (String.ofList rest))
      else if c = '-' then ([], .refused f (String.ofList (c :: rest)))
      else match named? flags (String.ofList ['-', c]) with
        | some next =>
            let (switches, ending) := spread flags next rest
            (f :: switches, ending)
        | none => ([f], .stray (String.ofList ('-' :: c :: rest)))

/-! ## Classification -/

/-- The flags that an argument may mean, by the names that it stands for. -/
def candidates {κ : Type} (flags : List (Flag κ)) (argument : List Char) :
    List (String × List (Flag κ) × Ending κ) :=
  match argument with
  | '-' :: '-' :: _ =>
      let (beginning, value) := atEquals argument
      (allNames flags).filterMap fun (name, f) =>
        if beginning.toList.isPrefixOf name.toList then
          some (name, [], match value with
            | some value => attach f value
            | none => .flag f)
        else none
  | dash :: letter :: rest =>
      (allNames flags).filterMap fun (name, f) =>
        if name.toList = [dash, letter] then some (name, spread flags f rest)
        else if argument.isPrefixOf name.toList then some (name, [], .flag f)
        else none
  | _ => []

/-- An argument before which no divider stands, and which is none. -/
def classify {κ : Type} (flags : List (Flag κ)) (argument : String) :
    Except Ambiguous (Argument κ) :=
  match argument.toList with
  | '-' :: c :: rest =>
      let (beginning, value) := atEquals ('-' :: c :: rest)
      match named? flags argument, value, named? flags beginning with
      | some f, _, _ => .ok (.bundle argument [] (.flag f))
      | none, some value, some f => .ok (.bundle argument [] (attach f value))
      | none, _, _ =>
          match candidates flags argument.toList with
          | [] =>
              if isNegative argument.toList || argument.toList.contains ' ' then
                .ok (.word argument)
              else .ok (.bundle argument [] (.stray argument))
          | [(_, switches, ending)] => .ok (.bundle argument switches ending)
          | several => .error ⟨argument, several.map Prod.fst⟩
  | _ => .ok (.word argument)

/-- Classifies arguments. -/
def arguments {κ : Type} (flags : List (Flag κ)) :
    List String → Except Ambiguous (List (Argument κ))
  | [] => .ok []
  | text :: rest =>
      if text = "--" then .ok (.divider :: rest.map .word)
      else do
        let first ← classify flags text
        return first :: (← arguments flags rest)

end Bindery.CommandLine
