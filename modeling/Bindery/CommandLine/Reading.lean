import Bindery.CommandLine.Flag
import Bindery.Text.Quoted

/-!
# Reading arguments

The arguments of a command are read from left to right. Flags are collected with their values; words
are the operands as far as the command takes any, and strays otherwise. A request for help and a
misuse both stop the reading at once.

A divider in front of an operand, or right behind it, belongs to the operand and is dropped. A
command that leads to another one takes its name and everything behind it, whatever that looks like.
-/

namespace Bindery.CommandLine

/-! ## Misuse -/

/-- What is wrong with arguments. -/
inductive Misuse where
  | ambiguous (cause : Ambiguous)
  /-- A flag lacks its value. -/
  | noValue (flag : String)
  /-- A flag that takes no value has one. -/
  | unwanted (flag value : String)
  | noCommand
  | unknownCommand (name : String) (known : List String)
  /-- Arguments are left over. -/
  | strays (arguments : List String)
deriving DecidableEq, Repr

def Misuse.message : Misuse → String
  | ambiguous ⟨argument, names⟩ =>
      "ambiguous option: " ++ argument ++ " could match " ++ ", ".intercalate names
  | noValue flag => "argument " ++ flag ++ ": expected one argument"
  | unwanted flag value =>
      "argument " ++ flag ++ ": ignored explicit argument " ++ Text.quoted value
  | noCommand => "the following arguments are required: command"
  | unknownCommand name known =>
      "argument command: invalid choice: " ++ Text.quoted name ++ " (choose from " ++
        ", ".intercalate (known.map Text.quoted) ++ ")"
  | strays arguments => "unrecognized arguments: " ++ " ".intercalate arguments

/-- Why the reading stops. -/
inductive Stop where
  | help
  | misuse (cause : Misuse)
deriving DecidableEq, Repr

/-! ## Readings -/

/-- What words a command takes. -/
inductive Operands where
  /-- None. -/
  | none
  /-- None any more; a divider that comes next still belongs to the operand. -/
  | taken
  /-- At most one. -/
  | optional
  /-- The name of another command, with everything behind it. -/
  | command
deriving DecidableEq, Repr

/-- What a command still takes behind an argument that is no operand. -/
def Operands.behind : Operands → Operands
  | taken => none
  | operands => operands

/-- What arguments say. -/
structure Reading (κ : Type) where
  /-- The flags that were given, with the values of those that take one. -/
  given : List (κ × Option String)
  operands : List String
  strays : List String
deriving DecidableEq, Repr

namespace Reading

variable {κ : Type}

/-- Nothing was given. -/
def empty : Reading κ := ⟨[], [], []⟩

/-- Adds flags in front. -/
def give (more : List (κ × Option String)) (r : Reading κ) : Reading κ :=
  { r with given := more ++ r.given }

/-- Adds a stray in front. -/
def stray (text : String) (r : Reading κ) : Reading κ := { r with strays := text :: r.strays }

/-- Was the flag given? -/
def has [BEq κ] (key : κ) (r : Reading κ) : Bool := r.given.any fun (other, _) => other == key

/-- The value of a flag; of several the last counts. -/
def value? [BEq κ] (key : κ) (r : Reading κ) : Option String := (r.given.reverse.lookup key).join

end Reading

variable {κ : Type}

/-- Gives a flag, with its value if it takes one. -/
def Flag.give (f : Flag κ) (value : Option String) : Except Stop (κ × Option String) :=
  match f.effect with
  | .help => .error .help
  | .switch key => .ok (key, none)
  | .value key => .ok (key, value)

/-- Gives the switches of a bundle. -/
def giveAll (switches : List (Flag κ)) : Except Stop (List (κ × Option String)) :=
  switches.mapM fun f => f.give none

/-- Reads arguments. -/
def read (operands : Operands) : List (Argument κ) → Except Stop (Reading κ)
  | [] => .ok Reading.empty
  | .word text :: rest =>
      match operands with
      | .none | .taken => do return (← read .none rest).stray text
      | .optional => do return { ← read .taken rest with operands := [text] }
      | .command => .ok { Reading.empty with operands := text :: rest.map Argument.text }
  | .divider :: rest =>
      match operands with
      | .none => do return (← read .none rest).stray "--"
      | .taken => read .none rest
      | .optional => read .optional rest
      | .command =>
          if rest.isEmpty then .ok (Reading.empty.stray "--")
          else .ok { Reading.empty with operands := "--" :: rest.map Argument.text }
  | .bundle _ switches ending :: rest =>
      match ending with
      | .refused f value => .error (.misuse (.unwanted f.shown value))
      | .stray text => do
          let given ← giveAll switches
          return ((← read operands.behind rest).stray text).give given
      | .attached f value => do
          let given ← giveAll switches
          let last ← f.give (some value)
          return (← read operands.behind rest).give (given ++ [last])
      | .flag f =>
          if f.takesValue then
            match rest with
            | .word value :: rest => do
                let given ← giveAll switches
                let last ← f.give (some value)
                return (← read operands.behind rest).give (given ++ [last])
            | _ => .error (.misuse (.noValue f.shown))
          else do
            let given ← giveAll switches
            let last ← f.give none
            return (← read operands.behind rest).give (given ++ [last])

/-- Reads what was given to a command. -/
def readAll (flags : List (Flag κ)) (operands : Operands) (given : List String) :
    Except Stop (Reading κ) :=
  match arguments flags given with
  | .ok found => read operands found
  | .error cause => .error (.misuse (.ambiguous cause))

end Bindery.CommandLine
