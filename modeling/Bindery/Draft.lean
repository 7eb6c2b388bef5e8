import Bindery.Fault
import Bindery.Log
import Bindery.Token

/-!
# Drafts

A draft is what a step of the compiler did, in order, and how it ended: it wrote lines, it logged
entries, and it gave a result or stopped with a fault. What was written and logged before a fault is
kept. Drafts follow one another as a monad; writing never looks back at what was written.
-/

namespace Bindery

/-- A line of a document. The tokens of a scanned line are references; a verbatim line has none. -/
inductive Line where
  | scanned (text : String)
  | verbatim (text : String)
deriving DecidableEq, Repr

namespace Line

def text : Line → String
  | scanned s | verbatim s => s

/-- The reference tokens that the line adds to its document. -/
def references : Line → List String
  | scanned s => Token.scan s
  | verbatim _ => []

end Line

/-- One thing that a step did. -/
inductive Mark where
  | line (l : Line)
  | entry (e : Log.Entry)
deriving DecidableEq

namespace Mark

def line? : Mark → Option Line
  | line l => some l
  | entry _ => none

def logged? : Mark → Option Log.Entry
  | line _ => none
  | entry e => some e

end Mark

/-- What a step did and how it ended. -/
structure Draft (α : Type) where
  marks : List Mark
  outcome : Except Fault α

namespace Draft

variable {α β : Type}

/-! ## Views -/

/-- The lines that were written. -/
def lines (d : Draft α) : List Line := d.marks.filterMap Mark.line?

/-- The entries that were logged. -/
def entries (d : Draft α) : List Log.Entry := d.marks.filterMap Mark.logged?

/-! ## Steps and their sequence -/

/-- The second step follows if the first one gives a result. -/
def andThen (d : Draft α) (next : α → Draft β) : Draft β :=
  match d.outcome with
  | .ok a => ⟨d.marks ++ (next a).marks, (next a).outcome⟩
  | .error fault => ⟨d.marks, .error fault⟩

instance : Monad Draft where
  pure a := ⟨[], .ok a⟩
  bind := andThen

/-- Writes a line. -/
def write (l : Line) : Draft Unit := ⟨[.line l], .ok ()⟩

/-- Logs an entry. -/
def log (level : Log.Level) (part message : String) : Draft Unit :=
  ⟨[.entry ⟨level, Log.loggerName part, message⟩], .ok ()⟩

/-- Stops with a fault. -/
def fail (fault : Fault) : Draft α := ⟨[], .error fault⟩

/-- A step that only gives a result or stops. -/
def ofExcept (outcome : Except Fault α) : Draft α := ⟨[], outcome⟩

/-- Turns the written lines into a part of the result; the logged entries stay where they are. -/
def capture (d : Draft α) : Draft (List Line × α) :=
  ⟨d.marks.filter fun mark => mark.logged?.isSome, d.outcome.map fun a => (d.lines, a)⟩

/-- Runs a step for each member in order. -/
def each (f : α → Draft β) : List α → Draft (List β)
  | [] => pure []
  | a :: rest => do
      let b ← f a
      let more ← each f rest
      return b :: more

/-- Runs a step for each member in order, for its lines and entries. -/
def forEach (f : α → Draft Unit) : List α → Draft Unit
  | [] => pure ()
  | a :: rest => do
      f a
      forEach f rest

/-! ## What steps did -/

@[simp] theorem pure_marks (a : α) : (pure a : Draft α).marks = [] := rfl

@[simp] theorem pure_outcome (a : α) : (pure a : Draft α).outcome = .ok a := rfl

theorem bind_of_ok {d : Draft α} {a : α} (h : d.outcome = .ok a) (next : α → Draft β) :
    d >>= next = ⟨d.marks ++ (next a).marks, (next a).outcome⟩ := by
  show d.andThen next = _
  simp [andThen, h]

theorem bind_of_error {d : Draft α} {fault : Fault} (h : d.outcome = .error fault)
    (next : α → Draft β) : d >>= next = ⟨d.marks, .error fault⟩ := by
  show d.andThen next = _
  simp [andThen, h]

theorem andThen_pure (d : Draft α) : d.andThen (fun a => ⟨[], .ok a⟩) = d := by
  obtain ⟨marks, outcome⟩ := d
  cases outcome <;> simp [andThen]

theorem andThen_assoc {γ : Type} (d : Draft α) (f : α → Draft β) (g : β → Draft γ) :
    (d.andThen f).andThen g = d.andThen fun a => (f a).andThen g := by
  obtain ⟨marks, outcome⟩ := d
  cases outcome with
  | error fault => simp [andThen]
  | ok a => cases h : (f a).outcome <;> simp [andThen, h]

instance : LawfulMonad Draft :=
  LawfulMonad.mk' Draft (fun d => andThen_pure d) (fun a f =>
    by show andThen ⟨[], .ok a⟩ f = f a; simp [andThen])
    (fun d f g => andThen_assoc d f g)

end Draft

end Bindery
