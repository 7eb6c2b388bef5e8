import Bindery.Draft
import Bindery.Value.Literal

/-!
# Build reports

A report counts what a compilation rendered and skipped, by the kind as the record names it, and
logs every count as it is made. The counts stand in the order in which the kinds first came.
-/

namespace Bindery

/-- How often each kind came. -/
abbrev Tally := Table Value.Key Nat

namespace Tally

/-- Counts a kind once more. Kinds that cannot be told apart as keys are refused. -/
def count (kind : Value) (t : Tally) : Except Fault Tally :=
  if kind.isKey then .ok (t.alter ⟨kind⟩ fun n => n.getD 0 + 1) else .error .wrongType

/-- How much was counted in all. -/
def total : Tally → Nat
  | [] => 0
  | (_, n) :: rest => n + total rest

/-- The counts in words. -/
def text (t : Tally) : String :=
  ", ".intercalate (t.map fun (kind, n) => toString n ++ " " ++ kind.value.display)

end Tally

/-- What was rendered and what was skipped. -/
structure Report where
  rendered : Tally
  skipped : Tally

namespace Report

/-- The part of the build that reports. -/
def component : String := "compiler"

def empty : Report := ⟨[], []⟩

/-- A kind that is not named is called a node. -/
def kindOrNode (kind : Value) : Value := kind.orElse (.string "node")

/-- Counts a document. -/
def document (kind name path : Value) (r : Report) : Draft Report := do
  let rendered ← Draft.ofExcept (r.rendered.count kind)
  Draft.log .debug component
    ("Rendered " ++ kind.display ++ " " ++ name.literal ++ " into " ++ path.display)
  return { r with rendered := rendered }

/-- Counts an entity that has no document. -/
def skip (kind name : Value) (r : Report) : Draft Report := do
  let skipped ← Draft.ofExcept (r.skipped.count (kindOrNode kind))
  Draft.log .debug component ("Skipping " ++ (kindOrNode kind).display ++ " " ++ name.literal)
  return { r with skipped := skipped }

/-- The counts in one sentence. -/
def summary (r : Report) : String :=
  let rendered := if r.rendered.isEmpty then "nothing" else r.rendered.text
  let skipped :=
    if r.skipped.isEmpty then ""
    else "; skipped " ++ toString r.skipped.total ++ " (" ++ r.skipped.text ++ ")"
  "Rendered " ++ toString r.rendered.total ++ " entities (" ++ rendered ++ ")" ++ skipped

/-- Logs the counts. -/
def finish (r : Report) : Draft Unit := Draft.log .info component r.summary

end Report

end Bindery
