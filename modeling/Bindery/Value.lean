import Bindery.Calendar
import Bindery.Decimal.Double
import Bindery.Table

/-!
# Values

The data that reflection records, settings and front matter are made of. A value keeps the order in
which the keys of a mapping came; a mapping read from text never binds a key twice.
-/

namespace Bindery

/-- A piece of data as it was read. -/
inductive Value where
  | null
  | bool (b : Bool)
  | int (i : Int)
  | float (x : Float)
  | string (s : String)
  | list (items : List Value)
  | map (entries : List (Value × Value))
  /-- The members of a set, each once. -/
  | set (members : List Value)
  /-- One entry of an ordered mapping. -/
  | pair (first second : Value)
  | date (d : Date)
  | moment (m : Moment)
  | bytes (content : List UInt8)
  /-- A list or a mapping that stands inside itself. -/
  | outer (isMapping : Bool)
deriving Inhabited

namespace Value

/-! ## Truth and membership -/

/-- Is the value neither null, false, zero nor empty? -/
def isTruthy : Value → Bool
  | null => false
  | bool b => b
  | int i => i != 0
  | float x => !(x == 0.0)
  | string s => !s.isEmpty
  | list items => !items.isEmpty
  | map entries => !entries.isEmpty
  | set members => !members.isEmpty
  | pair _ _ | date _ | moment _ | outer _ => true
  | bytes content => !content.isEmpty

/-- The value itself if it is truthy, and the other one otherwise. -/
def orElse (v other : Value) : Value := if v.isTruthy then v else other

/-- What a walk over the value meets: items, characters, keys or members. -/
def members? : Value → Option (List Value)
  | string s => some (s.toList.map fun c => string (String.singleton c))
  | list items => some items
  | map entries => some (entries.map Prod.fst)
  | set members => some members
  | pair first second => some [first, second]
  | bytes content => some (content.map fun b => int b.toNat)
  | _ => none

def text? : Value → Option String
  | string s => some s
  | _ => none

/-! ## Keys -/

/-- Can the value be the key of a mapping or a member of a set? -/
def isKey : Value → Bool
  | list _ | map _ | set _ | outer _ => false
  | pair first second => first.isKey && second.isKey
  | _ => true

/-- The whole number that a number or a truth value equals. -/
def whole? : Value → Option Int
  | bool b => some (if b then 1 else 0)
  | int i => some i
  | float x => (Decimal.Double.ofFloat x).toInt?
  | _ => none

/-- Do two values name the same key? Numbers and truth values are compared by value. -/
def sameKey : Value → Value → Bool
  | null, null => true
  | float x, float y => x == y || (x.isNaN && y.isNaN)
  | string s, string t => s == t
  | date d, date e => d == e
  | moment m, moment n => m.same n
  | bytes a, bytes b => a == b
  | pair a b, pair c d => a.sameKey c && b.sameKey d
  | v, w =>
      match v.whole?, w.whole? with
      | some i, some j => i == j
      | _, _ => false

/-- The entry of a mapping under a text key. -/
def find? (key : String) : List (Value × Value) → Option Value
  | [] => none
  | (.string k, v) :: rest => if k = key then some v else find? key rest
  | _ :: rest => find? key rest

/-- The value under a text key, null where there is none. -/
def get (key : String) (entries : List (Value × Value)) : Value := (find? key entries).getD null

/-- What kind of data the value is, as messages name it. -/
def sortName : Value → String
  | null => "NoneType"
  | bool _ => "bool"
  | int _ => "int"
  | float _ => "float"
  | string _ => "str"
  | list _ => "list"
  | map _ => "dict"
  | set _ => "set"
  | pair _ _ => "tuple"
  | date _ => "date"
  | moment _ => "datetime"
  | bytes _ => "bytes"
  | outer isMapping => if isMapping then "dict" else "list"

/-- A key stands for itself under `sameKey`. -/
structure Key where
  value : Value

instance : BEq Key := ⟨fun a b => a.value.sameKey b.value⟩

/-- The mapping with the entries bound one after another. -/
def ofEntries (entries : List (Value × Value)) : Value :=
  .map ((Table.ofList (entries.map fun (k, v) => (Key.mk k, v))).map fun (k, v) => (k.value, v))

/-- The set of the members, each at its first place. -/
def ofMembers (members : List Value) : Value :=
  .set ((Table.ofList (members.map fun v => (Key.mk v, ()))).map fun (k, _) => k.value)

/-! ## Size of what lies under a key -/

theorem sizeOf_find?_lt {key : String} {entries : List (Value × Value)} {v : Value}
    (h : find? key entries = some v) : sizeOf v < sizeOf entries := by
  induction entries with
  | nil => simp [find?] at h
  | cons pair rest ih =>
      obtain ⟨k, w⟩ := pair
      cases k with
      | string s =>
          simp only [find?] at h
          split at h
          · cases h
            simp
            omega
          · have := ih h
            simp
            omega
      | _ =>
          simp only [find?] at h
          have := ih h
          simp
          omega

end Value

end Bindery
