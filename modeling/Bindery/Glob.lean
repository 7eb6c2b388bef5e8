import Bindery.FileTree

/-!
# Path patterns

A pattern is a path whose segments may hold wildcards. A star stands for any characters of a name, a
question mark for one, and a bracket for one of a set. Two stars alone stand for a directory and all
directories below it. Names that begin with a dot are matched like all others.

The paths that a pattern matches are those of a directory tree that the segments lead to one by one.
-/

namespace Bindery.Glob

/-! ## Names -/

/-- One part of a pattern of names. -/
inductive Piece where
  | star
  | any
  | one (c : Char)
  /-- One character in, or unless negated outside, a union of ranges. -/
  | oneOf (negated : Bool) (ranges : List (Char × Char))
deriving DecidableEq, Repr

namespace Piece

/-- Does a character that stands alone fit the piece? -/
def fits (c : Char) : Piece → Bool
  | star => false
  | any => true
  | one d => c == d
  | oneOf negated ranges =>
      (ranges.any fun (low, high) => low ≤ c && c ≤ high) != negated

end Piece

/-- Does a name match the pieces from its start to its end? -/
def isMatch : List Piece → List Char → Bool
  | [], cs => cs.isEmpty
  | .star :: ps, [] => isMatch ps []
  | .star :: ps, c :: cs => isMatch ps (c :: cs) || isMatch (.star :: ps) cs
  | _ :: _, [] => false
  | p :: ps, c :: cs => p.fits c && isMatch ps cs
termination_by ps cs => ps.length + cs.length
decreasing_by all_goals simp_all +arith

/-! ## Sets -/

/-- Cuts a set at the hyphens that make ranges: `skip` characters are passed over before the next
one is looked for. -/
def cutRanges : (skip : Nat) → (chunk : List Char) → List Char → List (List Char)
  | _, chunk, [] => [chunk]
  | 0, chunk, c :: rest =>
      if c = '-' then chunk :: cutRanges 2 [] rest else cutRanges 0 (chunk ++ [c]) rest
  | skip + 1, chunk, c :: rest => cutRanges skip (chunk ++ [c]) rest

/-- A hyphen before the end of a set stands for itself. -/
def keepLastHyphen : List (List Char) → List (List Char)
  | [chunk, []] => [chunk ++ ['-']]
  | chunk :: rest => chunk :: keepLastHyphen rest
  | [] => []

/-- Drops the ranges that hold nothing, with both their ends; the last one is looked at first. -/
def dropEmptyRanges : List (List Char) → List (List Char)
  | [] => []
  | chunk :: rest =>
      match dropEmptyRanges rest with
      | [] => [chunk]
      | next :: more =>
          match chunk.getLast?, next.head? with
          | some low, some high =>
              if high < low then (chunk.dropLast ++ next.tail) :: more else chunk :: next :: more
          | _, _ => chunk :: next :: more

/-- The ranges of chunks: each character alone, and from the end of one chunk to the start of the
next. A hyphen with nothing before it stands for itself. -/
def rangesOf : List (List Char) → List (Char × Char)
  | [] => []
  | [chunk] => chunk.map fun c => (c, c)
  | chunk :: next :: more =>
      let joint := match chunk.getLast?, next.head? with
        | some low, some high => (low, high)
        | _, _ => ('-', '-')
      (chunk.map fun c => (c, c)) ++ joint :: rangesOf (next :: more)

/-- The set that stands between brackets. An exclamation mark at its start negates it. -/
def setOf (inside : List Char) : Piece :=
  let start := if inside.head? = some '!' then 2 else 1
  let chunks := dropEmptyRanges (keepLastHyphen (cutRanges start [] inside))
  match chunks with
  | ('!' :: chunk) :: more => .oneOf true (rangesOf (chunk :: more))
  | chunks => .oneOf false (rangesOf chunks)

/-- What stands up to the closing bracket, and what follows it. A closing bracket at the start of
the set belongs to it. -/
def bracket? (cs : List Char) : Option (List Char × List Char) :=
  let (mark, rest) := match cs with
    | '!' :: ']' :: rest => (['!', ']'], rest)
    | '!' :: rest => (['!'], rest)
    | ']' :: rest => ([']'], rest)
    | rest => ([], rest)
  match rest.dropWhile (· ≠ ']') with
  | _ :: after => some (mark ++ rest.takeWhile (· ≠ ']'), after)
  | [] => none

/-- The pieces of a pattern of names; `fuel` bounds the characters that are left. -/
def piecesFrom : Nat → List Char → List Piece
  | 0, _ => []
  | _, [] => []
  | fuel + 1, c :: rest =>
      if c = '*' then .star :: piecesFrom fuel rest
      else if c = '?' then .any :: piecesFrom fuel rest
      else if c = '[' then
        match bracket? rest with
        | some (inside, after) => setOf inside :: piecesFrom fuel after
        | none => .one '[' :: piecesFrom fuel rest
      else .one c :: piecesFrom fuel rest

/-- The pieces of a pattern of names. -/
def pieces (pattern : String) : List Piece := piecesFrom pattern.toList.length pattern.toList

/-! ## Paths -/

/-- One segment of a pattern. -/
inductive Segment where
  | above
  /-- A directory and all directories below it. -/
  | deep
  | exact (name : String)
  | wild (pieces : List Piece)
deriving DecidableEq, Repr

/-- Do two stars stand beside each other? -/
def hasTwoStars : List Char → Bool
  | '*' :: '*' :: _ => true
  | _ :: rest => hasTwoStars rest
  | [] => false

/-- The segment that a text writes down. -/
def Segment.ofString (s : String) : Except Fault Segment :=
  if s = "**" then .ok .deep
  else if s = ".." then .ok .above
  else if hasTwoStars s.toList then .error (.pattern .strayStars)
  else if s.toList.any fun c => c = '*' || c = '?' || c = '[' then .ok (.wild (pieces s))
  else .ok (.exact s)

/-- A pattern of paths; `inside` tells whether it ends with a slash and so matches directories
alone. -/
structure Pattern where
  segments : List Segment
  inside : Bool

/-- The pattern that a text writes down. -/
def Pattern.ofString (s : String) : Except Fault Pattern :=
  let inside := s.toList.getLast? = some '/'
  let path := Path.ofString s
  if s.isEmpty then .error (.pattern .empty)
  else if path.isAbsolute then .error (.pattern .absolute)
  else if path.segments.isEmpty then
    .error (.pattern (if inside then .noSegmentInside else .noSegment))
  else do return ⟨← path.segments.mapM Segment.ofString, inside⟩

/-- A path one segment further. -/
def child (p : Path) (name : String) : Path := { p with segments := p.segments ++ [name] }

/-- A directory and all directories below it. -/
def directoriesFrom (t : FileTree) (p : Path) (place : Place) : List Path :=
  p :: t.entries.filterMap fun (other, stored) =>
    match stored with
    | .directory =>
        if place.isPrefixOf other ∧ other ≠ place then
          some { p with segments := p.segments ++ other.drop place.length }
        else none
    | .file _ => none

/-- Each path once. -/
def distinct : List Path → List Path
  | [] => []
  | p :: rest => p :: (distinct rest).filter (· ≠ p)

/-- The paths that segments lead to from a directory. -/
def select (t : FileTree) (inside : Bool) : List Segment → Path → Except Fault (List Path)
  | [], p => .ok [p]
  | .above :: rest, p => select t inside rest (child p "..")
  | .exact name :: rest, p => do
      let next := child p name
      let found ← if rest.isEmpty && !inside then t.exists? next else t.isDirectory next
      if found then select t inside rest next else return []
  | .wild pieces :: rest, p => do
      let place ← t.find p
      let names := (t.namesIn place).filter fun name =>
        isMatch pieces name.toList &&
          ((rest.isEmpty && !inside) || t.at? (place ++ [name]) == some .directory)
      return (← names.mapM fun name => select t inside rest (child p name)).flatten
  | .deep :: rest, p => do
      let place ← t.find p
      return distinct (← (directoriesFrom t p place).mapM fun q => select t inside rest q).flatten

/-- The paths below a directory that a pattern matches, in the order of their segments. -/
def paths (t : FileTree) (directory : Path) (pattern : String) : Except Fault (List Path) := do
  let pattern ← Pattern.ofString pattern
  if ← t.isDirectory directory then
    return (← select t pattern.inside pattern.segments directory).mergeSort fun p q =>
      !(q.segments < p.segments)
  else return []

end Bindery.Glob
