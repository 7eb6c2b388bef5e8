/-!
# Dates and moments

Days of the proleptic Gregorian calendar from year 1 to year 9999, and moments of such a day with an
optional distance from universal time.
-/

namespace Bindery

/-- A day. -/
structure Date where
  year : Nat
  month : Nat
  day : Nat
deriving DecidableEq

/-- A time of a day; `offset` is the distance from universal time in minutes. -/
structure Moment where
  date : Date
  hour : Nat
  minute : Nat
  second : Nat
  microsecond : Nat
  offset : Option Int
deriving DecidableEq

namespace Date

def isLeap (year : Nat) : Bool := year % 4 == 0 && (year % 100 != 0 || year % 400 == 0)

def daysIn (year month : Nat) : Nat :=
  if month = 2 then (if isLeap year then 29 else 28)
  else if month = 4 ∨ month = 6 ∨ month = 9 ∨ month = 11 then 30 else 31

/-- Does the calendar have the day? -/
def isValid (d : Date) : Bool :=
  1 ≤ d.year && d.year ≤ 9999 && 1 ≤ d.month && d.month ≤ 12 && 1 ≤ d.day &&
    d.day ≤ daysIn d.year d.month

/-- The number of the day, counted from the first day of year 1. -/
def ordinal (d : Date) : Nat :=
  let y := d.year - 1
  let months := (List.range (d.month - 1)).foldl (fun n m => n + daysIn d.year (m + 1)) 0
  y * 365 + y / 4 - y / 100 + y / 400 + months + d.day

/-- The day that is so many days behind the first day of the year 1970. Years are counted from
March, and four centuries always have the same number of days. -/
def ofUnixDay (n : Nat) : Date :=
  let day := n + 719468
  let century := day / 146097
  let rest := day % 146097
  let year := (rest - rest / 1460 + rest / 36524 - rest / 146096) / 365
  let ofYear := rest - (365 * year + year / 4 - year / 100)
  let month := (5 * ofYear + 2) / 153
  let later := 10 ≤ month
  ⟨400 * century + year + (if later then 1 else 0), if later then month - 9 else month + 3,
    ofYear - (153 * month + 2) / 5 + 1⟩

/-- The number with zeros at the left, at least `width` digits long. -/
def padded (width n : Nat) : String :=
  let digits := Nat.toDigits 10 n
  String.ofList (List.replicate (width - digits.length) '0' ++ digits)

/-- Year, month and day joined by hyphens. -/
def text (d : Date) : String :=
  padded 4 d.year ++ "-" ++ padded 2 d.month ++ "-" ++ padded 2 d.day

end Date

namespace Moment

open Date (padded)

/-- Are the day, the time and the offset possible? -/
def isValid (m : Moment) : Bool :=
  m.date.isValid && m.hour < 24 && m.minute < 60 && m.second < 60 &&
    match m.offset with
    | none => true
    | some minutes => minutes.natAbs < 1440

/-- Microseconds from the first moment of the calendar, in universal time if the moment has an
offset. -/
def instant (m : Moment) : Int :=
  let minutes : Int := ((m.date.ordinal * 24 + m.hour) * 60 + m.minute : Nat)
  ((minutes - m.offset.getD 0) * 60 + m.second) * 1000000 + m.microsecond

/-- Do two moments name the same point of time? A moment with an offset never equals one without. -/
def same (a b : Moment) : Bool := a.offset.isSome == b.offset.isSome && a.instant == b.instant

/-- The offset as a sign, hours and minutes. -/
def offsetText (minutes : Int) : String :=
  (if minutes < 0 then "-" else "+") ++ padded 2 (minutes.natAbs / 60) ++ ":" ++
    padded 2 (minutes.natAbs % 60)

/-- The day, the time, the microseconds where there are any, and the offset. -/
def text (m : Moment) : String :=
  m.date.text ++ " " ++ padded 2 m.hour ++ ":" ++ padded 2 m.minute ++ ":" ++ padded 2 m.second ++
    (if m.microsecond = 0 then "" else "." ++ padded 6 m.microsecond) ++
    (match m.offset with
      | none => ""
      | some minutes => offsetText minutes)

end Moment

end Bindery
