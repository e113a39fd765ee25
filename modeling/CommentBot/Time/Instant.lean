import CommentBot.Time.Calendar

/-!
# Points in time

An instant is a day in Coordinated Universal Time, a second of that day and a fraction. The fraction of a
leap second continues that of the last second of its minute.
-/

namespace CommentBot.Time

/-- Whether the year of a day has a number that instants can have. -/
def inRange (day : Int) : Bool :=
  (Date.mk (-262143) 1 1).toDayNumber ≤ day && day ≤ (Date.mk 262142 12 31).toDayNumber

/-- A point in time, to the nanosecond. -/
structure Instant where
  /-- Days since 1970-01-01. -/
  day : Int
  /-- Seconds since midnight. -/
  second : Nat
  /-- Nanoseconds since the beginning of the second; a leap second counts on from a full one. -/
  nano : Nat
  day_inRange : inRange day = true
  second_lt : second < 86400
  nano_lt : nano < 2000000000
  leap_last : 1000000000 ≤ nano → second % 60 = 59
  deriving DecidableEq, Repr

/-- The beginning of the count of days. -/
def Instant.epoch : Instant where
  day := 0
  second := 0
  nano := 0
  day_inRange := by decide
  second_lt := by decide
  nano_lt := by decide
  leap_last := by decide

/-- The point in time with these parts, if there is one. -/
def Instant.ofParts? (day : Int) (second nano : Nat) : Option Instant :=
  if h : inRange day = true ∧ second < 86400 ∧ nano < 2000000000 ∧
      (1000000000 ≤ nano → second % 60 = 59) then
    some ⟨day, second, nano, h.1, h.2.1, h.2.2.1, h.2.2.2⟩
  else none

/-! ## Writing -/

/-- A number with leading zeros up to a width. -/
def padded (width n : Nat) : String :=
  let digits := Nat.toDigits 10 n
  String.ofList (List.replicate (width - digits.length) '0' ++ digits)

/-- A year: four digits, or a sign and at least four digits outside the years 0 to 9999. -/
def yearText (year : Int) : String :=
  if 0 ≤ year && year ≤ 9999 then padded 4 year.toNat
  else (if year < 0 then "-" else "+") ++ padded 4 year.natAbs

/-- A fraction of a second in thousandths, millionths or billionths, the fewest digits that lose nothing. -/
def fractionText (nano : Nat) : String :=
  if nano = 0 then ""
  else if nano % 1000000 = 0 then "." ++ padded 3 (nano / 1000000)
  else if nano % 1000 = 0 then "." ++ padded 6 (nano / 1000)
  else "." ++ padded 9 nano

/-- The text of an instant in RFC 3339. -/
def Instant.text (t : Instant) : String :=
  let date := Date.ofDayNumber t.day
  let isLeap := 1000000000 ≤ t.nano
  let second := t.second % 60 + (if isLeap then 1 else 0)
  let nano := if isLeap then t.nano - 1000000000 else t.nano
  yearText date.year ++ "-" ++ padded 2 date.month ++ "-" ++ padded 2 date.day ++ "T" ++
    padded 2 (t.second / 3600) ++ ":" ++ padded 2 (t.second / 60 % 60) ++ ":" ++ padded 2 second ++
    fractionText nano ++ "Z"

end CommentBot.Time
