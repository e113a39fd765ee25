import CommentBot.Text.Blank
import CommentBot.Time.Instant

/-!
# Reading dates

Dates are read leniently: numbers need no padding, blanks may stand around the parts of the date and of the
time, and the offset may be written in several ways. The text is read from the left; only when nothing is
left over is it asked whether there is such a date.
-/

namespace CommentBot.Time

/-- Why a text is no date. -/
inductive DateError
  /-- The text ends too early. -/
  | premature
  /-- A character stands where another one should. -/
  | invalid
  /-- A number is too large or too small. -/
  | outOfRange
  /-- Something follows the date. -/
  | trailing
  /-- The offset leads beyond the last instant. -/
  | impossible
  deriving DecidableEq, Repr

/-- The words for the error. -/
def DateError.message : DateError → String
  | .premature => "premature end of input"
  | .invalid => "input contains invalid characters"
  | .outOfRange => "input is out of range"
  | .trailing => "trailing input"
  | .impossible => "no possible date and time matching input"

/-- Refuses numbers of more than 63 bits. -/
def bounded (n : Nat) : Except DateError Nat :=
  if n < Nat.pow 2 63 then .ok n else .error .outOfRange

/-- The number that decimal digits write. -/
def valueOf (digits : List Char) : Nat := digits.foldl (fun n c => 10 * n + (c.toNat - 48)) 0

/-- A number of at least one digit; `digits` are those at the front. -/
def number (digits text : List Char) : Except DateError (Nat × List Char) :=
  match digits, text with
  | [], [] => .error .premature
  | [], _ => .error .invalid
  | digits, text => do return (← bounded (valueOf digits), text.drop digits.length)

/-- A number of at most `width` digits. -/
def shortNumber (width : Nat) (text : List Char) : Except DateError (Nat × List Char) :=
  number ((text.take width).takeWhile Char.isDigit) text

/-- A number of any length. -/
def longNumber (text : List Char) : Except DateError (Nat × List Char) := number (text.takeWhile Char.isDigit) text

/-- A year: at most four digits, or a sign and any number of digits. -/
def scanYear (text : List Char) : Except DateError (Int × List Char) := do
  let (year, rest) ← match Text.trimStart text with
    | '-' :: rest => do
      let (n, rest) ← longNumber rest
      pure ((-n : Int), rest)
    | '+' :: rest => do
      let (n, rest) ← longNumber rest
      pure ((n : Int), rest)
    | rest => do
      let (n, rest) ← shortNumber 4 rest
      pure ((n : Int), rest)
  if -2147483648 ≤ year && year < 2147483648 then return (year, rest) else .error .outOfRange

/-- A number of at most two digits between two bounds. -/
def scanField (low high : Nat) (text : List Char) : Except DateError (Nat × List Char) := do
  let (n, rest) ← shortNumber 2 (Text.trimStart text)
  if low ≤ n && n ≤ high then return (n, rest) else .error .outOfRange

/-- One character between the numbers. -/
def scanMark (mark : Char) (text : List Char) : Except DateError (List Char) :=
  match Text.trimStart text with
  | [] => .error .premature
  | c :: rest => if c = mark then .ok rest else .error .invalid

/-- The character between date and time. -/
def scanJoint : List Char → Except DateError (List Char)
  | [] => .error .premature
  | c :: rest => if c = 'T' || c = 't' || c = ' ' then .ok rest else .error .invalid

/-- A fraction of a second, in nanoseconds. Digits after the ninth are dropped. -/
def scanFraction : List Char → Except DateError (Nat × List Char)
  | '.' :: rest => do
    let (n, after) ← shortNumber 9 rest
    return (n * Nat.pow 10 (9 - (rest.length - after.length)), after.dropWhile Char.isDigit)
  | rest => .ok (0, rest)

/-- Two digits of an offset. -/
def scanPair : List Char → Except DateError ((Nat × Nat) × List Char)
  | [] => .error .premature
  | [c] => .error (if c.toNat < 128 then .premature else .invalid)
  | c :: d :: rest =>
    if c.isDigit && d.isDigit then .ok ((c.toNat - 48, d.toNat - 48), rest) else .error .invalid

/-- A signed offset, in seconds. -/
def scanSigned (negative : Bool) (text : List Char) : Except DateError (Int × List Char) := do
  let ((tens, ones), rest) ← scanPair text
  let rest := rest.dropWhile fun c => c = ':' || Text.isBlank c
  let ((minuteTens, minuteOnes), rest) ← scanPair rest
  if 6 ≤ minuteTens then .error .outOfRange
  let seconds : Int := ((10 * tens + ones) * 3600 + (10 * minuteTens + minuteOnes) * 60 : Nat)
  return (if negative then -seconds else seconds, rest)

/-- The offset from Coordinated Universal Time, in seconds. -/
def scanOffset (text : List Char) : Except DateError (Int × List Char) :=
  match text with
  | 'Z' :: rest => .ok (0, rest)
  | 'z' :: rest => .ok (0, rest)
  | '+' :: rest => scanSigned false rest
  | '-' :: rest => scanSigned true rest
  | '−' :: rest => scanSigned true rest
  | u :: t :: c :: rest =>
    if u.toUpper = 'U' && t.toUpper = 'T' && c.toUpper = 'C' then .ok (0, rest) else .error .invalid
  | [] => .error .premature
  | _ => .error .invalid

/-- The instant that a local time stands for. -/
def Instant.ofLocal (date : Date) (second nano : Nat) (offset : Int) : Except DateError Instant :=
  if !date.isValid || !inRange date.toDayNumber || 86400 ≤ offset.natAbs then .error .outOfRange
  else
    let seconds := date.toDayNumber * 86400 + second - offset
    match Instant.ofParts? (seconds / 86400) (seconds % 86400).toNat nano with
    | some t => .ok t
    | none => .error .impossible

/-- Reads an instant. -/
def Instant.read (text : String) : Except DateError Instant := do
  let (year, rest) ← scanYear text.toList
  let rest ← scanMark '-' rest
  let (month, rest) ← scanField 1 12 rest
  let rest ← scanMark '-' rest
  let (day, rest) ← scanField 1 31 rest
  let rest ← scanJoint rest
  let (hour, rest) ← scanField 0 23 rest
  let rest ← scanMark ':' rest
  let (minute, rest) ← scanField 0 59 rest
  let rest ← scanMark ':' rest
  let (second, rest) ← scanField 0 60 rest
  let (nano, rest) ← scanFraction rest
  let (offset, rest) ← scanOffset (Text.trimStart rest)
  if !(Text.trimStart rest).isEmpty then .error .trailing
  let (second, nano) := if second = 60 then (59, nano + 1000000000) else (second, nano)
  Instant.ofLocal ⟨year, month, day⟩ (hour * 3600 + minute * 60 + second) nano offset

end CommentBot.Time
