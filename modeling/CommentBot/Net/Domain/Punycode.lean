/-!
# Letters beyond ASCII in ASCII

A label with letters beyond ASCII can be written in ASCII: first its ASCII characters and a hyphen, then where
the others have to be inserted, in the order of their code points. Each insertion is the distance from the one
before, a number of digits in base 36 with the lowest first, where each place has a threshold and the first
digit below it is the last of its number. The thresholds follow the size of the numbers read so far.

Numbers beyond 32 bits are refused.
-/

namespace CommentBot.Net.Domain.Punycode

/-- The value of a digit: the letters of either size come before the decimal digits. -/
def digit? (c : Char) : Option Nat :=
  if c.isLower then some (c.toNat - 97)
  else if c.isUpper then some (c.toNat - 65)
  else if c.isDigit then some (c.toNat - 22)
  else none

/-- The threshold of the place `place`, which counts 36 for each digit. -/
def threshold (place bias : Nat) : Nat :=
  if place ≤ bias then 1 else if bias + 26 ≤ place then 26 else place - bias

/-- How often a distance can be divided by 35 before it is at most 455, and what is left of it. -/
def shrink (delta : Nat) : Nat × Nat :=
  if 455 < delta then
    let (times, rest) := shrink (delta / 35)
    (times + 1, rest)
  else (0, delta)
termination_by delta
decreasing_by exact Nat.div_lt_self (by omega) (by omega)

/-- The bias after a distance has been read, for a label that then has `length` characters. -/
def adapt (delta length : Nat) (first : Bool) : Nat :=
  let delta := if first then delta / 700 else delta / 2
  let (times, rest) := shrink (delta + delta / length)
  36 * times + 36 * rest / (rest + 38)

/-- Adds the number at the front to `sum`, from the place `place` on, and returns what follows it. -/
def readNumber? (bias : Nat) : List Char → Nat → Nat → Nat → Option (Nat × List Char)
  | [], _, _, _ => none
  | c :: rest, place, weight, sum => do
    let digit ← digit? c
    let sum := sum + digit * weight
    let limit := threshold place bias
    if UInt32.size ≤ sum then none
    else if digit < limit then some (sum, rest)
    else if UInt32.size ≤ weight * (36 - limit) then none
    else readNumber? bias rest (place + 36) (weight * (36 - limit)) sum

theorem length_readNumber?_lt {bias : Nat} {text rest : List Char} {place weight sum sum' : Nat}
    (h : readNumber? bias text place weight sum = some (sum', rest)) : rest.length < text.length := by
  induction text generalizing place weight sum with
  | nil => simp [readNumber?] at h
  | cons c tail ih =>
    rw [readNumber?] at h
    cases hd : digit? c with
    | none => simp [hd] at h
    | some digit =>
      simp only [hd, Option.bind_eq_bind, Option.bind_some] at h
      split at h
      · cases h
      split at h
      · cases h; simp
      split at h
      · cases h
      · exact Nat.lt_succ_of_lt (ih h)

/-- Whether the number is the code point of a character. -/
def isCodePoint (n : Nat) : Bool := n < 0xD800 || (0xDFFF < n && n < 0x110000)

/-- Inserts the characters that are still to come into `text`: none of them has a code point below `code`, and
of those that have it, none stands in front of the position `position`. -/
def insertFrom? (bias code position : Nat) (text code' : List Char) : Option (List Char) :=
  match code' with
  | [] => some text
  | c :: tail =>
    match _h : readNumber? bias (c :: tail) 36 1 position with
    | none => none
    | some (sum, rest) =>
      let length := text.length + 1
      let code := code + sum / length
      if isCodePoint code then
        insertFrom? (adapt (sum - position) length (position == 0)) code (sum % length + 1)
          (text.insertIdx (sum % length) (Char.ofNat code)) rest
      else none
termination_by code'.length
decreasing_by exact length_readNumber?_lt _h

/-- The text up to the last hyphen, and what follows it. A hyphen at the very front does not count. -/
def splitLast (text : List Char) : List Char × List Char :=
  let code := (text.reverse.takeWhile (· ≠ '-')).reverse
  let basic := text.take (text.length - code.length - 1)
  if basic.isEmpty then ([], text) else (basic, code)

/-- The label that is written by ASCII characters. -/
def decode? (text : List Char) : Option (List Char) :=
  let (basic, code) := splitLast text
  insertFrom? 72 128 0 (basic.map Char.toLower) code

end CommentBot.Net.Domain.Punycode
