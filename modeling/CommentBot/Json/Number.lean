import CommentBot.Decimal.Shortest
import CommentBot.Json.Fault

/-!
# Numbers

A `Numeral` is a number as it is written, a `Number` what it stands for: an integer if it is written
without point and exponent and fits into 64 bits, a double otherwise.

The double is computed from a significand of 64 bits, to which digits are appended while they fit, and one
multiplication or division by a power of ten; so its last place can differ from the nearest double.
-/

namespace CommentBot.Json

/-- The exponent of a numeral. -/
structure Exponent where
  negative : Bool
  digits : List Nat
  deriving DecidableEq, Repr

/-- A number as it is written. Without digits after the point there is no point. -/
structure Numeral where
  negative : Bool
  whole : List Nat
  fraction : List Nat
  exponent : Option Exponent
  deriving DecidableEq, Repr

/-! ## Scanning -/

/-- Whether the octet is a decimal digit. -/
def isDigit (octet : UInt8) : Bool := 48 ≤ octet && octet ≤ 57

/-- The digits at the front. -/
def leadingDigits (octets : List UInt8) : List Nat :=
  (octets.takeWhile isDigit).map (·.toNat - 48)

/-- What follows the digits at the front. -/
def afterDigits (octets : List UInt8) : List UInt8 := octets.dropWhile isDigit

/-- What a missing digit means: the text ends, or it goes on with something else. -/
def missingDigit (rest : List UInt8) : Fault :=
  if rest.isEmpty then .unfinishedNumber else Flaw.badNumber.fault

/-- One digit or more. -/
def scanDigits (octets : List UInt8) : Except Fault (List Nat × List UInt8) :=
  match leadingDigits octets with
  | [] => .error (missingDigit octets)
  | digits => .ok (digits, afterDigits octets)

/-- The digits in front of the point: a lone zero, or digits that do not start with zero. -/
def scanWhole (octets : List UInt8) : Except Fault (List Nat × List UInt8) := do
  let (digits, rest) ← scanDigits octets
  match digits with
  | 0 :: _ :: _ => .error Flaw.badNumber.fault
  | _ => .ok (digits, rest)

/-- The digits after the point, if there is one. -/
def scanFraction : List UInt8 → Except Fault (List Nat × List UInt8)
  | 46 :: rest => scanDigits rest
  | rest => .ok ([], rest)

/-- Splits off the sign of an exponent. -/
def exponentSign : List UInt8 → Bool × List UInt8
  | 43 :: rest => (false, rest)
  | 45 :: rest => (true, rest)
  | rest => (false, rest)

/-- The exponent, if there is one. -/
def scanExponent : List UInt8 → Except Fault (Option Exponent × List UInt8)
  | [] => .ok (none, [])
  | c :: rest =>
    if c = 101 || c = 69 then do
      let (negative, rest) := exponentSign rest
      let (digits, rest) ← scanDigits rest
      .ok (some ⟨negative, digits⟩, rest)
    else .ok (none, c :: rest)

/-- A numeral whose sign has been read. -/
def Numeral.scanUnsigned (negative : Bool) (octets : List UInt8) :
    Except Fault (Numeral × List UInt8) := do
  let (whole, rest) ← scanWhole octets
  let (fraction, rest) ← scanFraction rest
  let (exponent, rest) ← scanExponent rest
  .ok (⟨negative, whole, fraction, exponent⟩, rest)

/-- The numeral at the front, and what follows it. -/
def Numeral.scan : List UInt8 → Except Fault (Numeral × List UInt8)
  | 45 :: rest => scanUnsigned true rest
  | octets => scanUnsigned false octets

/-! ### What a scan leaves over -/

theorem length_afterDigits_le (octets : List UInt8) :
    (afterDigits octets).length ≤ octets.length :=
  (List.dropWhile_suffix _).length_le

theorem length_scanDigits_lt {octets rest : List UInt8} {digits : List Nat}
    (h : scanDigits octets = .ok (digits, rest)) : rest.length < octets.length := by
  cases octets with
  | nil => simp [scanDigits, leadingDigits] at h
  | cons c tail =>
    by_cases hc : isDigit c
    · simp only [scanDigits, leadingDigits, afterDigits, List.takeWhile_cons, hc, if_true,
        List.map_cons, List.dropWhile_cons, Except.ok.injEq, Prod.mk.injEq] at h
      rw [← h.2, List.length_cons]
      exact Nat.lt_succ_of_le (length_afterDigits_le tail)
    · simp [scanDigits, leadingDigits, hc] at h

theorem length_scanWhole_lt {octets rest : List UInt8} {digits : List Nat}
    (h : scanWhole octets = .ok (digits, rest)) : rest.length < octets.length := by
  unfold scanWhole at h
  cases hd : scanDigits octets with
  | error f => rw [hd] at h; cases h
  | ok p =>
    obtain ⟨digits', rest'⟩ := p
    rw [hd] at h
    have hrest : rest' = rest := by
      revert h
      simp only [bind, Except.bind]
      split
      · intro h; cases h
      · intro h; cases h; rfl
    exact hrest ▸ length_scanDigits_lt hd

theorem length_scanFraction_le {octets rest : List UInt8} {digits : List Nat}
    (h : scanFraction octets = .ok (digits, rest)) : rest.length ≤ octets.length := by
  unfold scanFraction at h
  split at h
  · exact Nat.le_of_lt (Nat.lt_succ_of_lt (length_scanDigits_lt h))
  · cases h; exact Nat.le_refl _

theorem length_exponentSign_le (octets : List UInt8) :
    (exponentSign octets).2.length ≤ octets.length := by
  unfold exponentSign
  split <;> simp

theorem length_scanExponent_le {octets rest : List UInt8} {exponent : Option Exponent}
    (h : scanExponent octets = .ok (exponent, rest)) : rest.length ≤ octets.length := by
  unfold scanExponent at h
  split at h
  · cases h; exact Nat.le_refl _
  · rename_i c tail
    split at h
    · simp only [bind, Except.bind] at h
      split at h
      · cases h
      · rename_i p hp
        cases h
        have h1 := length_scanDigits_lt hp
        have h2 := length_exponentSign_le tail
        simp only [List.length_cons]
        omega
    · cases h; exact Nat.le_refl _

theorem Numeral.length_scanUnsigned_lt {negative : Bool} {octets rest : List UInt8}
    {numeral : Numeral} (h : scanUnsigned negative octets = .ok (numeral, rest)) :
    rest.length < octets.length := by
  unfold scanUnsigned at h
  simp only [bind, Except.bind] at h
  split at h
  · cases h
  · rename_i whole hw
    split at h
    · cases h
    · rename_i fraction hf
      split at h
      · cases h
      · rename_i exponent he
        cases h
        have h1 := length_scanWhole_lt hw
        have h2 := length_scanFraction_le hf
        have h3 := length_scanExponent_le he
        omega

theorem Numeral.length_scan_lt {octets rest : List UInt8} {numeral : Numeral}
    (h : scan octets = .ok (numeral, rest)) : rest.length < octets.length := by
  unfold scan at h
  split at h
  · exact Nat.lt_succ_of_lt (length_scanUnsigned_lt h)
  · exact length_scanUnsigned_lt h

/-! ## Values -/

/-- What a numeral stands for. -/
inductive Number
  | integer (value : Int)
  | float (value : Float)

/-- Appends digits to a significand while it stays below `UInt64.size`, and returns the digits left over. -/
def appendDigits (significand : Nat) : List Nat → Nat × List Nat
  | [] => (significand, [])
  | digit :: digits =>
    if 10 * significand + digit < UInt64.size then appendDigits (10 * significand + digit) digits
    else (significand, digit :: digits)

/-- The power of ten nearest to `10 ^ n`. -/
def powerOfTen (n : Nat) : Float := Float.ofScientific 1 false n

/-- `x / 10 ^ n`, in steps that are doubles. -/
def scaleDown (x : Float) (n : Nat) : Float :=
  if n ≤ 308 then x / powerOfTen n
  else if x == 0 then x
  else scaleDown (x / powerOfTen 308) (n - 308)
termination_by n

/-- `significand * 10 ^ exponent`, unless it lies beyond the doubles. -/
def scale (significand : Nat) (exponent : Int) : Option Float :=
  let x := (UInt64.ofNat significand).toFloat
  if exponent < 0 then some (scaleDown x (-exponent).toNat)
  else if exponent.toNat ≤ 308 then
    let y := x * powerOfTen exponent.toNat
    if y.isInf then none else some y
  else if significand = 0 then some x
  else none

/-- The number that digits write. -/
def ofDigits (digits : List Nat) : Nat := digits.foldl (fun n d => 10 * n + d) 0

/-- The magnitude of a numeral as a double, unless it lies beyond the doubles. An exponent beyond 32 bits
is not computed with. -/
def Numeral.magnitude? (n : Numeral) : Option Float :=
  let (significand, surplus) := appendDigits 0 n.whole
  let (significand, unread) := appendDigits significand n.fraction
  let exponent : Int := surplus.length - (n.fraction.length - unread.length : Nat)
  match n.exponent with
  | none => scale significand exponent
  | some e =>
    let shift := ofDigits e.digits
    if shift < Nat.pow 2 31 then
      scale significand (if e.negative then exponent - shift else exponent + shift)
    else if significand = 0 || e.negative then some 0
    else none

/-- The integer that a numeral without point and exponent writes, if it is one of 64 bits. A negative zero
is none. -/
def Numeral.integer? (n : Numeral) : Option Int :=
  match n.fraction, n.exponent with
  | [], none =>
    let value := ofDigits n.whole
    if n.negative then if 0 < value && value ≤ Nat.pow 2 63 then some (-value) else none
    else if value < UInt64.size then some value else none
  | _, _ => none

/-- What the numeral stands for, unless it lies beyond the doubles. -/
def Numeral.number? (n : Numeral) : Option Number :=
  match n.integer? with
  | some value => some (.integer value)
  | none => n.magnitude?.map fun x => .float (if n.negative then -x else x)

/-! ## Texts -/

/-- A decimal: positional with at least one digit after the point if the leading digit lies between the
fifth place after the point and the sixteenth before it, and with an exponent otherwise. -/
def decimalText (d : Decimal.Digits) : List Char :=
  let digits := Nat.toDigits 10 d.digits
  let places := d.leading
  if -5 ≤ places && places < 0 then
    ['0', '.'] ++ List.replicate (-places - 1).toNat '0' ++ digits
  else if 0 ≤ places && places ≤ 15 then
    let width := places.toNat + 1
    let whole := digits.take width ++ List.replicate (width - digits.length) '0'
    let fraction := digits.drop width
    whole ++ ['.'] ++ (if fraction.isEmpty then ['0'] else fraction)
  else
    let fraction := digits.drop 1
    digits.take 1 ++ (if fraction.isEmpty then [] else '.' :: fraction) ++
      ['e', if places < 0 then '-' else '+'] ++ Nat.toDigits 10 places.natAbs

/-- A finite double by the fewest digits that read back. -/
def floatText (x : Float) : List Char :=
  let sign := if x.toBits.toNat < Nat.pow 2 63 then [] else ['-']
  if x == 0 then sign ++ ['0', '.', '0']
  else sign ++ decimalText (Decimal.Binary.ofFloat x).shortest

/-- The text of a number. -/
def Number.text : Number → String
  | .integer value => toString value
  | .float x => String.ofList (floatText x)

end CommentBot.Json
