/-!
# The shortest decimal of a binary fraction

A positive double is `m * 2 ^ q`. Every real between the middles to its two neighbours is read back as
the same double, the middles themselves when `m` is even. Of the decimals that read back, the one with
the fewest digits is taken, and of two the nearer.

All quantities are quarters of the last binary place, so that the middles are whole numbers: the value is
`4 * m` of them, the upper middle `4 * m + 2`, and the lower middle `4 * m - 2`, or `4 * m - 1` below a
power of two.
-/

namespace CommentBot.Decimal

/-- A positive double, `significand * 2 ^ exponent`. -/
structure Binary where
  significand : Nat
  exponent : Int
  /-- Whether the next smaller double is only half a place away. -/
  narrowBelow : Bool
  deriving DecidableEq, Repr

/-- The magnitude of a finite double that is not zero. -/
def Binary.ofFloat (x : Float) : Binary :=
  let bits : Nat := x.toBits.toNat
  let fraction : Nat := bits % Nat.pow 2 52
  let field : Nat := bits / Nat.pow 2 52 % Nat.pow 2 11
  if field = 0 then ⟨fraction, -1074, false⟩
  else ⟨Nat.pow 2 52 + fraction, (field : Int) - 1075, fraction == 0 && field > 1⟩

/-- A fraction of two natural numbers. -/
structure Ratio where
  num : Nat
  den : Nat
  deriving DecidableEq, Repr

/-- `n * 2 ^ two * 10 ^ ten`. -/
def Ratio.scaled (n : Nat) (two ten : Int) : Ratio :=
  ⟨n * Nat.pow 2 two.toNat * Nat.pow 10 ten.toNat, Nat.pow 2 (-two).toNat * Nat.pow 10 (-ten).toNat⟩

/-- The number of digits in front of the point. -/
def Ratio.wholeDigits (r : Ratio) : Nat := (Nat.toDigits 10 (r.num / r.den)).length

/-- A positive decimal, `digits * 10 ^ exponent`. -/
structure Digits where
  digits : Nat
  exponent : Int
  deriving DecidableEq, Repr

/-- The exponent of the leading digit. -/
def Digits.leading (d : Digits) : Int := d.exponent + (Nat.toDigits 10 d.digits).length - 1

/-- The power of ten of the leading digit of `b`. -/
def Binary.magnitude (b : Binary) : Int :=
  (Ratio.scaled b.significand b.exponent 330).wholeDigits - 331

/-- Whether `n * 10 ^ k` is read back as `b`. -/
def Binary.readsBack (b : Binary) (n : Nat) (k : Int) : Bool :=
  let value := Ratio.scaled n (2 - b.exponent) k
  let low := 4 * b.significand - (if b.narrowBelow then 1 else 2)
  let high := 4 * b.significand + 2
  if b.significand % 2 = 0 then low * value.den ≤ value.num && value.num ≤ high * value.den
  else low * value.den < value.num && value.num < high * value.den

/-- The point of the grid `10 ^ k` that is read back as `b` and nearest to it, if there is one. Only the
two neighbours of `b` on the grid can be. -/
def Binary.onGrid? (b : Binary) (k : Int) : Option Nat :=
  let here := Ratio.scaled b.significand b.exponent (-k)
  let below := here.num / here.den
  let rest := here.num % here.den
  match b.readsBack below k, b.readsBack (below + 1) k with
  | true, true => some (if 2 * rest ≤ here.den then below else below + 1)
  | true, false => some below
  | false, true => some (below + 1)
  | false, false => none

/-- The first grid with a hit, from `10 ^ k` downwards. -/
def Binary.search (b : Binary) (k : Int) : Nat → Digits
  | 0 => ⟨b.significand, b.exponent⟩
  | fuel + 1 =>
    match b.onGrid? k with
    | some n => ⟨n, k⟩
    | none => b.search (k - 1) fuel

/-- The shortest decimal that is read back as `b`. Seventeen digits always suffice, and the value may lie
just below a power of ten that is the answer. -/
def Binary.shortest (b : Binary) : Digits := b.search (b.magnitude + 1) 18

end CommentBot.Decimal
