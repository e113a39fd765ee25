import CommentBot.Proofs.Results
import CommentBot.Proofs.Time.Calendar
import CommentBot.Time.Rfc3339
import Mathlib.Algebra.Group.Nat.Defs

/-!
# Dates are read back

The text of an instant is strict, and the reader is lenient; so each part of the text is read by the scanner for it,
and no further (`shortNumber_padded`, `longNumber_padded`). The year has a sign outside four digits
(`scanYear_yearText`), and the fraction of a second has three, six or nine digits (`scanFraction_fractionText`).

`Instant.read_text`: an instant is read back from its text, leap seconds and all.
-/

namespace CommentBot.Time

/-! ## Digits -/

/-- The digits of a number with leading zeros. -/
def paddedDigits (width n : Nat) : List Char :=
  List.replicate (width - (Nat.toDigits 10 n).length) '0' ++ Nat.toDigits 10 n

theorem toList_padded (width n : Nat) : (padded width n).toList = paddedDigits width n := by
  unfold padded paddedDigits
  exact String.toList_ofList

theorem isDigit_of_mem_paddedDigits {width n : Nat} : ∀ c ∈ paddedDigits width n, c.isDigit = true := by
  intro c hc
  rcases List.mem_append.1 hc with hc | hc
  · rw [(List.mem_replicate.1 hc).2]
    rfl
  · exact Nat.isDigit_of_mem_toDigits (by decide) (by decide) hc

/-- A number that fits into the width fills it. -/
theorem length_paddedDigits {width n : Nat} (hwidth : 0 < width) (h : n < 10 ^ width) :
    (paddedDigits width n).length = width := by
  have hle := (Nat.length_toDigits_le_iff (b := 10) (by decide) hwidth).2 h
  rw [paddedDigits, List.length_append, List.length_replicate]
  omega

theorem takeWhile_paddedDigits (width n : Nat) :
    (paddedDigits width n).takeWhile Char.isDigit = paddedDigits width n := by
  have h : (paddedDigits width n ++ []).takeWhile Char.isDigit = paddedDigits width n ++ [].takeWhile Char.isDigit :=
    List.takeWhile_append_of_pos isDigit_of_mem_paddedDigits
  simpa using h

theorem paddedDigits_ne_nil (width n : Nat) : paddedDigits width n ≠ [] := by
  intro h
  exact Nat.toDigits_ne_nil (List.append_eq_nil_iff.1 h).2

theorem valueOf_paddedDigits (width n : Nat) : valueOf (paddedDigits width n) = n := by
  have hzeros : ∀ k, valueOf (List.replicate k '0') = 0 := by
    intro k
    induction k with
    | zero => rfl
    | succ k ih => exact ih
  unfold valueOf paddedDigits
  rw [List.foldl_append]
  have h := hzeros (width - (Nat.toDigits 10 n).length)
  rw [valueOf] at h
  rw [h]
  exact Nat.ofDigitChars_toDigits (by decide) (by decide)

/-! ## Numbers -/

theorem number_of_value {digits text : List Char} {n : Nat} (hne : digits ≠ []) (hvalue : valueOf digits = n)
    (hn : n < 2 ^ 63) : number digits text = .ok (n, text.drop digits.length) := by
  have hbounded : bounded (valueOf digits) = .ok n := by
    rw [hvalue]
    exact if_pos hn
  unfold number
  split
  · exact absurd rfl hne
  · exact absurd rfl hne
  · rw [hbounded]
    rfl

/-- A number of a fixed width is read, whatever comes next. -/
theorem shortNumber_padded {width n : Nat} (hwidth : 0 < width) (h : n < 10 ^ width) (hn : n < 2 ^ 63)
    (rest : List Char) : shortNumber width (paddedDigits width n ++ rest) = .ok (n, rest) := by
  have hlength := length_paddedDigits hwidth h
  unfold shortNumber
  rw [List.take_left' hlength, takeWhile_paddedDigits,
    number_of_value (paddedDigits_ne_nil width n) (valueOf_paddedDigits width n) hn, List.drop_left]

/-- A number below the width is read, unless more digits come next. -/
theorem shortNumber_padded_of_le {most width n : Nat} (hle : width ≤ most) (hwidth : 0 < width) (h : n < 10 ^ width)
    (hn : n < 2 ^ 63) {c : Char} (hc : c.isDigit = false) (rest : List Char) :
    shortNumber most (paddedDigits width n ++ c :: rest) = .ok (n, c :: rest) := by
  have hlength := length_paddedDigits hwidth h
  have hrest : ((c :: rest).take (most - width)).takeWhile Char.isDigit = [] := by
    cases most - width with
    | zero => rfl
    | succ k => simp [hc]
  have hdigits : ((paddedDigits width n ++ c :: rest).take most).takeWhile Char.isDigit = paddedDigits width n := by
    rw [List.take_append, List.take_of_length_le (by omega), hlength,
      List.takeWhile_append_of_pos isDigit_of_mem_paddedDigits, hrest, List.append_nil]
  unfold shortNumber
  rw [hdigits, number_of_value (paddedDigits_ne_nil width n) (valueOf_paddedDigits width n) hn, List.drop_left]

/-- A number of any length is read, unless more digits come next. -/
theorem longNumber_padded {width n : Nat} (hn : n < 2 ^ 63) {c : Char} (hc : c.isDigit = false) (rest : List Char) :
    longNumber (paddedDigits width n ++ c :: rest) = .ok (n, c :: rest) := by
  have hdigits : (paddedDigits width n ++ c :: rest).takeWhile Char.isDigit = paddedDigits width n := by
    rw [List.takeWhile_append_of_pos isDigit_of_mem_paddedDigits]
    simp [hc]
  unfold longNumber
  rw [hdigits, number_of_value (paddedDigits_ne_nil width n) (valueOf_paddedDigits width n) hn, List.drop_left]

/-! ## Parts of a date -/

theorem trimStart_cons {c : Char} (hc : Text.isBlank c = false) (rest : List Char) :
    Text.trimStart (c :: rest) = c :: rest := by
  unfold Text.trimStart
  rw [List.dropWhile_cons, hc]
  rfl

theorem not_isBlank_of_isDigit {c : Char} (h : c.isDigit = true) : Text.isBlank c = false := by
  have hlt : c.toNat < 58 := by
    simp only [Char.isDigit, Bool.and_eq_true, decide_eq_true_eq, UInt32.le_iff_toNat_le] at h
    have hle : c.toNat ≤ 57 := h.2
    omega
  revert h
  exact Text.of_forall_ofNat hlt (by decide)

/-- Digits in front of a text are kept. -/
theorem trimStart_padded (width n : Nat) (rest : List Char) :
    Text.trimStart (paddedDigits width n ++ rest) = paddedDigits width n ++ rest := by
  cases hdigits : paddedDigits width n with
  | nil => exact absurd hdigits (paddedDigits_ne_nil width n)
  | cons c cs =>
    have hc : c.isDigit = true := isDigit_of_mem_paddedDigits c (hdigits ▸ List.mem_cons_self)
    rw [List.cons_append]
    exact trimStart_cons (not_isBlank_of_isDigit hc) _

theorem scanMark_cons {c : Char} (hc : Text.isBlank c = false) (rest : List Char) :
    scanMark c (c :: rest) = .ok rest := by
  unfold scanMark
  rw [trimStart_cons hc]
  exact if_pos rfl

theorem scanField_padded {low high n : Nat} (hlow : low ≤ n) (hhigh : n ≤ high) (hlt : n < 100) (rest : List Char) :
    scanField low high (paddedDigits 2 n ++ rest) = .ok (n, rest) := by
  unfold scanField
  rw [trimStart_padded]
  refine bind_eq_ok.2 ⟨(n, rest), shortNumber_padded (by decide) hlt (by omega) rest, ?_⟩
  dsimp only
  rw [if_pos (by simp [hlow, hhigh])]
  rfl

/-- Whether the year has at most 31 bits and a sign. -/
def fitsYear (year : Int) : Bool := -2147483648 ≤ year && year < 2147483648

theorem year_of_fitsYear {year : Int} (h : fitsYear year = true) (rest : List Char) :
    (if (-2147483648 ≤ year && year < 2147483648) = true then pure (year, rest)
      else Except.error DateError.outOfRange) = .ok (year, rest) := by
  rw [fitsYear] at h
  exact if_pos h

section Year

variable {n : Nat} {text digits rest : List Char}

theorem scanYear_minus (htext : Text.trimStart text = '-' :: digits) (hread : longNumber digits = .ok (n, rest))
    (hfits : fitsYear (-n) = true) : scanYear text = .ok (-n, rest) := by
  unfold scanYear
  rw [htext]
  dsimp only
  exact bind_eq_ok.2 ⟨_, hread, bind_eq_ok.2 ⟨_, rfl, year_of_fitsYear hfits rest⟩⟩

theorem scanYear_plus (htext : Text.trimStart text = '+' :: digits) (hread : longNumber digits = .ok (n, rest))
    (hfits : fitsYear n = true) : scanYear text = .ok ((n : Int), rest) := by
  unfold scanYear
  rw [htext]
  dsimp only
  exact bind_eq_ok.2 ⟨_, hread, bind_eq_ok.2 ⟨_, rfl, year_of_fitsYear hfits rest⟩⟩

/-- A year that begins with a digit has no sign. -/
theorem scanYear_unsigned (htext : Text.trimStart text = digits)
    (hdigit : ∀ c, digits.head? = some c → c.isDigit = true)
    (hread : shortNumber 4 digits = .ok (n, rest)) (hfits : fitsYear n = true) :
    scanYear text = .ok ((n : Int), rest) := by
  unfold scanYear
  rw [htext]
  split
  · exact absurd (hdigit '-' rfl) (by decide)
  · exact absurd (hdigit '+' rfl) (by decide)
  · exact bind_eq_ok.2 ⟨_, hread, bind_eq_ok.2 ⟨_, rfl, year_of_fitsYear hfits rest⟩⟩

end Year

theorem head?_padded (width n : Nat) (rest : List Char) :
    ∀ c, (paddedDigits width n ++ rest).head? = some c → c.isDigit = true := by
  intro c hc
  cases hdigits : paddedDigits width n with
  | nil => exact absurd hdigits (paddedDigits_ne_nil width n)
  | cons d ds =>
    rw [hdigits] at hc
    obtain rfl := Option.some.inj hc
    exact isDigit_of_mem_paddedDigits _ (hdigits ▸ List.mem_cons_self)

/-- A year is read, with its sign if it has one. -/
theorem scanYear_yearText {year : Int} (h : fitsYear year = true) (rest : List Char) :
    scanYear ((yearText year).toList ++ '-' :: rest) = .ok (year, '-' :: rest) := by
  have hbounds : -2147483648 ≤ year ∧ year < 2147483648 := by simpa [fitsYear] using h
  have hlong : longNumber (paddedDigits 4 year.natAbs ++ '-' :: rest) = .ok (year.natAbs, '-' :: rest) :=
    longNumber_padded (by omega) (by decide) rest
  unfold yearText
  split
  · rename_i hfour
    simp only [Bool.and_eq_true, decide_eq_true_eq] at hfour
    have hfits : year.toNat < 10 ^ 4 := by omega
    have hshort := shortNumber_padded (by decide) hfits (by omega) ('-' :: rest)
    have hyear : (year.toNat : Int) = year := Int.toNat_of_nonneg hfour.1
    have hread := scanYear_unsigned (trimStart_padded 4 year.toNat _) (head?_padded 4 year.toNat _) hshort
      (hyear.symm ▸ h)
    rwa [hyear, ← toList_padded] at hread
  · rw [String.toList_append, toList_padded]
    split
    · have hyear : (-year.natAbs : Int) = year := by omega
      have hread := scanYear_minus (trimStart_cons (by decide) _) hlong (hyear.symm ▸ h)
      rwa [hyear] at hread
    · have hyear : (year.natAbs : Int) = year := by omega
      have hread := scanYear_plus (trimStart_cons (by decide) _) hlong (hyear.symm ▸ h)
      rwa [hyear] at hread

/-- A fraction is read as if it had nine digits. -/
theorem scanFraction_padded {n : Nat} (width : Nat) (hwidth : 0 < width) (hle : width ≤ 9) (h : n < 10 ^ width)
    {c : Char} (hc : c.isDigit = false) (rest : List Char) :
    scanFraction ('.' :: (paddedDigits width n ++ c :: rest)) = .ok (n * 10 ^ (9 - width), c :: rest) := by
  have hbound : n < 2 ^ 63 := by
    have hpow : 10 ^ width ≤ 10 ^ 9 := Nat.pow_le_pow_right (by decide) hle
    omega
  have hlength : (paddedDigits width n ++ c :: rest).length - (c :: rest).length = width := by
    rw [List.length_append, length_paddedDigits hwidth h]
    omega
  refine bind_eq_ok.2 ⟨(n, c :: rest), shortNumber_padded_of_le hle hwidth h hbound hc rest, ?_⟩
  dsimp only
  rw [hlength, List.dropWhile_cons, hc]
  rfl

/-- A fraction is read, whatever power of ten its last digit counts. -/
theorem scanFraction_scaled {width n nano : Nat} (hwidth : 0 < width) (hle : width ≤ 9) (h : n < 10 ^ width)
    (hnano : n * 10 ^ (9 - width) = nano) :
    scanFraction (("." ++ padded width n).toList ++ ['Z']) = .ok (nano, ['Z']) := by
  rw [String.toList_append, toList_padded, ← hnano]
  exact scanFraction_padded width hwidth hle h (by decide) []

/-- A fraction of a second is read, whichever number of digits it has. -/
theorem scanFraction_fractionText {nano : Nat} (h : nano < 1000000000) :
    scanFraction ((fractionText nano).toList ++ ['Z']) = .ok (nano, ['Z']) := by
  unfold fractionText
  split
  · rename_i hzero
    rw [hzero]
    rfl
  split
  · exact scanFraction_scaled (by decide) (by decide) (by omega) (by omega)
  split
  · exact scanFraction_scaled (by decide) (by decide) (by omega) (by omega)
  · exact scanFraction_scaled (by decide) (by decide) (by omega) (by omega)

/-! ## Instants -/

/-- The parts of the text of an instant. -/
theorem toList_text (t : Instant) : t.text.toList = (yearText (Date.ofDayNumber t.day).year).toList ++ '-' ::
    (paddedDigits 2 (Date.ofDayNumber t.day).month ++ '-' :: (paddedDigits 2 (Date.ofDayNumber t.day).day ++ 'T' ::
      (paddedDigits 2 (t.second / 3600) ++ ':' :: (paddedDigits 2 (t.second / 60 % 60) ++ ':' ::
        (paddedDigits 2 (t.second % 60 + (if 1000000000 ≤ t.nano then 1 else 0)) ++
          ((fractionText (if 1000000000 ≤ t.nano then t.nano - 1000000000 else t.nano)).toList ++ ['Z'])))))) := by
  unfold Instant.text
  simp only [String.toList_append, toList_padded, List.append_assoc]
  simp

/-- The years of all instants fit. -/
theorem fitsYear_of_inRange {day : Int} (h : inRange day = true) : fitsYear (Date.ofDayNumber day).year = true := by
  obtain ⟨p, hp⟩ := exists_cycleDay (n := (day + 719468) % 146097) (by omega)
  have hyear := p.yearOfCycle_bounds
  have hfirst : (Date.mk (-262143) 1 1).toDayNumber = -96465292 := by decide
  have hlast : (Date.mk 262142 12 31).toDayNumber = 95026236 := by decide
  rw [inRange, hfirst, hlast] at h
  simp only [Bool.and_eq_true, decide_eq_true_eq] at h
  have hbounds : -2147483648 ≤ (Date.ofDayNumber day).year ∧ (Date.ofDayNumber day).year < 2147483648 := by
    rw [ofDayNumber_eq hp, dateInYear]
    dsimp only
    split <;> omega
  simpa [fitsYear] using hbounds

theorem bounds_of_isValid {d : Date} (h : d.isValid = true) :
    (1 ≤ d.month ∧ d.month ≤ 12) ∧ 1 ≤ d.day ∧ d.day ≤ 31 := by
  have hdays : daysInMonth d.year d.month ≤ 31 := by
    unfold daysInMonth
    split
    · split <;> decide
    · split <;> decide
  simp only [Date.isValid, Bool.and_eq_true, decide_eq_true_eq] at h
  omega

/-- A local time without offset stands for the instant with its parts. -/
theorem ofLocal_of_utc (t : Instant) : Instant.ofLocal (Date.ofDayNumber t.day) t.second t.nano 0 = .ok t := by
  have hsecond := t.second_lt
  have hday : (t.day * 86400 + t.second - 0) / 86400 = t.day := by omega
  have hrest : ((t.day * 86400 + t.second - 0) % 86400).toNat = t.second := by omega
  unfold Instant.ofLocal
  rw [isValid_ofDayNumber, toDayNumber_ofDayNumber, t.day_inRange]
  dsimp only
  rw [hday, hrest, Instant.ofParts?, dif_pos ⟨t.day_inRange, t.second_lt, t.nano_lt, t.leap_last⟩]
  rfl

/-- **An instant is read back from its text.** -/
theorem Instant.read_text (t : Instant) : Instant.read t.text = .ok t := by
  have hyear := fitsYear_of_inRange t.day_inRange
  obtain ⟨⟨hmonth, hmonth'⟩, hday, hday'⟩ := bounds_of_isValid (isValid_ofDayNumber t.day)
  have hsecond := t.second_lt
  have hnano := t.nano_lt
  have hleap := t.leap_last
  unfold Instant.read
  rw [toList_text]
  refine bind_eq_ok.2 ⟨_, scanYear_yearText hyear _, ?_⟩
  refine bind_eq_ok.2 ⟨_, scanMark_cons (by decide) _, ?_⟩
  refine bind_eq_ok.2 ⟨_, scanField_padded hmonth hmonth' (by omega) _, ?_⟩
  refine bind_eq_ok.2 ⟨_, scanMark_cons (by decide) _, ?_⟩
  refine bind_eq_ok.2 ⟨_, scanField_padded hday hday' (by omega) _, ?_⟩
  refine bind_eq_ok.2 ⟨_, rfl, ?_⟩
  refine bind_eq_ok.2 ⟨_, scanField_padded (by omega) (by omega) (by omega) _, ?_⟩
  refine bind_eq_ok.2 ⟨_, scanMark_cons (by decide) _, ?_⟩
  refine bind_eq_ok.2 ⟨_, scanField_padded (by omega) (by omega) (by omega) _, ?_⟩
  refine bind_eq_ok.2 ⟨_, scanMark_cons (by decide) _, ?_⟩
  refine bind_eq_ok.2 ⟨_, scanField_padded (by omega) (by split <;> omega) (by split <;> omega) _, ?_⟩
  refine bind_eq_ok.2 ⟨_, scanFraction_fractionText (by split <;> omega), ?_⟩
  refine bind_eq_ok.2 ⟨(0, []), rfl, ?_⟩
  have hutc := ofLocal_of_utc t
  -- the sixtieth second is the last one of its minute, with a longer fraction
  by_cases hisLeap : 1000000000 ≤ t.nano
  · have hlast := hleap hisLeap
    simp only [if_pos hisLeap]
    rw [if_pos (show t.second % 60 + 1 = 60 by omega)]
    have hseconds : t.second / 3600 * 3600 + t.second / 60 % 60 * 60 + 59 = t.second := by omega
    have hnanos : t.nano - 1000000000 + 1000000000 = t.nano := by omega
    dsimp only
    rw [hseconds, hnanos]
    exact hutc
  · simp only [if_neg hisLeap]
    rw [if_neg (show ¬ t.second % 60 + 0 = 60 by omega)]
    have hseconds : t.second / 3600 * 3600 + t.second / 60 % 60 * 60 + (t.second % 60 + 0) = t.second := by omega
    dsimp only
    rw [hseconds]
    exact hutc

end CommentBot.Time
