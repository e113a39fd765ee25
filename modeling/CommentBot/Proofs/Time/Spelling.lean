import CommentBot.Proofs.Time.Reading
import Mathlib.Computability.Language
import Mathlib.Data.List.TakeWhile

/-!
# The spellings of dates

A date can be spelled in many ways. Blanks may stand in front of the numbers and of the marks between them, numbers need
no leading zeros, a fraction has any number of digits, and there are several ways to write an offset.

1. `DateParts.language`: the spellings of the numbers that make a date, and `DateParts.Denotes`: the instant that they
   stand for.
2. Each scanner reads the words of its language, and leaves what follows (`shortNumber_of_digits` and its neighbours),
   and it reads nothing else (`digits_of_shortNumber` and its neighbours).
3. `Instant.read_eq_ok_iff`: so an instant is read from its spellings, and from nothing else.
-/

namespace CommentBot.Time

/-! ## Spellings -/

/-- Blanks, or nothing. -/
def blanks : Language Char := {w | ∀ c ∈ w, Text.isBlank c = true}

/-- The decimal digits of a number, with any number of leading zeros. -/
def digits (n : Nat) : Language Char := {w | w ≠ [] ∧ (∀ c ∈ w, c.isDigit = true) ∧ valueOf w = n}

/-- The digits of a number that are not more than `most`. -/
def fewDigits (most n : Nat) : Language Char := {w | w ∈ digits n ∧ w.length ≤ most}

/-- At most two digits, with blanks in front. -/
def field (n : Nat) : Language Char := blanks * fewDigits 2 n

/-- A mark between numbers, with blanks in front. -/
def mark (c : Char) : Language Char := blanks * {[c]}

/-- A year: at most four digits, or a sign and any number of them. -/
inductive YearWritten : Int → List Char → Prop
  | plain {n : Nat} {w : List Char} (h : w ∈ fewDigits 4 n) : YearWritten n w
  | plus {n : Nat} {w : List Char} (h : w ∈ digits n) : YearWritten n ('+' :: w)
  | minus {n : Nat} {w : List Char} (h : w ∈ digits n) : YearWritten (-n) ('-' :: w)

/-- The words for a year. -/
def years (year : Int) : Language Char := {w | YearWritten year w}

/-- The joint between date and time. -/
def joint : Language Char := {['T'], ['t'], [' ']}

/-- A fraction of a second, in nanoseconds; digits behind the ninth do not count. -/
inductive FractionWritten : Nat → List Char → Prop
  | absent : FractionWritten 0 []
  | digits {n : Nat} {w : List Char} (h : w ∈ digits n) :
      FractionWritten (valueOf (w.take 9) * 10 ^ (9 - (w.take 9).length)) ('.' :: w)

/-- The words for a fraction of a second. -/
def fractions (nano : Nat) : Language Char := {w | FractionWritten nano w}

/-- Hours and minutes of two digits each, in seconds. Colons and blanks may stand between them. -/
inductive SpanWritten : Nat → List Char → Prop
  | parts {hours minutes : Nat} {h m between : List Char} (hhours : h ∈ digits hours) (hh : h.length = 2)
      (hbetween : ∀ c ∈ between, c = ':' ∨ Text.isBlank c = true) (hminutes : m ∈ digits minutes) (hm : m.length = 2)
      (hlt : minutes < 60) : SpanWritten (hours * 3600 + minutes * 60) (h ++ (between ++ m))

/-- The offset of a local time, in seconds. -/
inductive OffsetWritten : Int → List Char → Prop
  | zulu {c : Char} (hc : c = 'Z' ∨ c = 'z') : OffsetWritten 0 [c]
  | utc {u t c : Char} (hu : u = 'U' ∨ u = 'u') (ht : t = 'T' ∨ t = 't') (hc : c = 'C' ∨ c = 'c') :
      OffsetWritten 0 [u, t, c]
  | east {seconds : Nat} {w : List Char} (h : SpanWritten seconds w) : OffsetWritten seconds ('+' :: w)
  | west {seconds : Nat} {w : List Char} {c : Char} (hc : c = '-' ∨ c = '−') (h : SpanWritten seconds w) :
      OffsetWritten (-seconds) (c :: w)

/-- The words for an offset. -/
def offsets (offset : Int) : Language Char := {w | OffsetWritten offset w}

/-- The numbers that make a date with its time. -/
structure DateParts where
  date : Date
  hour : Nat
  minute : Nat
  second : Nat
  nano : Nat
  /-- In seconds, eastwards. -/
  offset : Int

namespace DateParts

/-- The spellings of the parts. -/
def language (p : DateParts) : Language Char :=
  blanks * years p.date.year * mark '-' * field p.date.month * mark '-' * field p.date.day * joint * field p.hour *
    mark ':' * field p.minute * mark ':' * field p.second * fractions p.nano * blanks * offsets p.offset * blanks

/-- The seconds since midnight; the sixtieth second of a minute counts as a part of the one before. -/
def secondOfDay (p : DateParts) : Nat := p.hour * 3600 + p.minute * 60 + min p.second 59

/-- The parts are a day of the calendar and a time of day, and stand for the instant. -/
structure Denotes (p : DateParts) (t : Instant) : Prop where
  valid : p.date.isValid = true
  inRange : Time.inRange p.date.toDayNumber = true
  hour : p.hour ≤ 23
  minute : p.minute ≤ 59
  second : p.second ≤ 60
  offset : p.offset.natAbs < 86400
  seconds : t.day * 86400 + t.second = p.date.toDayNumber * 86400 + p.secondOfDay - p.offset
  nano : t.nano = p.nano + (if p.second = 60 then 1000000000 else 0)

end DateParts

/-- No digit comes first. -/
def EndsDigits (text : List Char) : Prop := ∀ c, text.head? = some c → c.isDigit = false

/-! ## Numbers -/

section Numbers

variable {n width : Nat} {w text rest : List Char}

theorem takeWhile_isDigit (h : EndsDigits rest) : rest.takeWhile Char.isDigit = [] := by
  cases rest with
  | nil => rfl
  | cons c rest => rw [List.takeWhile_cons, h c rfl]; rfl

theorem dropWhile_isDigit (h : EndsDigits rest) : rest.dropWhile Char.isDigit = rest := by
  cases rest with
  | nil => rfl
  | cons c rest => rw [List.dropWhile_cons, h c rfl]; rfl

theorem takeWhile_digits_append (h : ∀ c ∈ w, c.isDigit = true) (hrest : EndsDigits rest) :
    (w ++ rest).takeWhile Char.isDigit = w := by
  rw [List.takeWhile_append_of_pos h, takeWhile_isDigit hrest, List.append_nil]

theorem EndsDigits.take (h : EndsDigits rest) (k : Nat) : EndsDigits (rest.take k) := by
  cases k with
  | zero => nofun
  | succ k =>
    cases rest with
    | nil => exact h
    | cons c rest => exact h

theorem valueOf_concat (w : List Char) (c : Char) : valueOf (w ++ [c]) = 10 * valueOf w + (c.toNat - 48) := by
  unfold valueOf
  rw [List.foldl_append]
  rfl

theorem toNat_sub_lt {c : Char} (h : c.isDigit = true) : c.toNat - 48 < 10 := by
  simp only [Char.isDigit, Bool.and_eq_true, decide_eq_true_eq, UInt32.le_iff_toNat_le] at h
  have hle : c.toNat ≤ 57 := h.2
  omega

theorem valueOf_lt (h : ∀ c ∈ w, c.isDigit = true) : valueOf w < 10 ^ w.length := by
  induction w using List.reverseRecOn with
  | nil => decide
  | append_singleton w c ih =>
    have hw := ih fun d hd => h d (List.mem_append_left _ hd)
    have hc := toNat_sub_lt (h c (by simp))
    rw [valueOf_concat, List.length_append, List.length_singleton, Nat.pow_succ]
    omega

theorem lt_of_mem_fewDigits {most : Nat} (h : w ∈ fewDigits most n) : n < 10 ^ most := by
  obtain ⟨⟨-, hdigits, rfl⟩, hlength⟩ := h
  exact Nat.lt_of_lt_of_le (valueOf_lt hdigits) (Nat.pow_le_pow_right (by decide) hlength)

/-- A number is read if it fills the width, or if no digit comes next. -/
theorem shortNumber_of_digits (h : w ∈ digits n) (hlength : w.length ≤ width) (hn : n < 2 ^ 63)
    (hrest : w.length = width ∨ EndsDigits rest) : shortNumber width (w ++ rest) = .ok (n, rest) := by
  obtain ⟨hne, hdigits, hvalue⟩ := h
  have htake : ((w ++ rest).take width).takeWhile Char.isDigit = w := by
    rw [List.take_append, List.take_of_length_le hlength]
    refine takeWhile_digits_append hdigits ?_
    rcases hrest with hfull | hrest
    · rw [hfull, Nat.sub_self]
      nofun
    · exact hrest.take _
  unfold shortNumber
  rw [htake, number_of_value hne hvalue hn, List.drop_left]

theorem longNumber_of_digits (h : w ∈ digits n) (hn : n < 2 ^ 63) (hrest : EndsDigits rest) :
    longNumber (w ++ rest) = .ok (n, rest) := by
  obtain ⟨hne, hdigits, hvalue⟩ := h
  unfold longNumber
  rw [takeWhile_digits_append hdigits hrest, number_of_value hne hvalue hn, List.drop_left]

theorem of_number {ds : List Char} (h : number ds text = .ok (n, rest)) :
    ds ≠ [] ∧ valueOf ds = n ∧ n < 2 ^ 63 ∧ rest = text.drop ds.length := by
  cases ds with
  | nil => cases text <;> cases h
  | cons d ds =>
    obtain ⟨value, hvalue, h⟩ := bind_eq_ok.1 h
    cases pure_eq_ok.1 h
    unfold bounded at hvalue
    split at hvalue
    · next hlt =>
      cases hvalue
      exact ⟨nofun, rfl, hlt, rfl⟩
    · cases hvalue

theorem isDigit_of_mem_takeWhile {c : Char} (h : c ∈ text.takeWhile Char.isDigit) : c.isDigit = true :=
  List.all_eq_true.1 List.all_takeWhile c h

theorem endsDigits_dropWhile (text : List Char) : EndsDigits (text.dropWhile Char.isDigit) := by
  intro c hc
  have h := List.head?_dropWhile_not Char.isDigit text
  rw [hc] at h
  exact h

/-- A number that is read stands in front, and fills the width unless no digit comes next. -/
theorem digits_of_shortNumber (h : shortNumber width text = .ok (n, rest)) :
    n < 2 ^ 63 ∧ ∃ w ∈ fewDigits width n, w ++ rest = text ∧ (w.length = width ∨ EndsDigits rest) := by
  obtain ⟨hne, hvalue, hlt, hrest⟩ := of_number h
  have hsplit : (text.take width).takeWhile Char.isDigit ++ (text.take width).dropWhile Char.isDigit =
      text.take width := List.takeWhile_append_dropWhile
  have hends := endsDigits_dropWhile (text.take width)
  have hdigits : ∀ c ∈ (text.take width).takeWhile Char.isDigit, c.isDigit = true :=
    fun c hc => isDigit_of_mem_takeWhile hc
  generalize (text.take width).takeWhile Char.isDigit = w at *
  generalize (text.take width).dropWhile Char.isDigit = more at *
  have htext : w ++ (more ++ text.drop width) = text := by
    rw [← List.append_assoc, hsplit, List.take_append_drop]
  have hbehind : rest = more ++ text.drop width := by
    rw [hrest, ← htext, List.drop_left, htext]
  have hlength : w.length + more.length = min width text.length := by
    rw [← List.length_append, hsplit, List.length_take]
  refine ⟨hlt, w, ⟨⟨hne, hdigits, hvalue⟩, by omega⟩, by rw [hbehind, htext], ?_⟩
  cases more with
  | cons c more => exact .inr (hbehind ▸ fun d hd => hends d hd)
  | nil =>
    -- all of the first characters are digits: there are enough of them, or the text is over
    by_cases hfull : w.length = width
    · exact .inl hfull
    · have hover : text.drop width = [] := List.drop_eq_nil_of_le (by simp at hlength; omega)
      rw [hbehind, hover]
      exact .inr nofun

theorem digits_of_longNumber (h : longNumber text = .ok (n, rest)) : ∃ w ∈ digits n, w ++ rest = text := by
  obtain ⟨hne, hvalue, -, hrest⟩ := of_number h
  refine ⟨_, ⟨hne, fun c hc => isDigit_of_mem_takeWhile hc, hvalue⟩, ?_⟩
  have hsplit : text.takeWhile Char.isDigit ++ text.dropWhile Char.isDigit = text := List.takeWhile_append_dropWhile
  generalize text.takeWhile Char.isDigit = w at *
  rw [hrest, ← hsplit, List.drop_left]

end Numbers

/-! ## Blanks and marks -/

section Marks

variable {w text rest : List Char} {c : Char}

theorem trimStart_blanks_append (h : w ∈ blanks) (text : List Char) :
    Text.trimStart (w ++ text) = Text.trimStart text := by
  unfold Text.trimStart
  rw [List.dropWhile_append_of_pos h]

theorem exists_blanks (text : List Char) : ∃ w ∈ blanks, w ++ Text.trimStart text = text :=
  ⟨text.takeWhile Text.isBlank, fun c hc => List.all_eq_true.1 List.all_takeWhile c hc,
    List.takeWhile_append_dropWhile⟩

theorem trimStart_eq_nil_iff : Text.trimStart text = [] ↔ text ∈ blanks := by
  unfold Text.trimStart
  rw [List.dropWhile_eq_nil_iff]
  rfl

theorem scanMark_of_mark (hc : Text.isBlank c = false) (h : w ∈ mark c) (rest : List Char) :
    scanMark c (w ++ rest) = .ok rest := by
  obtain ⟨b, hb, m, rfl, rfl⟩ := Language.mem_mul.1 h
  have hscan : scanMark c (b ++ ([c] ++ rest)) = scanMark c (c :: rest) := by
    unfold scanMark
    rw [trimStart_blanks_append hb]
    rfl
  rw [List.append_assoc, hscan, scanMark_cons hc]

/-- A word of one language and a word of another one behind it. -/
theorem exists_append {l m : Language Char} {behind : List Char} (h : ∃ w ∈ l, w ++ behind = text)
    (h' : ∃ w ∈ m, w ++ rest = behind) : ∃ w ∈ l * m, w ++ rest = text := by
  obtain ⟨w, hw, rfl⟩ := h
  obtain ⟨w', hw', rfl⟩ := h'
  exact ⟨w ++ w', Language.append_mem_mul hw hw', List.append_assoc ..⟩

theorem mark_of_scanMark (h : scanMark c text = .ok rest) : ∃ w ∈ mark c, w ++ rest = text := by
  refine exists_append (exists_blanks text) ?_
  unfold scanMark at h
  split at h
  · cases h
  · next d more htrim =>
    split at h
    · next heq =>
      cases h
      exact ⟨[c], rfl, by rw [htrim, heq]; rfl⟩
    · cases h

end Marks

/-! ## Fields and years -/

section Fields

variable {low high n : Nat} {w text rest : List Char} {year : Int}

/-- A number begins with a digit. -/
theorem exists_cons_of_digits (h : w ∈ digits n) : ∃ c more, c.isDigit = true ∧ w = c :: more := by
  obtain ⟨hne, hdigits, -⟩ := h
  obtain ⟨c, more, rfl⟩ := List.exists_cons_of_ne_nil hne
  exact ⟨c, more, hdigits c List.mem_cons_self, rfl⟩

theorem trimStart_digits (h : w ∈ digits n) (rest : List Char) : Text.trimStart (w ++ rest) = w ++ rest := by
  obtain ⟨c, more, hc, rfl⟩ := exists_cons_of_digits h
  exact trimStart_cons (not_isBlank_of_isDigit hc) _

theorem scanField_of_field (h : w ∈ field n) (hlow : low ≤ n) (hhigh : n ≤ high) (hrest : EndsDigits rest) :
    scanField low high (w ++ rest) = .ok (n, rest) := by
  obtain ⟨b, hb, d, ⟨hd, hlength⟩, rfl⟩ := Language.mem_mul.1 h
  have hlt : n < 10 ^ 2 := lt_of_mem_fewDigits ⟨hd, hlength⟩
  unfold scanField
  rw [List.append_assoc, trimStart_blanks_append hb, trimStart_digits hd,
    shortNumber_of_digits hd hlength (by omega) (.inr hrest)]
  exact if_pos (by simp [hlow, hhigh])

theorem field_of_scanField (h : scanField low high text = .ok (n, rest)) :
    (∃ w ∈ field n, w ++ rest = text) ∧ low ≤ n ∧ n ≤ high := by
  obtain ⟨⟨n', rest'⟩, hnumber, h⟩ := bind_eq_ok.1 h
  dsimp only at h
  split at h
  · next hbounds =>
    cases pure_eq_ok.1 h
    obtain ⟨-, d, hd, hdigits, -⟩ := digits_of_shortNumber hnumber
    exact ⟨exists_append (exists_blanks text) ⟨d, hd, hdigits⟩, by simpa using hbounds⟩
  · cases h

theorem scanYear_of_written (h : YearWritten year w) (hfits : fitsYear year = true) {b : List Char}
    (hb : b ∈ blanks) (hrest : EndsDigits rest) : scanYear (b ++ (w ++ rest)) = .ok (year, rest) := by
  have hbounds : -2147483648 ≤ year ∧ year < 2147483648 := by simpa [fitsYear] using hfits
  cases h with
  | @plain n w h =>
    refine scanYear_unsigned ((trimStart_blanks_append hb _).trans (trimStart_digits h.1 rest)) (fun d hd => ?_)
      (shortNumber_of_digits h.1 h.2 (by omega) (.inr hrest)) hfits
    obtain ⟨c, more, hc, rfl⟩ := exists_cons_of_digits h.1
    obtain rfl := Option.some.inj hd
    exact hc
  | @plus n w h =>
    exact scanYear_plus ((trimStart_blanks_append hb _).trans (trimStart_cons (by decide) _))
      (longNumber_of_digits h (by omega) hrest) hfits
  | @minus n w h =>
    exact scanYear_minus ((trimStart_blanks_append hb _).trans (trimStart_cons (by decide) _))
      (longNumber_of_digits h (by omega) hrest) hfits

theorem eq_of_year {year' : Int} {rest' : List Char}
    (h : (if (-2147483648 ≤ year' && year' < 2147483648) = true then pure (year', rest')
      else Except.error DateError.outOfRange) = .ok (year, rest)) : year' = year ∧ rest' = rest := by
  split at h
  · cases pure_eq_ok.1 h
    exact ⟨rfl, rfl⟩
  · cases h

theorem written_of_scanYear (h : scanYear text = .ok (year, rest)) :
    ∃ w ∈ blanks * years year, w ++ rest = text := by
  refine exists_append (exists_blanks text) ?_
  unfold scanYear at h
  split at h
  · next ds htrim =>
    obtain ⟨⟨n, rest'⟩, hnumber, h⟩ := bind_eq_ok.1 h
    simp only [pure_bind] at h
    obtain ⟨rfl, rfl⟩ := eq_of_year h
    obtain ⟨w, hw, rfl⟩ := digits_of_longNumber hnumber
    exact ⟨_, .minus hw, by rw [htrim]; rfl⟩
  · next ds htrim =>
    obtain ⟨⟨n, rest'⟩, hnumber, h⟩ := bind_eq_ok.1 h
    simp only [pure_bind] at h
    obtain ⟨rfl, rfl⟩ := eq_of_year h
    obtain ⟨w, hw, rfl⟩ := digits_of_longNumber hnumber
    exact ⟨_, .plus hw, by rw [htrim]; rfl⟩
  · obtain ⟨⟨n, rest'⟩, hnumber, h⟩ := bind_eq_ok.1 h
    simp only [pure_bind] at h
    obtain ⟨rfl, rfl⟩ := eq_of_year h
    obtain ⟨-, w, hw, htext', -⟩ := digits_of_shortNumber hnumber
    exact ⟨w, .plain hw, by rw [htext']⟩

theorem scanJoint_of_joint (h : w ∈ joint) (rest : List Char) : scanJoint (w ++ rest) = .ok rest := by
  rcases h with rfl | rfl | rfl <;> rfl

theorem joint_of_scanJoint (h : scanJoint text = .ok rest) : ∃ w ∈ joint, w ++ rest = text := by
  unfold scanJoint at h
  split at h
  · cases h
  · next c more =>
    split at h
    · next hc =>
      cases h
      simp only [Bool.or_eq_true, decide_eq_true_eq, or_assoc] at hc
      refine ⟨[c], ?_, rfl⟩
      rcases hc with rfl | rfl | rfl
      · exact .inl rfl
      · exact .inr (.inl rfl)
      · exact .inr (.inr rfl)
    · cases h

end Fields

/-! ## Fractions and offsets -/

section Offsets

variable {nano seconds : Nat} {offset : Int} {negative : Bool} {w text rest : List Char}

theorem scanFraction_of_absent (h : ∀ c, rest.head? = some c → c ≠ '.') : scanFraction rest = .ok (0, rest) := by
  unfold scanFraction
  split
  · exact absurd rfl (h '.' rfl)
  · rfl

theorem scanFraction_of_written (h : FractionWritten nano w) (hrest : EndsDigits rest)
    (hpoint : ∀ c, rest.head? = some c → c ≠ '.') : scanFraction (w ++ rest) = .ok (nano, rest) := by
  cases h with
  | absent => exact scanFraction_of_absent hpoint
  | @digits n w h =>
    obtain ⟨hne, hdigits, -⟩ := h
    have hfirst : w.take 9 ∈ fewDigits 9 (valueOf (w.take 9)) := by
      refine ⟨⟨?_, fun c hc => hdigits c (List.mem_of_mem_take hc), rfl⟩, List.length_take_le ..⟩
      simpa using hne
    have hlt := lt_of_mem_fewDigits hfirst
    have hnext : (w.take 9).length = 9 ∨ EndsDigits (w.drop 9 ++ rest) := by
      by_cases hlong : 9 ≤ w.length
      · exact .inl (by rw [List.length_take]; omega)
      · rw [List.drop_eq_nil_of_le (by omega)]
        exact .inr hrest
    have hnumber := shortNumber_of_digits hfirst.1 hfirst.2 (by omega) hnext
    rw [← List.append_assoc, List.take_append_drop] at hnumber
    refine bind_eq_ok.2 ⟨_, hnumber, ?_⟩
    have hlength : (w ++ rest).length - (w.drop 9 ++ rest).length = (w.take 9).length := by
      simp only [List.length_append, List.length_drop, List.length_take]
      omega
    have hbehind : (w.drop 9 ++ rest).dropWhile Char.isDigit = rest := by
      rw [List.dropWhile_append_of_pos fun c hc => hdigits c (List.mem_of_mem_drop hc), dropWhile_isDigit hrest]
    show Except.ok (valueOf (w.take 9) * 10 ^ (9 - ((w ++ rest).length - (w.drop 9 ++ rest).length)),
      (w.drop 9 ++ rest).dropWhile Char.isDigit) = _
    rw [hlength, hbehind]

theorem written_of_scanFraction (h : scanFraction text = .ok (nano, rest)) :
    ∃ w, FractionWritten nano w ∧ w ++ rest = text := by
  unfold scanFraction at h
  split at h
  · next ds =>
    obtain ⟨⟨n, behind⟩, hnumber, h⟩ := bind_eq_ok.1 h
    cases pure_eq_ok.1 h
    obtain ⟨-, w, ⟨⟨hne, hdigits, rfl⟩, hlength⟩, rfl, hnext⟩ := digits_of_shortNumber hnumber
    have hall : w ++ behind.takeWhile Char.isDigit ∈ digits (valueOf (w ++ behind.takeWhile Char.isDigit)) := by
      refine ⟨List.append_ne_nil_of_left_ne_nil hne _, fun c hc => ?_, rfl⟩
      exact (List.mem_append.1 hc).elim (hdigits c) isDigit_of_mem_takeWhile
    -- the digits that are passed over come behind nine others
    have hfirst : (w ++ behind.takeWhile Char.isDigit).take 9 = w := by
      rcases hnext with hfull | hends
      · exact List.take_left' hfull
      · rw [takeWhile_isDigit hends, List.append_nil, List.take_of_length_le hlength]
    have hwritten := FractionWritten.digits hall
    rw [hfirst] at hwritten
    have hcount : (w ++ behind).length - behind.length = w.length := by
      rw [List.length_append, Nat.add_sub_cancel]
    rw [hcount]
    refine ⟨_, hwritten, ?_⟩
    rw [List.cons_append, List.append_assoc, List.takeWhile_append_dropWhile]
  · cases h
    exact ⟨[], .absent, rfl⟩

theorem digits_pair {c d : Char} (hc : c.isDigit = true) (hd : d.isDigit = true) :
    [c, d] ∈ digits (10 * (c.toNat - 48) + (d.toNat - 48)) := by
  refine ⟨nofun, ?_, ?_⟩
  · simp [hc, hd]
  · simp [valueOf]

theorem scanPair_of_digits {n : Nat} (h : w ∈ digits n) (hlength : w.length = 2) (rest : List Char) :
    ∃ tens ones, 10 * tens + ones = n ∧ ones < 10 ∧ scanPair (w ++ rest) = .ok ((tens, ones), rest) := by
  obtain ⟨c, d, rfl⟩ := List.length_eq_two.1 hlength
  obtain ⟨-, hdigits, hvalue⟩ := h
  have hc := hdigits c (by simp)
  have hd := hdigits d (by simp)
  refine ⟨c.toNat - 48, d.toNat - 48, ?_, toNat_sub_lt hd, ?_⟩
  · rw [← hvalue]
    simp [valueOf]
  · exact if_pos (by simp [hc, hd])

theorem digits_of_scanPair {tens ones : Nat} (h : scanPair text = .ok ((tens, ones), rest)) :
    ones < 10 ∧ ∃ w ∈ digits (10 * tens + ones), w.length = 2 ∧ w ++ rest = text := by
  unfold scanPair at h
  split at h
  · cases h
  · cases h
  · next c d more =>
    split at h
    · next hcd =>
      cases h
      rw [Bool.and_eq_true] at hcd
      exact ⟨toNat_sub_lt hcd.2, [c, d], digits_pair hcd.1 hcd.2, rfl, rfl⟩
    · cases h

theorem not_separates_of_isDigit {c : Char} (hc : c.isDigit = true) : (c = ':' || Text.isBlank c) = false := by
  rw [not_isBlank_of_isDigit hc, Bool.or_false, decide_eq_false_iff_not]
  rintro rfl
  exact absurd hc (by decide)

theorem scanSigned_of_written (negative : Bool) (h : SpanWritten seconds w) (rest : List Char) :
    scanSigned negative (w ++ rest) = .ok (if negative then -(seconds : Int) else seconds, rest) := by
  obtain @⟨hours, minutes, hs, ms, between, hhours, hh, hbetween, hminutes, hm, hlt⟩ := h
  obtain ⟨tens, ones, hvalue, hones, hpair⟩ := scanPair_of_digits hhours hh (between ++ (ms ++ rest))
  obtain ⟨minuteTens, minuteOnes, hvalue', hones', hpair'⟩ := scanPair_of_digits hminutes hm rest
  have hbehind : (between ++ (ms ++ rest)).dropWhile (fun c => c = ':' || Text.isBlank c) = ms ++ rest := by
    obtain ⟨c, more, hc, rfl⟩ := exists_cons_of_digits hminutes
    rw [List.dropWhile_append_of_pos (by simpa using hbetween), List.cons_append, List.dropWhile_cons,
      not_separates_of_isDigit hc]
    rfl
  rw [List.append_assoc, List.append_assoc]
  refine bind_eq_ok.2 ⟨_, hpair, ?_⟩
  dsimp only
  rw [hbehind]
  refine bind_eq_ok.2 ⟨_, hpair', ?_⟩
  dsimp only
  rw [if_neg (by omega), hvalue, hvalue']
  rfl

theorem written_of_scanSigned (h : scanSigned negative text = .ok (offset, rest)) :
    ∃ seconds w, SpanWritten seconds w ∧ offset = (if negative then -(seconds : Int) else seconds) ∧
      w ++ rest = text := by
  unfold scanSigned at h
  obtain ⟨⟨⟨tens, ones⟩, behind⟩, hpair, h⟩ := bind_eq_ok.1 h
  dsimp only at h
  obtain ⟨⟨⟨minuteTens, minuteOnes⟩, last⟩, hpair', h⟩ := bind_eq_ok.1 h
  dsimp only at h
  split at h
  · cases h
  · next hsmall =>
    cases pure_eq_ok.1 h
    obtain ⟨hones, w, hw, hlength, rfl⟩ := digits_of_scanPair hpair
    obtain ⟨hones', w', hw', hlength', hlast⟩ := digits_of_scanPair hpair'
    have hbetween : ∀ c ∈ behind.takeWhile (fun c => c = ':' || Text.isBlank c), c = ':' ∨ Text.isBlank c = true := by
      intro c hc
      simpa using List.all_eq_true.1 List.all_takeWhile c hc
    refine ⟨_, _, .parts hw hlength hbetween hw' hlength' (by omega), rfl, ?_⟩
    rw [List.append_assoc, List.append_assoc, hlast, List.takeWhile_append_dropWhile]

theorem toUpper_of_not_ascii {c : Char} (h : ¬ c.toNat < 128) : c.toUpper = c := by
  unfold Char.toUpper
  split
  · next hletter =>
    have hle := hletter.2
    rw [UInt32.le_iff_toNat_le] at hle
    exact absurd (Nat.lt_of_le_of_lt hle (by decide)) h
  · rfl

theorem toUpper_eq_iff {c : Char} : (c.toUpper = 'U' ↔ c = 'U' ∨ c = 'u') ∧ (c.toUpper = 'T' ↔ c = 'T' ∨ c = 't') ∧
    (c.toUpper = 'C' ↔ c = 'C' ∨ c = 'c') := by
  by_cases hc : c.toNat < 128
  · exact Text.of_forall_ofNat hc (by decide)
  · have hne : ∀ d : Char, d.toNat < 128 → c ≠ d := by
      rintro d hd rfl
      exact hc hd
    rw [toUpper_of_not_ascii hc]
    simp [hne 'U' (by decide), hne 'u' (by decide), hne 'T' (by decide), hne 't' (by decide), hne 'C' (by decide),
      hne 'c' (by decide)]

theorem scanOffset_of_written (h : OffsetWritten offset w) (rest : List Char) :
    scanOffset (w ++ rest) = .ok (offset, rest) := by
  cases h with
  | zulu hc => rcases hc with rfl | rfl <;> rfl
  | utc hu ht hc =>
    rcases hu with rfl | rfl <;> rcases ht with rfl | rfl <;> rcases hc with rfl | rfl <;> rfl
  | east h => exact scanSigned_of_written false h rest
  | west hc h => rcases hc with rfl | rfl <;> exact scanSigned_of_written true h rest

theorem written_of_scanOffset (h : scanOffset text = .ok (offset, rest)) :
    ∃ w, OffsetWritten offset w ∧ w ++ rest = text := by
  unfold scanOffset at h
  split at h
  · cases h
    exact ⟨['Z'], .zulu (.inl rfl), rfl⟩
  · cases h
    exact ⟨['z'], .zulu (.inr rfl), rfl⟩
  · obtain ⟨seconds, w, hw, rfl, rfl⟩ := written_of_scanSigned h
    exact ⟨_, .east hw, rfl⟩
  · obtain ⟨seconds, w, hw, rfl, rfl⟩ := written_of_scanSigned h
    exact ⟨_, .west (.inl rfl) hw, rfl⟩
  · obtain ⟨seconds, w, hw, rfl, rfl⟩ := written_of_scanSigned h
    exact ⟨_, .west (.inr rfl) hw, rfl⟩
  · next u t c more _ _ _ _ _ =>
    split at h
    · next hletters =>
      cases h
      simp only [Bool.and_eq_true, decide_eq_true_eq, toUpper_eq_iff] at hletters
      exact ⟨[u, t, c], .utc hletters.1.1 hletters.1.2 hletters.2, rfl⟩
    · cases h
  · cases h
  · cases h

/-- An offset begins with a sign or with a letter. -/
theorem exists_cons_of_offset (h : OffsetWritten offset w) :
    ∃ c more, w = c :: more ∧ Text.isBlank c = false ∧ c.isDigit = false ∧ c ≠ '.' := by
  cases h with
  | zulu hc => rcases hc with rfl | rfl <;> exact ⟨_, _, rfl, by decide⟩
  | utc hu _ _ => rcases hu with rfl | rfl <;> exact ⟨_, _, rfl, by decide⟩
  | east h => exact ⟨_, _, rfl, by decide⟩
  | west hc h => rcases hc with rfl | rfl <;> exact ⟨_, _, rfl, by decide⟩

end Offsets

/-! ## Instants -/

section Instants

variable {p : DateParts} {t : Instant}

theorem ofParts?_eq_some_iff {day : Int} {second nano : Nat} :
    Instant.ofParts? day second nano = some t ↔ t.day = day ∧ t.second = second ∧ t.nano = nano := by
  unfold Instant.ofParts?
  constructor
  · intro h
    split at h
    · rw [← Option.some.inj h]
      exact ⟨rfl, rfl, rfl⟩
    · cases h
  · rintro ⟨rfl, rfl, rfl⟩
    exact dif_pos ⟨t.day_inRange, t.second_lt, t.nano_lt, t.leap_last⟩

/-- A local time stands for the instant that is as many seconds from the epoch, less the offset. -/
theorem ofLocal_eq_ok_iff {date : Date} {second nano : Nat} {offset : Int} :
    Instant.ofLocal date second nano offset = .ok t ↔
      (date.isValid = true ∧ inRange date.toDayNumber = true ∧ offset.natAbs < 86400) ∧
        t.day * 86400 + t.second = date.toDayNumber * 86400 + second - offset ∧ t.nano = nano := by
  have hsecond := t.second_lt
  have hparts : t.day * 86400 + t.second = date.toDayNumber * 86400 + second - offset ↔
      t.day = (date.toDayNumber * 86400 + second - offset) / 86400 ∧
        t.second = ((date.toDayNumber * 86400 + second - offset) % 86400).toNat := by
    omega
  rw [hparts, and_assoc (c := t.nano = nano), ← ofParts?_eq_some_iff]
  unfold Instant.ofLocal
  split
  · next hbad =>
    refine iff_of_false nofun fun h => ?_
    obtain ⟨⟨hvalid, hrange, hoffset⟩, -⟩ := h
    simp [hvalid, hrange, Nat.not_le.2 hoffset] at hbad
  · next hgood =>
    simp only [Bool.or_eq_true, Bool.not_eq_true', decide_eq_true_eq, not_or, Bool.not_eq_false, not_le] at hgood
    rw [and_iff_right ⟨hgood.1.1, hgood.1.2, hgood.2⟩]
    dsimp only
    cases Instant.ofParts? _ _ nano <;> simp

/-- The years of days that instants can have fit. -/
theorem fitsYear_of_denotes (h : p.Denotes t) : fitsYear p.date.year = true := by
  have hrange := h.inRange
  obtain ⟨hmonth, hday⟩ := bounds_of_isValid h.valid
  have hfirst : (Date.mk (-262143) 1 1).toDayNumber = -96465292 := by decide
  have hlast : (Date.mk 262142 12 31).toDayNumber = 95026236 := by decide
  rw [inRange, hfirst, hlast] at hrange
  simp only [Bool.and_eq_true, decide_eq_true_eq] at hrange
  unfold Date.toDayNumber at hrange
  have hbounds : -2147483648 ≤ p.date.year ∧ p.date.year < 2147483648 := by
    dsimp only at hrange
    split at hrange <;> omega
  simpa [fitsYear] using hbounds

/-! ### What stands behind numbers -/

theorem endsDigits_cons {c : Char} (hc : c.isDigit = false) (rest : List Char) : EndsDigits (c :: rest) := by
  intro d hd
  rwa [← Option.some.inj hd]

theorem isDigit_of_isBlank {c : Char} (hc : Text.isBlank c = true) : c.isDigit = false := by
  by_contra h
  rw [not_isBlank_of_isDigit (Bool.not_eq_false _ ▸ h)] at hc
  cases hc

/-- What holds of blanks and of what stands behind some holds of what comes first. -/
theorem head?_blanks_append {motive : Char → Prop} {b rest : List Char} (hblank : ∀ c, Text.isBlank c = true → motive c)
    (hb : b ∈ blanks) (h : ∀ c, rest.head? = some c → motive c) : ∀ c, (b ++ rest).head? = some c → motive c := by
  cases b with
  | nil => exact h
  | cons c b =>
    intro d hd
    obtain rfl := Option.some.inj hd
    exact hblank _ (hb _ List.mem_cons_self)

theorem endsDigits_blanks {b rest : List Char} (hb : b ∈ blanks) (h : EndsDigits rest) : EndsDigits (b ++ rest) :=
  head?_blanks_append (fun _ => isDigit_of_isBlank) hb h

theorem endsDigits_fraction {nano : Nat} {w rest : List Char} (h : FractionWritten nano w) (hrest : EndsDigits rest) :
    EndsDigits (w ++ rest) := by
  cases h with
  | absent => exact hrest
  | digits h => exact endsDigits_cons (by decide) _

theorem endsDigits_mark {c : Char} {w : List Char} (hc : c.isDigit = false) (h : w ∈ mark c) (rest : List Char) :
    EndsDigits (w ++ rest) := by
  obtain ⟨b, hb, m, rfl, rfl⟩ := Language.mem_mul.1 h
  rw [List.append_assoc]
  exact endsDigits_blanks hb (endsDigits_cons hc rest)

theorem endsDigits_joint {w : List Char} (h : w ∈ joint) (rest : List Char) : EndsDigits (w ++ rest) := by
  rcases h with rfl | rfl | rfl <;> exact endsDigits_cons (by decide) rest

/-! ### Whole dates -/

/-- The second of the day and the fraction, as they are read; the sixtieth second is the one before, with a longer
fraction. -/
theorem ofLocal_of_parts (p : DateParts) (t : Instant) :
    (Instant.ofLocal p.date (p.hour * 3600 + p.minute * 60 + (if p.second = 60 then 59 else p.second))
      (if p.second = 60 then p.nano + 1000000000 else p.nano) p.offset = .ok t ∧
        p.hour ≤ 23 ∧ p.minute ≤ 59 ∧ p.second ≤ 60) ↔ p.Denotes t := by
  rw [ofLocal_eq_ok_iff]
  constructor
  · rintro ⟨⟨⟨hvalid, hrange, hoffset⟩, hseconds, hnano⟩, hhour, hminute, hsecond⟩
    refine ⟨hvalid, hrange, hhour, hminute, hsecond, hoffset, ?_, ?_⟩
    · rw [hseconds, DateParts.secondOfDay]
      split <;> omega
    · rw [hnano]
      split <;> rfl
  · intro h
    have hsecond := h.second
    refine ⟨⟨⟨h.valid, h.inRange, h.offset⟩, ?_, ?_⟩, h.hour, h.minute, h.second⟩
    · rw [h.seconds, DateParts.secondOfDay]
      split <;> omega
    · rw [h.nano]
      split <;> rfl

theorem read_of_language {text : String} (h : p.Denotes t) (htext : text.toList ∈ p.language) :
    Instant.read text = .ok t := by
  obtain ⟨⟨hmonth, hmonth'⟩, hday, hday'⟩ := bounds_of_isValid h.valid
  simp only [DateParts.language, mul_assoc] at htext
  obtain ⟨b, hb, _, ⟨y, hyear, _, ⟨m₁, hm₁, _, ⟨mo, hmo, _, ⟨m₂, hm₂, _, ⟨d, hd, _, ⟨j, hj, _, ⟨ho, hho, _,
    ⟨m₃, hm₃, _, ⟨mi, hmi, _, ⟨m₄, hm₄, _, ⟨se, hse, _, ⟨f, hf, _, ⟨b', hb', _, ⟨o, hoff, e, he, rfl⟩, rfl⟩, rfl⟩, rfl⟩,
    rfl⟩, rfl⟩, rfl⟩, rfl⟩, rfl⟩, rfl⟩, rfl⟩, rfl⟩, rfl⟩, rfl⟩, htext⟩ := htext
  obtain ⟨c, more, rfl, hblank, hdigit, hpoint⟩ := exists_cons_of_offset hoff
  dsimp only at htext
  -- neither a digit nor a point follows the fraction
  have hends : EndsDigits (b' ++ (c :: more ++ e)) := endsDigits_blanks hb' (endsDigits_cons hdigit _)
  have hnext : ∀ d, (b' ++ (c :: more ++ e)).head? = some d → d ≠ '.' :=
    head?_blanks_append (fun d hd heq => absurd (heq ▸ hd) (by decide)) hb' (by simpa using hpoint)
  have hoffset : scanOffset (Text.trimStart (b' ++ (c :: more ++ e))) = .ok (p.offset, e) := by
    rw [trimStart_blanks_append hb', List.cons_append, trimStart_cons hblank]
    exact scanOffset_of_written hoff e
  have hblanks : Text.trimStart e = [] := trimStart_eq_nil_iff.2 he
  unfold Instant.read
  rw [← htext]
  refine bind_eq_ok.2 ⟨_, scanYear_of_written hyear (fitsYear_of_denotes h) hb (endsDigits_mark (by decide) hm₁ _), ?_⟩
  refine bind_eq_ok.2 ⟨_, scanMark_of_mark (by decide) hm₁ _, ?_⟩
  refine bind_eq_ok.2 ⟨_, scanField_of_field hmo hmonth hmonth' (endsDigits_mark (by decide) hm₂ _), ?_⟩
  refine bind_eq_ok.2 ⟨_, scanMark_of_mark (by decide) hm₂ _, ?_⟩
  refine bind_eq_ok.2 ⟨_, scanField_of_field hd hday hday' (endsDigits_joint hj _), ?_⟩
  refine bind_eq_ok.2 ⟨_, scanJoint_of_joint hj _, ?_⟩
  refine bind_eq_ok.2 ⟨_, scanField_of_field hho (Nat.zero_le _) h.hour (endsDigits_mark (by decide) hm₃ _), ?_⟩
  refine bind_eq_ok.2 ⟨_, scanMark_of_mark (by decide) hm₃ _, ?_⟩
  refine bind_eq_ok.2 ⟨_, scanField_of_field hmi (Nat.zero_le _) h.minute (endsDigits_mark (by decide) hm₄ _), ?_⟩
  refine bind_eq_ok.2 ⟨_, scanMark_of_mark (by decide) hm₄ _, ?_⟩
  refine bind_eq_ok.2 ⟨_, scanField_of_field hse (Nat.zero_le _) h.second (endsDigits_fraction hf hends), ?_⟩
  refine bind_eq_ok.2 ⟨_, scanFraction_of_written hf hends hnext, ?_⟩
  refine bind_eq_ok.2 ⟨_, hoffset, ?_⟩
  dsimp only
  rw [hblanks, apply_ite Prod.fst, apply_ite Prod.snd]
  exact ((ofLocal_of_parts p t).2 h).1

theorem language_of_read {text : String} (h : Instant.read text = .ok t) :
    ∃ p : DateParts, p.Denotes t ∧ text.toList ∈ p.language := by
  unfold Instant.read at h
  obtain ⟨⟨year, rest₁⟩, hyear, h⟩ := bind_eq_ok.1 h
  obtain ⟨rest₂, hm₁, h⟩ := bind_eq_ok.1 h
  obtain ⟨⟨month, rest₃⟩, hmonth, h⟩ := bind_eq_ok.1 h
  obtain ⟨rest₄, hm₂, h⟩ := bind_eq_ok.1 h
  obtain ⟨⟨day, rest₅⟩, hday, h⟩ := bind_eq_ok.1 h
  obtain ⟨rest₆, hjoint, h⟩ := bind_eq_ok.1 h
  obtain ⟨⟨hour, rest₇⟩, hhour, h⟩ := bind_eq_ok.1 h
  obtain ⟨rest₈, hm₃, h⟩ := bind_eq_ok.1 h
  obtain ⟨⟨minute, rest₉⟩, hminute, h⟩ := bind_eq_ok.1 h
  obtain ⟨rest₁₀, hm₄, h⟩ := bind_eq_ok.1 h
  obtain ⟨⟨second, rest₁₁⟩, hsecond, h⟩ := bind_eq_ok.1 h
  obtain ⟨⟨nano, rest₁₂⟩, hnano, h⟩ := bind_eq_ok.1 h
  obtain ⟨⟨offset, rest⟩, hoffset, h⟩ := bind_eq_ok.1 h
  dsimp only at *
  split at h
  · cases h
  · next hempty =>
    rw [apply_ite Prod.fst, apply_ite Prod.snd] at h
    have hminutes := field_of_scanField hminute
    have hhours := field_of_scanField hhour
    have hseconds := field_of_scanField hsecond
    have hblanks : rest ∈ blanks := trimStart_eq_nil_iff.1 (by simpa using hempty)
    refine ⟨⟨⟨year, month, day⟩, hour, minute, second, nano, offset⟩,
      (ofLocal_of_parts ⟨⟨year, month, day⟩, hour, minute, second, nano, offset⟩ t).1
        ⟨h, hhours.2.2, hminutes.2.2, hseconds.2.2⟩, ?_⟩
    have hdate := exists_append (exists_append (exists_append (exists_append (exists_append
      (written_of_scanYear hyear) (mark_of_scanMark hm₁)) (field_of_scanField hmonth).1) (mark_of_scanMark hm₂))
      (field_of_scanField hday).1) (joint_of_scanJoint hjoint)
    have htime := exists_append (exists_append (exists_append (exists_append (exists_append hdate hhours.1)
      (mark_of_scanMark hm₃)) hminutes.1) (mark_of_scanMark hm₄)) hseconds.1
    obtain ⟨w, hw, hread⟩ := exists_append (exists_append (exists_append htime (written_of_scanFraction hnano))
      (exists_blanks rest₁₂)) (written_of_scanOffset hoffset)
    rw [← hread]
    exact Language.append_mem_mul hw hblanks

/-- **An instant is read from the spellings of the parts that stand for it**, and from nothing else. -/
theorem Instant.read_eq_ok_iff {text : String} :
    Instant.read text = .ok t ↔ ∃ p : DateParts, p.Denotes t ∧ text.toList ∈ p.language :=
  ⟨language_of_read, fun ⟨_, h, htext⟩ => read_of_language h htext⟩

example : Instant.read " 1970-1 -01t2:00:0.000 +02:00" = .ok .epoch := by rfl

end Instants

end CommentBot.Time
