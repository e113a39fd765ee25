import CommentBot.Proofs.Json.Grammar

/-!
# Reading numbers

`Numeral.scan_written`: a number is read from the front of a text, unless what follows would go on with it.
`Numeral.written_of_scan`: what is read is written there.
-/

namespace CommentBot.Json

/-! ## Digits -/

theorem toNat_of_isDigit {c : UInt8} (h : isDigit c = true) : 48 ≤ c.toNat ∧ c.toNat ≤ 57 := by
  unfold isDigit at h
  simpa [UInt8.le_iff_toNat_le] using h

theorem isDigit_ofNat {d : Nat} (h : d < 10) : isDigit (UInt8.ofNat (48 + d)) = true := by
  have hall : ∀ d < 10, isDigit (UInt8.ofNat (48 + d)) = true := by decide
  exact hall d h

theorem toNat_ofNat_sub {d : Nat} (h : d < 10) : (UInt8.ofNat (48 + d)).toNat - 48 = d := by
  have hall : ∀ d < 10, (UInt8.ofNat (48 + d)).toNat - 48 = d := by decide
  exact hall d h

theorem ofNat_toNat_sub {c : UInt8} (h : isDigit c = true) : UInt8.ofNat (48 + (c.toNat - 48)) = c := by
  have hc := toNat_of_isDigit h
  rw [Nat.add_sub_cancel' hc.1]
  exact UInt8.ofNat_toNat

/-- The text does not go on with a digit. -/
def NoDigit (rest : List UInt8) : Prop := ∀ c, rest.head? = some c → isDigit c = false

theorem takeWhile_of_noDigit {rest : List UInt8} (h : NoDigit rest) : rest.takeWhile isDigit = [] := by
  cases rest with
  | nil => rfl
  | cons c rest => simp [h c rfl]

theorem dropWhile_of_noDigit {rest : List UInt8} (h : NoDigit rest) : rest.dropWhile isDigit = rest := by
  cases rest with
  | nil => rfl
  | cons c rest => simp [h c rfl]

theorem isDigit_of_mem_digitOctets {ds : List Nat} (h : ∀ d ∈ ds, d < 10) :
    ∀ c ∈ digitOctets ds, isDigit c = true := by
  intro c hc
  obtain ⟨d, hd, rfl⟩ := List.mem_map.1 hc
  exact isDigit_ofNat (h d hd)

theorem map_digitOctets {ds : List Nat} (h : ∀ d ∈ ds, d < 10) :
    (digitOctets ds).map (fun c => c.toNat - 48) = ds := by
  rw [digitOctets, List.map_map]
  exact (List.map_congr_left fun d hd => toNat_ofNat_sub (h d hd)).trans (List.map_id _)

theorem digitOctets_map {t : List UInt8} (h : ∀ c ∈ t, isDigit c = true) :
    digitOctets (t.map fun c => c.toNat - 48) = t := by
  rw [digitOctets, List.map_map]
  exact (List.map_congr_left fun c hc => ofNat_toNat_sub (h c hc)).trans (List.map_id _)

theorem scanDigits_written {ds : List Nat} {rest : List UInt8} (h : AreDigits ds) (hrest : NoDigit rest) :
    scanDigits (digitOctets ds ++ rest) = .ok (ds, rest) := by
  have hdigits := isDigit_of_mem_digitOctets h.2
  have hlead : leadingDigits (digitOctets ds ++ rest) = ds := by
    unfold leadingDigits
    rw [List.takeWhile_append_of_pos hdigits, takeWhile_of_noDigit hrest, List.append_nil]
    exact map_digitOctets h.2
  have hafter : afterDigits (digitOctets ds ++ rest) = rest := by
    unfold afterDigits
    rw [List.dropWhile_append_of_pos hdigits, dropWhile_of_noDigit hrest]
  unfold scanDigits
  rw [hlead, hafter]
  cases ds with
  | nil => exact absurd rfl h.1
  | cons d ds => rfl

/-- Digits that were read are written there, and no further digit follows. -/
structure DigitsRead (octets : List UInt8) (ds : List Nat) (rest : List UInt8) : Prop where
  digits : AreDigits ds
  octets : octets = digitOctets ds ++ rest
  stops : NoDigit rest

theorem digits_of_scan {octets rest : List UInt8} {ds : List Nat} (h : scanDigits octets = .ok (ds, rest)) :
    DigitsRead octets ds rest := by
  have hall : ∀ c ∈ octets.takeWhile isDigit, isDigit c = true := List.all_eq_true.1 List.all_takeWhile
  unfold scanDigits at h
  split at h
  · cases h
  · rename_i digits hne
    simp only [Except.ok.injEq, Prod.mk.injEq] at h
    obtain ⟨rfl, rfl⟩ := h
    refine ⟨⟨hne, fun d hd => ?_⟩, ?_, fun c hc => ?_⟩
    · obtain ⟨c, hc, rfl⟩ := List.mem_map.1 hd
      have := toNat_of_isDigit (hall c hc)
      omega
    · rw [leadingDigits, digitOctets_map hall]
      exact List.takeWhile_append_dropWhile.symm
    · unfold afterDigits at hc
      have := List.head?_dropWhile_not isDigit octets
      rw [hc] at this
      simpa using this

/-! ## The parts of a number -/

theorem scanWhole_written {ds : List Nat} {rest : List UInt8} (h : AreWhole ds) (hrest : NoDigit rest) :
    scanWhole (digitOctets ds ++ rest) = .ok (ds, rest) := by
  unfold scanWhole
  rw [scanDigits_written h.1 hrest]
  simp only [bind, Except.bind]
  split
  · rename_i d ds'
    cases h.2 rfl
  · rfl

theorem whole_of_scan {octets rest : List UInt8} {ds : List Nat} (h : scanWhole octets = .ok (ds, rest)) :
    AreWhole ds ∧ octets = digitOctets ds ++ rest := by
  unfold scanWhole at h
  cases hscan : scanDigits octets with
  | error f =>
    rw [hscan] at h
    cases h
  | ok p =>
    obtain ⟨ds', rest'⟩ := p
    rw [hscan] at h
    simp only [bind, Except.bind] at h
    have hread := digits_of_scan hscan
    split at h
    · cases h
    · rename_i hzero
      simp only [Except.ok.injEq, Prod.mk.injEq] at h
      obtain ⟨rfl, rfl⟩ := h
      refine ⟨⟨hread.digits, fun hhead => ?_⟩, hread.octets⟩
      match ds', hhead, hzero with
      | [0], _, _ => rfl
      | 0 :: d :: ds, _, hzero => exact absurd rfl (hzero d ds)

/-- The text goes on neither with a digit nor with a point. -/
def EndsWhole (rest : List UInt8) : Prop := ∀ c, rest.head? = some c → isDigit c = false ∧ c ≠ 46

theorem scanFraction_written {ds : List Nat} {t rest : List UInt8} (h : FractionWritten ds t)
    (hrest : EndsWhole rest) : scanFraction (t ++ rest) = .ok (ds, rest) := by
  cases h with
  | absent =>
    rw [List.nil_append]
    unfold scanFraction
    split
    · exact absurd rfl (hrest 46 rfl).2
    · rfl
  | digits h => exact scanDigits_written h fun c hc => (hrest c hc).1

theorem fraction_of_scan {octets rest : List UInt8} {ds : List Nat} (h : scanFraction octets = .ok (ds, rest)) :
    ∃ t, FractionWritten ds t ∧ octets = t ++ rest := by
  unfold scanFraction at h
  split at h
  · have hread := digits_of_scan h
    exact ⟨_, .digits hread.digits, by rw [hread.octets]; rfl⟩
  · simp only [Except.ok.injEq, Prod.mk.injEq] at h
    obtain ⟨rfl, rfl⟩ := h
    exact ⟨[], .absent, rfl⟩

theorem exponentSign_written {negative : Bool} {sign rest : List UInt8} (h : SignWritten negative sign)
    (hrest : ∀ c, rest.head? = some c → c ≠ 43 ∧ c ≠ 45) : exponentSign (sign ++ rest) = (negative, rest) := by
  cases h with
  | absent =>
    rw [List.nil_append]
    unfold exponentSign
    split
    · exact absurd rfl (hrest 43 rfl).1
    · exact absurd rfl (hrest 45 rfl).2
    · rfl
  | plus => rfl
  | minus => rfl

theorem sign_of_exponentSign {octets rest : List UInt8} {negative : Bool}
    (h : exponentSign octets = (negative, rest)) : ∃ sign, SignWritten negative sign ∧ octets = sign ++ rest := by
  unfold exponentSign at h
  split at h
  · cases h
    exact ⟨_, .plus, rfl⟩
  · cases h
    exact ⟨_, .minus, rfl⟩
  · cases h
    exact ⟨_, .absent, rfl⟩

/-- The text does not go on with a number. -/
def EndsNumber (rest : List UInt8) : Prop :=
  ∀ c, rest.head? = some c → isDigit c = false ∧ c ≠ 46 ∧ c ≠ 101 ∧ c ≠ 69

theorem head?_digitOctets {ds : List Nat} (h : AreDigits ds) (rest : List UInt8) {c : UInt8}
    (hc : (digitOctets ds ++ rest).head? = some c) : isDigit c = true := by
  obtain ⟨hne, hlt⟩ := h
  cases ds with
  | nil => exact absurd rfl hne
  | cons d ds =>
    obtain rfl := Option.some.inj hc
    exact isDigit_ofNat (hlt d List.mem_cons_self)

theorem scanExponent_written {exponent : Option Exponent} {t rest : List UInt8} (h : ExponentWritten exponent t)
    (hrest : EndsNumber rest) : scanExponent (t ++ rest) = .ok (exponent, rest) := by
  cases h with
  | absent =>
    rw [List.nil_append]
    cases rest with
    | nil => rfl
    | cons c rest =>
      have hc := hrest c rfl
      unfold scanExponent
      dsimp only
      rw [if_neg (by simp [hc.2.2])]
  | @digits mark negative sign ds hmark hsign hdigits =>
    have hstart : ∀ c, (digitOctets ds ++ rest).head? = some c → c ≠ 43 ∧ c ≠ 45 := by
      intro c hc
      have hdigit := head?_digitOctets hdigits rest hc
      constructor
      · rintro rfl
        exact absurd hdigit (by decide)
      · rintro rfl
        exact absurd hdigit (by decide)
    rw [List.cons_append, List.append_assoc]
    unfold scanExponent
    dsimp only
    rw [if_pos (by simpa using hmark), exponentSign_written hsign hstart]
    dsimp only
    rw [scanDigits_written hdigits fun c hc => (hrest c hc).1]
    rfl

theorem exponent_of_scan {octets rest : List UInt8} {exponent : Option Exponent}
    (h : scanExponent octets = .ok (exponent, rest)) : ∃ t, ExponentWritten exponent t ∧ octets = t ++ rest := by
  unfold scanExponent at h
  split at h
  · simp only [Except.ok.injEq, Prod.mk.injEq] at h
    obtain ⟨rfl, rfl⟩ := h
    exact ⟨[], .absent, rfl⟩
  · rename_i c tail
    split at h
    · rename_i hmark
      cases hsplit : exponentSign tail with
      | mk negative afterSign =>
        obtain ⟨sign, hsign, htail⟩ := sign_of_exponentSign hsplit
        rw [hsplit] at h
        dsimp only at h
        cases hscan : scanDigits afterSign with
        | error f =>
          rw [hscan] at h
          cases h
        | ok p =>
          obtain ⟨ds, rest'⟩ := p
          rw [hscan] at h
          cases h
          have hread := digits_of_scan hscan
          refine ⟨_, .digits (by simpa using hmark) hsign hread.digits, ?_⟩
          rw [htail, hread.octets, List.cons_append, List.append_assoc]
    · cases h
      exact ⟨[], .absent, rfl⟩

/-! ## Numbers -/

theorem endsWhole_of_endsNumber {rest : List UInt8} (h : EndsNumber rest) : EndsWhole rest :=
  fun c hc => ⟨(h c hc).1, (h c hc).2.1⟩

/-- Neither a digit nor a point stands where an exponent may begin. -/
theorem endsWhole_exponent {exponent : Option Exponent} {e rest : List UInt8} (h : ExponentWritten exponent e)
    (hrest : EndsNumber rest) : EndsWhole (e ++ rest) := by
  cases h with
  | absent => exact endsWhole_of_endsNumber hrest
  | digits hmark hsign hdigits =>
    intro c hc
    obtain rfl := Option.some.inj hc
    rcases hmark with rfl | rfl
    · decide
    · decide

/-- No digit stands where a fraction may begin. -/
theorem noDigit_fraction {ds : List Nat} {f rest : List UInt8} (h : FractionWritten ds f)
    (hrest : EndsWhole rest) : NoDigit (f ++ rest) := by
  cases h with
  | absent => exact fun c hc => (hrest c hc).1
  | digits h =>
    intro c hc
    obtain rfl := Option.some.inj hc
    decide

theorem Numeral.scanUnsigned_written {negative : Bool} {whole fraction : List Nat} {exponent : Option Exponent}
    {f e rest : List UInt8} (hwhole : AreWhole whole) (hfraction : FractionWritten fraction f)
    (hexponent : ExponentWritten exponent e) (hrest : EndsNumber rest) :
    scanUnsigned negative (digitOctets whole ++ (f ++ (e ++ rest))) =
      .ok (⟨negative, whole, fraction, exponent⟩, rest) := by
  have hend := endsWhole_exponent hexponent hrest
  unfold scanUnsigned
  rw [scanWhole_written hwhole (noDigit_fraction hfraction hend)]
  simp only [bind, Except.bind]
  rw [scanFraction_written hfraction hend]
  simp only
  rw [scanExponent_written hexponent hrest]

/-- A number is read from the front of a text that does not go on with it. -/
theorem Numeral.scan_written {n : Numeral} {t rest : List UInt8} (h : n.Written t) (hrest : EndsNumber rest) :
    scan (t ++ rest) = .ok (n, rest) := by
  cases h with
  | @parts negative whole fraction exponent f e hwhole hfraction hexponent =>
    have hunsigned : ∀ negative, scanUnsigned negative (digitOctets whole ++ (f ++ (e ++ rest))) =
        .ok (⟨negative, whole, fraction, exponent⟩, rest) :=
      fun _ => scanUnsigned_written hwhole hfraction hexponent hrest
    simp only [List.append_assoc]
    cases negative with
    | true => exact hunsigned true
    | false =>
      rw [minusSign, if_neg (by decide), List.nil_append]
      unfold scan
      split
      · rename_i heq
        have hdigit := head?_digitOctets hwhole.1 (f ++ (e ++ rest)) (c := 45) (by rw [heq]; rfl)
        exact absurd hdigit (by decide)
      · exact hunsigned false

theorem Numeral.written_of_scanUnsigned {negative : Bool} {octets rest : List UInt8} {n : Numeral}
    (h : scanUnsigned negative octets = .ok (n, rest)) :
    ∃ t, n.Written (minusSign negative ++ t) ∧ octets = t ++ rest := by
  unfold scanUnsigned at h
  simp only [bind, Except.bind] at h
  split at h
  · cases h
  rename_i whole hwhole
  obtain ⟨whole, afterWhole⟩ := whole
  split at h
  · cases h
  rename_i fraction hfraction
  obtain ⟨fraction, afterFraction⟩ := fraction
  split at h
  · cases h
  rename_i exponent hexponent
  obtain ⟨exponent, afterExponent⟩ := exponent
  cases h
  obtain ⟨hw, rfl⟩ := whole_of_scan hwhole
  obtain ⟨f, hf, rfl⟩ := fraction_of_scan hfraction
  obtain ⟨e, he, rfl⟩ := exponent_of_scan hexponent
  exact ⟨_, .parts hw hf he, by simp only [List.append_assoc]⟩

/-- A number that was read is written at the front of the text. -/
theorem Numeral.written_of_scan {octets rest : List UInt8} {n : Numeral} (h : scan octets = .ok (n, rest)) :
    ∃ t, n.Written t ∧ octets = t ++ rest := by
  unfold scan at h
  split at h
  · obtain ⟨t, ht, rfl⟩ := written_of_scanUnsigned h
    exact ⟨_, ht, rfl⟩
  · exact written_of_scanUnsigned h

/-- A number begins with its sign or with a digit. -/
theorem Numeral.Written.head {n : Numeral} {t : List UInt8} (h : n.Written t) :
    ∃ c rest, t = c :: rest ∧ (c = 45 ∨ isDigit c = true) := by
  cases h with
  | @parts negative whole fraction exponent f e hwhole hfraction hexponent =>
    cases negative with
    | true => exact ⟨45, _, rfl, .inl rfl⟩
    | false =>
      obtain ⟨⟨hne, hlt⟩, -⟩ := hwhole
      cases whole with
      | nil => exact absurd rfl hne
      | cons d ds => exact ⟨_, _, rfl, .inr (isDigit_ofNat (hlt d List.mem_cons_self))⟩

end CommentBot.Json
