import CommentBot.Proofs.Json.Numerals

/-!
# Reading strings and words

What is written at the front of a text is read as one token (`Token.scan_written`), and a token without a fault is
written where it was read (`written_of_scanScalar`, `eq_of_punctuation?`).
-/

namespace CommentBot.Json

/-! ## Strings -/

namespace Spelling

theorem scanFrom_plain {v : UInt8} (hcontrol : ¬ v < 32) (hquote : v ≠ 34) (hbackslash : v ≠ 92)
    (done : List Piece) (rest : List UInt8) :
    scanFrom done (v :: rest) = scanFrom (.octet v :: done) rest := by
  rw [scanFrom.eq_def]
  split
  case h_6 =>
    rename_i heq
    cases heq
    rw [if_neg hcontrol]
  all_goals simp_all

theorem scanFrom_escape {letter v : UInt8} (hletter : escaped? letter = some v) (done : List Piece)
    (rest : List UInt8) : scanFrom done (92 :: letter :: rest) = scanFrom (.octet v :: done) rest := by
  have hu : letter ≠ 117 := by
    rintro rfl
    cases hletter
  rw [scanFrom.eq_def]
  split
  case h_6 hletters _ heq =>
    cases heq
    exact (hletters letter rest rfl rfl).elim
  all_goals simp_all

theorem scanFrom_unit {a b c d : UInt8} {v : Nat} (hdigits : unit? a b c d = some v) (done : List Piece)
    (rest : List UInt8) :
    scanFrom done (92 :: 117 :: a :: b :: c :: d :: rest) = scanFrom (.unit v :: done) rest := by
  rw [scanFrom, hdigits]

/-- The pieces of a string are read up to its end. -/
theorem scanFrom_written {ps : List Piece} {t : List UInt8} (h : PiecesWritten ps t) (done : List Piece)
    (rest : List UInt8) : scanFrom done (t ++ 34 :: rest) = (⟨done.reverse ++ ps, none⟩, rest) := by
  induction h generalizing done with
  | nil => rw [List.nil_append, scanFrom, List.append_nil]
  | plain hcontrol hquote hbackslash _ ih =>
    rw [List.cons_append, scanFrom_plain hcontrol hquote hbackslash, ih]
    simp
  | escape hletter _ ih =>
    rw [List.cons_append, List.cons_append, scanFrom_escape hletter, ih]
    simp
  | unit hdigits _ ih =>
    simp only [List.cons_append]
    rw [scanFrom_unit hdigits, ih]
    simp

/-- The pieces of a string that was read to its end are written there. -/
theorem pieces_of_scanFrom {done : List Piece} {octets rest : List UInt8} {s : Spelling}
    (h : scanFrom done octets = (s, rest)) (hs : s.fault = none) :
    ∃ ps t, PiecesWritten ps t ∧ octets = t ++ 34 :: rest ∧ s = ⟨done.reverse ++ ps, none⟩ := by
  fun_induction scanFrom done octets with
  | case1 done =>
    cases h
    cases hs
  | case2 done rest' =>
    cases h
    exact ⟨[], [], .nil, rfl, by rw [List.append_nil]⟩
  | case3 done a b c d rest' v hunit ih =>
    obtain ⟨ps, t, hps, rfl, rfl⟩ := ih h
    exact ⟨.unit v :: ps, _, .unit hunit hps, rfl, by simp⟩
  | case4 done a b c d rest' hunit =>
    cases h
    cases hs
  | case5 done rest' =>
    cases h
    cases hs
  | case6 done letter rest' _ hletter v hescaped ih =>
    obtain ⟨ps, t, hps, rfl, rfl⟩ := ih h
    exact ⟨.octet v :: ps, _, .escape hescaped hps, rfl, by simp⟩
  | case7 done letter rest' _ hletter hescaped =>
    cases h
    cases hs
  | case8 done =>
    cases h
    cases hs
  | case9 done v rest' hquote hone hunit hletter hcontrol =>
    cases h
    cases hs
  | case10 done v rest' hquote _ hletters hlast hcontrol ih =>
    have hv : v ≠ 92 := by
      rintro rfl
      cases rest' with
      | nil => exact hlast rfl rfl
      | cons letter rest' => exact hletters letter rest' rfl rfl
    obtain ⟨ps, t, hps, rfl, rfl⟩ := ih h
    exact ⟨.octet v :: ps, _, .plain hcontrol hquote hv hps, rfl, by simp⟩

end Spelling

/-! ## Words -/

theorem scanWord_written (value : Scalar) (word rest : List UInt8) :
    scanWord value word (word ++ rest) = (.scalar value, rest) := by
  induction word with
  | nil => cases rest <;> rfl
  | cons letter word ih => rw [List.cons_append, scanWord, if_pos rfl, ih]

theorem word_of_scanWord {value s : Scalar} {word octets rest : List UInt8}
    (h : scanWord value word octets = (.scalar s, rest)) (hs : s.fault? = none) :
    s = value ∧ octets = word ++ rest := by
  fun_induction scanWord value word octets with
  | case1 octets =>
    cases h
    exact ⟨rfl, rfl⟩
  | case2 letter word =>
    cases h
    cases hs
  | case3 letter word octets ih =>
    obtain ⟨rfl, rfl⟩ := ih h
    exact ⟨rfl, rfl⟩
  | case4 letter word c octets hc =>
    cases h
    cases hs

/-! ## Scalars -/

/-- A character that begins a number begins nothing else. -/
theorem of_startsNumber {c : UInt8} (h : c = 45 ∨ isDigit c = true) : isSpace c = false ∧
    punctuation? c = none ∧ ¬ c = 34 ∧ ¬ c = 110 ∧ ¬ c = 116 ∧ ¬ c = 102 := by
  have hall : ∀ d < 10, isSpace (UInt8.ofNat (48 + d)) = false ∧ punctuation? (UInt8.ofNat (48 + d)) = none ∧
      ¬ UInt8.ofNat (48 + d) = 34 ∧ ¬ UInt8.ofNat (48 + d) = 110 ∧ ¬ UInt8.ofNat (48 + d) = 116 ∧
      ¬ UInt8.ofNat (48 + d) = 102 := by decide
  rcases h with rfl | h
  · decide
  · have hc := toNat_of_isDigit h
    rw [← ofNat_toNat_sub h]
    exact hall _ (by omega)

/-- A scalar is read from the front of a text; a number only if the text does not go on with it. -/
theorem scanScalar_written {s : Scalar} {t rest : List UInt8} (h : s.Written t) (hrest : EndsNumber rest) :
    ∃ c t', t = c :: t' ∧ isSpace c = false ∧ punctuation? c = none ∧
      scanScalar c (t' ++ rest) = (.scalar s, rest) := by
  cases h with
  | null => exact ⟨110, _, rfl, rfl, rfl, scanWord_written .null [117, 108, 108] rest⟩
  | true => exact ⟨116, _, rfl, rfl, rfl, scanWord_written (.bool true) [114, 117, 101] rest⟩
  | false => exact ⟨102, _, rfl, rfl, rfl, scanWord_written (.bool false) [97, 108, 115, 101] rest⟩
  | @number n _ hn =>
    obtain ⟨c, t', rfl, hc⟩ := hn.head
    have hscan := Numeral.scan_written hn hrest
    obtain ⟨hspace, hpunctuation, hquote, hn, ht, hf⟩ := of_startsNumber hc
    refine ⟨c, t', rfl, hspace, hpunctuation, ?_⟩
    unfold scanScalar
    rw [if_neg hquote, if_neg hn, if_neg ht, if_neg hf, if_pos (by simpa using hc)]
    unfold scanNumber
    rw [← List.cons_append, hscan]
  | @string ps t hps =>
    refine ⟨34, _, rfl, rfl, rfl, ?_⟩
    have hscan := Spelling.scanFrom_written hps [] rest
    unfold scanScalar Spelling.scan
    rw [if_pos rfl, List.append_assoc, List.singleton_append, hscan]
    rfl

/-- A scalar that was read without a fault is written there. -/
theorem written_of_scanScalar {c : UInt8} {octets rest : List UInt8} {s : Scalar}
    (h : scanScalar c octets = (.scalar s, rest)) (hs : s.fault? = none) :
    ∃ t, s.Written t ∧ c :: octets = t ++ rest := by
  unfold scanScalar at h
  split at h
  · rename_i hc
    cases hscan : Spelling.scanFrom [] octets with
    | mk spelling after =>
      rw [Spelling.scan, hscan] at h
      cases h
      obtain ⟨ps, t, hps, rfl, rfl⟩ := Spelling.pieces_of_scanFrom hscan hs
      exact ⟨_, .string hps, by rw [hc]; simp⟩
  split at h
  · rename_i hc
    obtain ⟨rfl, rfl⟩ := word_of_scanWord h hs
    exact ⟨_, .null, by rw [hc]; rfl⟩
  split at h
  · rename_i hc
    obtain ⟨rfl, rfl⟩ := word_of_scanWord h hs
    exact ⟨_, .true, by rw [hc]; rfl⟩
  split at h
  · rename_i hc
    obtain ⟨rfl, rfl⟩ := word_of_scanWord h hs
    exact ⟨_, .false, by rw [hc]; rfl⟩
  split at h
  · unfold scanNumber at h
    split at h
    · rename_i n rest' hscan
      cases h
      obtain ⟨t, hn, hoctets⟩ := Numeral.written_of_scan hscan
      exact ⟨t, .number hn, hoctets⟩
    · cases h
      cases hs
  · cases h
    cases hs

theorem scanWord_isScalar (value : Scalar) (word octets : List UInt8) :
    ∃ s, (scanWord value word octets).1 = .scalar s := by
  fun_induction scanWord value word octets with
  | case1 octets => exact ⟨value, rfl⟩
  | case2 letter word => exact ⟨_, rfl⟩
  | case3 letter word octets ih => exact ih
  | case4 letter word c octets hc => exact ⟨_, rfl⟩

theorem scanScalar_isScalar (c : UInt8) (octets : List UInt8) : ∃ s, (scanScalar c octets).1 = .scalar s := by
  unfold scanScalar
  split
  · exact ⟨_, rfl⟩
  split
  · exact scanWord_isScalar _ _ _
  split
  · exact scanWord_isScalar _ _ _
  split
  · exact scanWord_isScalar _ _ _
  split
  · unfold scanNumber
    split
    · exact ⟨_, rfl⟩
    · exact ⟨_, rfl⟩
  · exact ⟨_, rfl⟩

/-! ## Tokens -/

/-- The character of a token that is one. -/
theorem eq_of_punctuation? {c : UInt8} {token : Token} (h : punctuation? c = some token) :
    (token = .openObject ∧ c = 123) ∨ (token = .closeObject ∧ c = 125) ∨ (token = .openArray ∧ c = 91) ∨
      (token = .closeArray ∧ c = 93) ∨ (token = .comma ∧ c = 44) ∨ (token = .colon ∧ c = 58) := by
  unfold punctuation? at h
  repeat' split at h
  all_goals simp_all

theorem Token.scan_scalar_written {s : Scalar} {t rest : List UInt8} (h : s.Written t)
    (hrest : EndsNumber rest) :
    ∃ c t', t = c :: t' ∧ isSpace c = false ∧ Token.scan c (t' ++ rest) = (.scalar s, rest) := by
  obtain ⟨c, t', rfl, hspace, hpunctuation, hscan⟩ := scanScalar_written h hrest
  refine ⟨c, t', rfl, hspace, ?_⟩
  unfold Token.scan
  rw [hpunctuation]
  exact hscan

/-- A scalar token is written where it was read, unless it has a fault. -/
theorem Token.written_of_scan {c : UInt8} {octets rest : List UInt8} {s : Scalar}
    (h : Token.scan c octets = (.scalar s, rest)) (hs : s.fault? = none) :
    ∃ t, s.Written t ∧ c :: octets = t ++ rest := by
  unfold Token.scan at h
  split at h
  · rename_i token hpunctuation
    cases h
    rcases eq_of_punctuation? hpunctuation with ⟨h, -⟩ | ⟨h, -⟩ | ⟨h, -⟩ | ⟨h, -⟩ | ⟨h, -⟩ | ⟨h, -⟩ <;> cases h
  · exact written_of_scanScalar h hs

/-- Any other token is one character. -/
theorem Token.eq_of_scan {c : UInt8} {octets rest : List UInt8} {token : Token}
    (h : Token.scan c octets = (token, rest)) (hs : ∀ s, token ≠ .scalar s) :
    punctuation? c = some token ∧ rest = octets := by
  unfold Token.scan at h
  split at h
  · rename_i hpunctuation
    cases h
    exact ⟨hpunctuation, rfl⟩
  · obtain ⟨s, hscalar⟩ := scanScalar_isScalar c octets
    rw [h] at hscalar
    exact absurd hscalar (hs s)

end CommentBot.Json
