import CommentBot.Text.Percent

/-!
# Escapes are resolved again

What is escaped is read back octet by octet (`percentDecode_percentOctet`), so by segments
(`percentDecode_percentEncode`) and by whole paths (`percentDecode_percentEncodePath`).

1. `Escaped`: what a path is written with.
2. `splitOn_percentEncodePath`: the slashes of the written path are those of the path, since no octet is written with a
   slash.
3. `segments_return` puts this together.
-/

namespace CommentBot.Text

/-! ## One octet -/

theorem utf8EncodeChar_ofNat {n : Nat} (h : n < 128) : String.utf8EncodeChar (Char.ofNat n) = [UInt8.ofNat n] := by
  have hall : ∀ n < 128, String.utf8EncodeChar (Char.ofNat n) = [UInt8.ofNat n] := by decide
  exact hall n h

/-- An octet that is no percent sign stands for itself. -/
theorem percentDecode_cons {v : UInt8} (h : v ≠ 37) (rest : List UInt8) :
    percentDecode (v :: rest) = v :: percentDecode rest := by
  match rest with
  | [] => rfl
  | [_] => rfl
  | b :: c :: rest =>
    rw [percentDecode, if_neg h]

theorem percentDecode_escape {v w high low : UInt8} (hv : hexValue? v = some high) (hw : hexValue? w = some low)
    (rest : List UInt8) : percentDecode (37 :: v :: w :: rest) = (16 * high + low) :: percentDecode rest := by
  rw [percentDecode, if_pos rfl, hv, hw]

theorem of_isUnreserved {v : UInt8} (h : isUnreserved v = true) : v.toNat < 128 ∧ v ≠ 37 := by
  have hall : ∀ n < 256, isUnreserved (UInt8.ofNat n) = true → n < 128 ∧ UInt8.ofNat n ≠ 37 := by decide +kernel
  have hv := hall v.toNat v.toNat_lt
  rw [UInt8.ofNat_toNat] at hv
  exact hv h

theorem upperHexDigit_octets {n : Nat} (h : n < 16) : ∃ v, String.utf8EncodeChar (upperHexDigit n) = [v] ∧
    hexValue? v = some (UInt8.ofNat n) := by
  have hall : ∀ n < 16, String.utf8EncodeChar (upperHexDigit n) = [UInt8.ofNat (upperHexDigit n).toNat] ∧
      hexValue? (UInt8.ofNat (upperHexDigit n).toNat) = some (UInt8.ofNat n) := by decide
  exact ⟨_, hall n h⟩

/-- An octet is read back from its escape. -/
theorem percentDecode_percentOctet (v : UInt8) (rest : List UInt8) :
    percentDecode ((percentOctet v).flatMap String.utf8EncodeChar ++ rest) = v :: percentDecode rest := by
  unfold percentOctet
  split
  · next hunreserved =>
    obtain ⟨hascii, hpercent⟩ := of_isUnreserved hunreserved
    rw [List.flatMap_singleton, utf8EncodeChar_ofNat hascii, UInt8.ofNat_toNat]
    exact percentDecode_cons hpercent rest
  · have hlt := v.toNat_lt
    obtain ⟨a, ha, hhigh⟩ := upperHexDigit_octets (n := v.toNat / 16) (by omega)
    obtain ⟨b, hb, hlow⟩ := upperHexDigit_octets (n := v.toNat % 16) (by omega)
    have hpercent : String.utf8EncodeChar '%' = [37] := by decide
    have hvalue : 16 * UInt8.ofNat (v.toNat / 16) + UInt8.ofNat (v.toNat % 16) = v := by
      calc 16 * UInt8.ofNat (v.toNat / 16) + UInt8.ofNat (v.toNat % 16)
          = UInt8.ofNat (16 * (v.toNat / 16) + v.toNat % 16) := by rw [UInt8.ofNat_add, UInt8.ofNat_mul]; rfl
        _ = v := by rw [Nat.div_add_mod, UInt8.ofNat_toNat]
    simp only [List.flatMap_cons, List.flatMap_nil, hpercent, ha, hb]
    exact (percentDecode_escape hhigh hlow rest).trans (by rw [hvalue])

/-! ## Segments and paths -/

/-- A segment is read back, whatever comes behind it. -/
theorem percentDecode_percentEncode (segment : List Char) (rest : List UInt8) :
    percentDecode ((percentEncode segment).flatMap String.utf8EncodeChar ++ rest) =
      segment.flatMap String.utf8EncodeChar ++ percentDecode rest := by
  unfold percentEncode
  induction segment.flatMap String.utf8EncodeChar with
  | nil => rfl
  | cons v octets ih =>
    rw [List.flatMap_cons, List.flatMap_append, List.append_assoc, percentDecode_percentOctet, ih]
    rfl

theorem percentDecode_intercalate (segments : List (List Char)) :
    percentDecode ((['/'].intercalate (segments.map percentEncode)).flatMap String.utf8EncodeChar) =
      (['/'].intercalate segments).flatMap String.utf8EncodeChar := by
  induction segments with
  | nil => rfl
  | cons s segments ih =>
    cases segments with
    | nil =>
      have hread := percentDecode_percentEncode s []
      simpa [List.intercalate, percentDecode] using hread
    | cons t segments =>
      have hslash : String.utf8EncodeChar '/' = [47] := by decide
      rw [List.map_cons] at ih
      rw [List.map_cons, List.map_cons, List.intercalate_cons_cons, List.intercalate_cons_cons]
      simp only [List.flatMap_append, List.flatMap_singleton, hslash, List.append_assoc]
      rw [percentDecode_percentEncode, List.singleton_append, percentDecode_cons (by decide), ih]
      rfl

/-- A path is read back. -/
theorem percentDecode_percentEncodePath (path : String) :
    percentDecode ((percentEncodePath path).toList.flatMap String.utf8EncodeChar) = utf8 path := by
  rw [percentEncodePath, String.toList_ofList, percentDecode_intercalate, List.intercalate_splitOn]
  rfl

theorem percentEncodePath_injective : Function.Injective percentEncodePath := by
  intro path other h
  have hread : utf8 path = utf8 other := by
    rw [← percentDecode_percentEncodePath, h, percentDecode_percentEncodePath]
  have htext := ofUtf8?_utf8 path
  rw [hread, ofUtf8?_utf8] at htext
  exact (Option.some.inj htext).symm

/-! ## What is written -/

/-- The digits of escapes. -/
def escapeDigits : List Char := "0123456789ABCDEF".toList

/-- Texts of letters, digits, four marks, slashes, and escapes of two digits each. -/
inductive Escaped : List Char → Prop
  | nil : Escaped []
  | plain {c rest} (hc : c.isAlphanum = true ∨ c ∈ ['-', '.', '_', '~', '/']) (h : Escaped rest) : Escaped (c :: rest)
  | escape {high low rest} (hhigh : high ∈ escapeDigits) (hlow : low ∈ escapeDigits) (h : Escaped rest) :
      Escaped ('%' :: high :: low :: rest)

theorem upperHexDigit_mem {n : Nat} (h : n < 16) : upperHexDigit n ∈ escapeDigits := by
  have hall : ∀ n < 16, upperHexDigit n ∈ escapeDigits := by decide
  exact hall n h

theorem isUnreserved_iff {v : UInt8} : isUnreserved v = true ↔
    (Char.ofNat v.toNat).isAlphanum = true ∨ Char.ofNat v.toNat ∈ ['-', '.', '_', '~'] := by
  simp [isUnreserved, or_assoc]

theorem escaped_percentOctet (v : UInt8) {rest : List Char} (h : Escaped rest) : Escaped (percentOctet v ++ rest) := by
  have hlt := v.toNat_lt
  unfold percentOctet
  split
  · next hunreserved =>
    refine .plain ((isUnreserved_iff.1 hunreserved).imp_right fun hmark => ?_) h
    exact List.mem_append_left ['/'] hmark
  · exact .escape (upperHexDigit_mem (by omega)) (upperHexDigit_mem (by omega)) h

theorem escaped_percentEncode (segment : List Char) {rest : List Char} (h : Escaped rest) :
    Escaped (percentEncode segment ++ rest) := by
  unfold percentEncode
  induction segment.flatMap String.utf8EncodeChar with
  | nil => exact h
  | cons v octets ih =>
    rw [List.flatMap_cons, List.append_assoc]
    exact escaped_percentOctet v ih

theorem escaped_intercalate (segments : List (List Char)) :
    Escaped (['/'].intercalate (segments.map percentEncode)) := by
  induction segments with
  | nil => exact .nil
  | cons s segments ih =>
    cases segments with
    | nil =>
      have hsegment := escaped_percentEncode s .nil
      simpa [List.intercalate] using hsegment
    | cons t segments =>
      rw [List.map_cons] at ih
      rw [List.map_cons, List.map_cons, List.intercalate_cons_cons, List.append_assoc]
      exact escaped_percentEncode s (.plain (.inr (by decide)) ih)

/-- A path is written with letters, digits, marks, slashes and whole escapes. -/
theorem escaped_percentEncodePath (path : String) : Escaped (percentEncodePath path).toList := by
  rw [percentEncodePath, String.toList_ofList]
  exact escaped_intercalate (path.toList.splitOn '/')

/-! ## Segments of what is written -/

theorem slash_not_mem_percentOctet (v : UInt8) : '/' ∉ percentOctet v := by
  have hall : ∀ n < 256, '/' ∉ percentOctet (UInt8.ofNat n) := by decide +kernel
  have hv := hall v.toNat v.toNat_lt
  rwa [UInt8.ofNat_toNat] at hv

theorem slash_not_mem_percentEncode (segment : List Char) : '/' ∉ percentEncode segment := by
  intro h
  obtain ⟨v, -, hv⟩ := List.mem_flatMap.1 h
  exact slash_not_mem_percentOctet v hv

/-- The segments of a written path are the segments of the path, each of them written. -/
theorem splitOn_percentEncodePath (path : String) :
    (percentEncodePath path).toList.splitOn '/' = (path.toList.splitOn '/').map percentEncode := by
  rw [percentEncodePath, String.toList_ofList]
  refine List.splitOn_intercalate '/' ?_ (mt List.map_eq_nil_iff.1 (List.splitOn_ne_nil _ _))
  rw [List.forall_mem_map]
  exact fun segment _ => slash_not_mem_percentEncode segment

/-- A written segment is read as UTF-8 once its escapes are resolved. -/
theorem ofUtf8?_percentEncode (segment : List Char) :
    ofUtf8? (percentDecode (utf8 (String.ofList (percentEncode segment)))) = some (String.ofList segment) := by
  have hread := percentDecode_percentEncode segment []
  rw [percentDecode, List.append_nil, List.append_nil] at hread
  rw [ofUtf8?_eq_some_iff, utf8, utf8, String.toList_ofList, String.toList_ofList, hread]

/-- **Segments of a path return.** The written path has as many segments as the path, each of them is read as the
segment of the path in its place, and nothing but letters, digits, four marks, slashes and whole escapes is written. No
two paths are written alike. -/
theorem segments_return :
    (∀ path : String,
      ((percentEncodePath path).toList.splitOn '/').length = (path.toList.splitOn '/').length ∧
      ((percentEncodePath path).toList.splitOn '/').map
          (fun written => ofUtf8? (percentDecode (utf8 (String.ofList written)))) =
        (path.toList.splitOn '/').map (fun segment => some (String.ofList segment)) ∧
      Escaped (percentEncodePath path).toList) ∧
    Function.Injective percentEncodePath := by
  refine ⟨fun path => ⟨?_, ?_, escaped_percentEncodePath path⟩, percentEncodePath_injective⟩
  · rw [splitOn_percentEncodePath, List.length_map]
  · rw [splitOn_percentEncodePath, List.map_map]
    refine List.map_congr_left fun segment _ => ?_
    rw [Function.comp_apply, ofUtf8?_percentEncode]

example : percentEncodePath "/a%2Fb//ü" = "/a%252Fb//%C3%BC" := by decide

end CommentBot.Text
