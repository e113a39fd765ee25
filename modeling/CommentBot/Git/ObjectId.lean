import CommentBot.Text.Quoted

/-!
# Object ids

Git names an object by a hash, written as forty hexadecimal digits. An id is kept in small letters, so ids
are equal if they name the same object. Main statement: `parse_text`, an id is read back from its text.
-/

namespace CommentBot.Git

/-- Whether the character is a decimal digit or one of `a` to `f`. -/
def isLowerHexDigit (c : Char) : Bool := c.isDigit || ('a' ≤ c && c ≤ 'f')

/-- Whether the character is a hexadecimal digit. -/
def isHexDigit (c : Char) : Bool := isLowerHexDigit c || ('A' ≤ c && c ≤ 'F')

/-- Whether the digits write an id in small letters. -/
def isCanonical (digits : List Char) : Bool := digits.length = 40 && digits.all isLowerHexDigit

/-- The name of an object. -/
structure ObjectId where
  text : String
  canonical : isCanonical text.toList = true
  deriving DecidableEq, Repr

/-- A text that names no object. -/
structure InvalidObjectId where
  text : String
  deriving DecidableEq, Repr

/-- The words for the error. -/
def InvalidObjectId.message (e : InvalidObjectId) : String :=
  "invalid SHA " ++ Text.quote e.text ++ ": expected 40 hex characters"

theorem toNat_lt_of_isHexDigit {c : Char} (h : isHexDigit c = true) : c.toNat < 128 := by
  simp only [isHexDigit, isLowerHexDigit, Char.isDigit, Bool.or_eq_true, Bool.and_eq_true,
    decide_eq_true_eq, Char.le_def, UInt32.le_iff_toNat_le] at h
  have : c.toNat = c.val.toNat := rfl
  simp at h
  omega

theorem isLowerHexDigit_toLower {c : Char} (h : isHexDigit c = true) : isLowerHexDigit c.toLower = true := by
  have hlt := toNat_lt_of_isHexDigit h
  revert h
  exact Text.of_forall_ofNat hlt (by decide)

theorem toLower_of_isLowerHexDigit {c : Char} (h : isLowerHexDigit c = true) : c.toLower = c := by
  have hlt : c.toNat < 128 := toNat_lt_of_isHexDigit (by simp [isHexDigit, h])
  revert h
  exact Text.of_forall_ofNat hlt (by decide)

theorem isCanonical_map_toLower {digits : List Char} (hl : digits.length = 40)
    (h : digits.all isHexDigit = true) : isCanonical (digits.map Char.toLower) = true := by
  simp only [isCanonical, List.length_map, hl, decide_true, List.all_map, Bool.true_and]
  rw [List.all_eq_true] at h ⊢
  exact fun c hc => isLowerHexDigit_toLower (h c hc)

namespace ObjectId

/-- Reads an id in letters of either size. -/
def parse (text : String) : Except InvalidObjectId ObjectId :=
  if h : text.toList.length = 40 ∧ text.toList.all isHexDigit = true then
    .ok ⟨String.ofList (text.toList.map Char.toLower), by
      rw [String.toList_ofList]; exact isCanonical_map_toLower h.1 h.2⟩
  else .error ⟨text⟩

/-- An id is read back from its text. -/
theorem parse_text (id : ObjectId) : parse id.text = .ok id := by
  obtain ⟨text, h⟩ := id
  have h' := h
  simp only [isCanonical, Bool.and_eq_true, decide_eq_true_eq, List.all_eq_true] at h'
  have hex : text.toList.all isHexDigit = true := by
    simp only [List.all_eq_true, isHexDigit, Bool.or_eq_true]
    exact fun c hc => .inl (h'.2 c hc)
  have lower : text.toList.map Char.toLower = text.toList :=
    (List.map_congr_left fun c hc => toLower_of_isLowerHexDigit (h'.2 c hc)).trans (List.map_id _)
  simp only [parse, h'.1, hex, and_self, dite_true, lower, String.ofList_toList]

/-- The first seven digits, enough for a reader. -/
def short (id : ObjectId) : String := String.ofList (id.text.toList.take 7)

/-- The last `width` hexadecimal digits of a number. -/
def lastDigits : Nat → Nat → List Char
  | 0, _ => []
  | width + 1, n => lastDigits width (n / 16) ++ [Nat.digitChar (n % 16)]

theorem length_lastDigits (width n : Nat) : (lastDigits width n).length = width := by
  induction width generalizing n with
  | zero => rfl
  | succ width ih => simp [lastDigits, ih]

theorem all_lastDigits (width n : Nat) : (lastDigits width n).all isLowerHexDigit = true := by
  have digit : ∀ d < 16, isLowerHexDigit (Nat.digitChar d) = true := by decide
  induction width generalizing n with
  | zero => rfl
  | succ width ih => simp [lastDigits, ih, digit _ (Nat.mod_lt n (by decide))]

/-- The id that writes a number with leading zeros. -/
def ofNat (n : Nat) : ObjectId :=
  ⟨String.ofList (lastDigits 40 n), by
    rw [String.toList_ofList, isCanonical, length_lastDigits, all_lastDigits]; rfl⟩

theorem text_ofNat (n : Nat) : (ofNat n).text = String.ofList (lastDigits 40 n) := rfl

end ObjectId

end CommentBot.Git
