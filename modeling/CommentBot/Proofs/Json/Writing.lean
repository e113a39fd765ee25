import CommentBot.Json.Value
import CommentBot.Proofs.Json.Shapes
import CommentBot.Proofs.Json.Parsing

/-!
# What is written is JSON

A value without doubles is written as the text of one tree, `Value.node`. Each character of a string becomes the
pieces that `charPieces` says, each natural number its digits.

1. `spells_spelling`: what is written for a string spells it.
2. `written_node`: the text of a value is a text of its tree.
3. `parse_text`: so the text is read as that tree, and nothing is left over.
-/

namespace CommentBot

/-! ## Octets of characters -/

namespace Text

theorem utf8_append (a b : String) : utf8 (a ++ b) = utf8 a ++ utf8 b := by
  unfold utf8
  rw [String.toList_append, List.flatMap_append]

theorem utf8_ofList (cs : List Char) : utf8 (String.ofList cs) = cs.flatMap String.utf8EncodeChar := by
  unfold utf8
  rw [String.toList_ofList]

/-- A character of ASCII is one octet, and all octets of other characters are beyond ASCII. -/
theorem utf8EncodeChar_ascii (c : Char) : (c.toNat < 128 ∧ String.utf8EncodeChar c = [UInt8.ofNat c.toNat]) ∨
    ∀ v ∈ String.utf8EncodeChar c, 128 ≤ v.toNat := by
  have hc : c.toNat = c.val.toNat := rfl
  unfold String.utf8EncodeChar
  dsimp only
  rw [← hc]
  by_cases hone : c.toNat ≤ 127
  · rw [if_pos hone]
    exact .inl ⟨by omega, rfl⟩
  · rw [if_neg hone]
    refine .inr fun v hv => ?_
    split at hv
    · simp only [List.mem_cons, List.not_mem_nil, or_false] at hv
      rcases hv with rfl | rfl <;> rw [UInt8.toNat_ofNat'] <;> omega
    split at hv
    · simp only [List.mem_cons, List.not_mem_nil, or_false] at hv
      rcases hv with rfl | rfl | rfl <;> rw [UInt8.toNat_ofNat'] <;> omega
    · simp only [List.mem_cons, List.not_mem_nil, or_false] at hv
      rcases hv with rfl | rfl | rfl | rfl <;> rw [UInt8.toNat_ofNat'] <;> omega

end Text

namespace Json

/-! ## Strings -/

/-- The control characters for which a letter stands. -/
def letteredControls : List Char := ['\n', '\r', '\t', '\x08', '\x0c']

/-- The pieces of which one character of a string is written. -/
def charPieces (c : Char) : List Piece :=
  if c.toNat < 32 ∧ c ∉ letteredControls then [.unit c.toNat] else (String.utf8EncodeChar c).map .octet

/-- The string as it is written. -/
def spelling (s : String) : Spelling := ⟨s.toList.flatMap charPieces, none⟩

theorem Joins.octets {ps : List Piece} {o : List UInt8} (h : Joins ps o) (vs : List UInt8) :
    Joins (vs.map .octet ++ ps) (vs ++ o) := by
  induction vs with
  | nil => exact h
  | cons v vs ih => exact .octet ih

theorem joins_charPieces (c : Char) {ps : List Piece} {o : List UInt8} (h : Joins ps o) :
    Joins (charPieces c ++ ps) (String.utf8EncodeChar c ++ o) := by
  unfold charPieces
  split
  · rename_i hcontrol
    -- control characters are no surrogates, so the unit stands for the character alone
    have hcloses : ¬ closesPair c.toNat = true := by
      simp only [closesPair, Bool.and_eq_true, decide_eq_true_eq]
      omega
    have hopens : ¬ opensPair c.toNat = true := by
      simp only [opensPair, Bool.and_eq_true, decide_eq_true_eq]
      omega
    have hunit := Joins.unit hcloses hopens h
    rwa [Char.ofNat_toNat] at hunit
  · exact h.octets _

/-- What is written for a string spells it. -/
theorem spells_spelling (s : String) : (spelling s).Spells s := by
  refine ⟨rfl, ?_⟩
  show Joins (s.toList.flatMap charPieces) (s.toList.flatMap String.utf8EncodeChar)
  induction s.toList with
  | nil => exact .nil
  | cons c cs ih => exact joins_charPieces c ih

/-- Octets beyond ASCII, and those of ASCII that are neither control characters nor marks of strings, stand for
themselves. -/
theorem PiecesWritten.octets {ps : List Piece} {t : List UInt8} (h : PiecesWritten ps t) {vs : List UInt8}
    (hvs : ∀ v ∈ vs, ¬ v < 32 ∧ v ≠ 34 ∧ v ≠ 92) : PiecesWritten (vs.map .octet ++ ps) (vs ++ t) := by
  induction vs with
  | nil => exact h
  | cons v vs ih =>
    obtain ⟨⟨hcontrol, hquote, hbackslash⟩, hrest⟩ := List.forall_mem_cons.1 hvs
    exact .plain hcontrol hquote hbackslash (ih hrest)

theorem plain_of_not_escaped {c : Char} (hcontrol : ¬ c.toNat < 32) (hquote : c ≠ '"') (hbackslash : c ≠ '\\') :
    ∀ v ∈ String.utf8EncodeChar c, ¬ v < 32 ∧ v ≠ 34 ∧ v ≠ 92 := by
  have hquote' : c.toNat ≠ 34 := fun h => hquote (by rw [← Char.ofNat_toNat c, h])
  have hbackslash' : c.toNat ≠ 92 := fun h => hbackslash (by rw [← Char.ofNat_toNat c, h])
  have hplain : ∀ v : UInt8, 32 ≤ v.toNat → v.toNat ≠ 34 → v.toNat ≠ 92 → ¬ v < 32 ∧ v ≠ 34 ∧ v ≠ 92 := by
    intro v hv hv' hv''
    refine ⟨fun h => ?_, fun h => hv' (by rw [h]; rfl), fun h => hv'' (by rw [h]; rfl)⟩
    have hlt : v.toNat < 32 := h
    omega
  intro v hv
  rcases Text.utf8EncodeChar_ascii c with ⟨hlt, hone⟩ | hbeyond
  · rw [hone, List.mem_singleton] at hv
    have hvalue : v.toNat = c.toNat := by
      rw [hv, UInt8.toNat_ofNat']
      omega
    exact hplain v (by omega) (by omega) (by omega)
  · have := hbeyond v hv
    exact hplain v (by omega) (by omega) (by omega)

/-- The four digits that are written for a control character. -/
theorem unit?_digits {n : Nat} (h : n < 32) : unit? 48 48 (UInt8.ofNat (Nat.digitChar (n / 16)).toNat)
    (UInt8.ofNat (Nat.digitChar (n % 16)).toNat) = some n := by
  have hall : ∀ n < 32, unit? 48 48 (UInt8.ofNat (Nat.digitChar (n / 16)).toNat)
    (UInt8.ofNat (Nat.digitChar (n % 16)).toNat) = some n := by decide
  exact hall n h

theorem utf8EncodeChar_digitChar {n : Nat} (h : n < 16) :
    String.utf8EncodeChar (Nat.digitChar n) = [UInt8.ofNat (Nat.digitChar n).toNat] := by
  have hall : ∀ n < 16, String.utf8EncodeChar (Nat.digitChar n) = [UInt8.ofNat (Nat.digitChar n).toNat] := by decide
  exact hall n h

theorem written_charText (c : Char) {ps : List Piece} {t : List UInt8} (h : PiecesWritten ps t) :
    PiecesWritten (charPieces c ++ ps) ((Value.charText c).flatMap String.utf8EncodeChar ++ t) := by
  unfold Value.charText
  split
  · subst c
    exact @PiecesWritten.escape 34 _ ps t rfl h
  rename_i hquote
  split
  · subst c
    exact @PiecesWritten.escape 92 _ ps t rfl h
  rename_i hbackslash
  split
  · subst c
    exact @PiecesWritten.escape 110 _ ps t rfl h
  rename_i hn
  split
  · subst c
    exact @PiecesWritten.escape 114 _ ps t rfl h
  rename_i hr
  split
  · subst c
    exact @PiecesWritten.escape 116 _ ps t rfl h
  rename_i ht
  split
  · subst c
    exact @PiecesWritten.escape 98 _ ps t rfl h
  rename_i hb
  split
  · subst c
    exact @PiecesWritten.escape 102 _ ps t rfl h
  rename_i hf
  split
  · rename_i hcontrol
    have hpieces : charPieces c = [.unit c.toNat] := if_pos ⟨hcontrol, by simp [letteredControls, *]⟩
    have hoctets : (['\\', 'u', '0', '0', Nat.digitChar (c.toNat / 16), Nat.digitChar (c.toNat % 16)]).flatMap
        String.utf8EncodeChar = [92, 117, 48, 48, UInt8.ofNat (Nat.digitChar (c.toNat / 16)).toNat,
          UInt8.ofNat (Nat.digitChar (c.toNat % 16)).toNat] := by
      simp only [List.flatMap_cons, List.flatMap_nil, utf8EncodeChar_digitChar (n := c.toNat / 16) (by omega),
        utf8EncodeChar_digitChar (n := c.toNat % 16) (by omega)]
      rfl
    rw [hpieces, hoctets]
    exact .unit (unit?_digits hcontrol) h
  · rename_i hcontrol
    have hpieces : charPieces c = (String.utf8EncodeChar c).map .octet := if_neg fun hc => hcontrol hc.1
    rw [hpieces, List.flatMap_singleton]
    exact h.octets (plain_of_not_escaped hcontrol hquote hbackslash)

/-- The pieces of a string stand between its quotation marks. -/
theorem written_stringText (s : String) : ∃ t, PiecesWritten (spelling s).pieces t ∧
    Text.utf8 (Value.stringText s) = 34 :: (t ++ [34]) := by
  have hpieces : ∀ cs : List Char, PiecesWritten (cs.flatMap charPieces)
      ((cs.flatMap Value.charText).flatMap String.utf8EncodeChar) := by
    intro cs
    induction cs with
    | nil => exact .nil
    | cons c cs ih =>
      rw [List.flatMap_cons, List.flatMap_cons, List.flatMap_append]
      exact written_charText c ih
  refine ⟨_, hpieces s.toList, ?_⟩
  rw [Value.stringText, Text.utf8_ofList, List.flatMap_append, List.flatMap_cons]
  rfl

/-! ## Natural numbers -/

/-- The decimal digits of a number. -/
def decimals (n : Nat) : List Nat := (Nat.toDigits 10 n).map fun c => c.toNat - 48

theorem toNat_digitChar_sub {n : Nat} (h : n < 10) : (Nat.digitChar n).toNat - 48 = n := by
  have hall : ∀ n < 10, (Nat.digitChar n).toNat - 48 = n := by decide
  exact hall n h

theorem decimals_of_lt {n : Nat} (h : n < 10) : decimals n = [n] := by
  rw [decimals, Nat.toDigits_of_lt_base h, List.map_singleton, toNat_digitChar_sub h]

theorem decimals_of_le {n : Nat} (h : 10 ≤ n) : decimals n = decimals (n / 10) ++ [n % 10] := by
  unfold decimals
  rw [Nat.toDigits_eq_if (by decide), if_neg (by omega), List.map_append, List.map_singleton,
    toNat_digitChar_sub (Nat.mod_lt n (by decide))]

theorem decimals_lt (n : Nat) : ∀ d ∈ decimals n, d < 10 := by
  induction n using Nat.strongRecOn with
  | ind n ih =>
    by_cases h : n < 10
    · rw [decimals_of_lt h]
      simpa using h
    · rw [decimals_of_le (by omega), List.forall_mem_append]
      exact ⟨ih (n / 10) (by omega), by simpa using Nat.mod_lt n (by decide)⟩

/-- The first digit of a number is zero for zero alone. -/
theorem head?_decimals {n : Nat} (hn : 0 < n) : ∃ d, (decimals n).head? = some d ∧ d ≠ 0 := by
  induction n using Nat.strongRecOn with
  | ind n ih =>
    by_cases h : n < 10
    · rw [decimals_of_lt h]
      exact ⟨n, rfl, by omega⟩
    · obtain ⟨d, hd, hne⟩ := ih (n / 10) (by omega) (by omega)
      rw [decimals_of_le (by omega), List.head?_append, hd]
      exact ⟨d, rfl, hne⟩

theorem areWhole_decimals (n : Nat) : AreWhole (decimals n) := by
  by_cases hn : n = 0
  · subst hn
    rw [decimals_of_lt (by decide)]
    exact ⟨⟨by simp, by simp⟩, fun _ => rfl⟩
  · obtain ⟨d, hd, hne⟩ := head?_decimals (Nat.pos_of_ne_zero hn)
    refine ⟨⟨fun hnil => ?_, decimals_lt n⟩, fun hzero => ?_⟩
    · rw [hnil] at hd
      cases hd
    · rw [hd] at hzero
      exact absurd (Option.some.inj hzero) hne

/-- The digits of a number write it. -/
theorem ofDigits_decimals (n : Nat) : ofDigits (decimals n) = n := by
  induction n using Nat.strongRecOn with
  | ind n ih =>
    by_cases h : n < 10
    · rw [decimals_of_lt h]
      show 10 * 0 + n = n
      omega
    · rw [decimals_of_le (by omega), ofDigits, List.foldl_append]
      show 10 * ofDigits (decimals (n / 10)) + n % 10 = n
      rw [ih (n / 10) (by omega)]
      omega

theorem utf8_toDigits (n : Nat) : (Nat.toDigits 10 n).flatMap String.utf8EncodeChar = digitOctets (decimals n) := by
  induction n using Nat.strongRecOn with
  | ind n ih =>
    have hdigit : ∀ d < 10, String.utf8EncodeChar (Nat.digitChar d) = [UInt8.ofNat (48 + d)] := by decide
    by_cases h : n < 10
    · rw [decimals_of_lt h, Nat.toDigits_of_lt_base h, List.flatMap_singleton, hdigit n h]
      rfl
    · rw [decimals_of_le (by omega), Nat.toDigits_eq_if (by decide), if_neg (by omega), List.flatMap_append,
        ih (n / 10) (by omega), List.flatMap_singleton, hdigit _ (Nat.mod_lt n (by decide)), digitOctets, digitOctets,
        List.map_append]
      rfl

theorem written_decimals (n : Nat) : Numeral.Written ⟨false, decimals n, [], none⟩ (Text.utf8 (toString n)) := by
  have hwritten := @Numeral.Written.parts false _ _ _ _ _ (areWhole_decimals n) .absent .absent
  have hoctets : Text.utf8 (toString n) = digitOctets (decimals n) := by
    show Text.utf8 (Nat.repr n) = _
    rw [Nat.repr_eq_ofList_toDigits, Text.utf8_ofList, utf8_toDigits]
  rw [hoctets]
  simpa [minusSign] using hwritten

/-! ## Values -/

mutual

/-- The tree of the text of a value. Numbers other than natural ones are not looked at. -/
def Value.node : Value → Node
  | .null => .scalar .null
  | .bool b => .scalar (.bool b)
  | .number (.integer (.ofNat n)) => .scalar (.number ⟨false, decimals n, [], none⟩)
  | .number _ => .scalar .missing
  | .string s => .scalar (.string (spelling s))
  | .array items => .array (itemNodes items) none
  | .object members => .object (memberNodes members) none

/-- The trees of the items of an array. -/
def Value.itemNodes : List Value → List Node
  | [] => []
  | item :: items => item.node :: itemNodes items

/-- The members of an object, with the trees of their values. -/
def Value.memberNodes : List (String × Value) → List (Key × Node)
  | [] => []
  | (key, value) :: members => (.scalar (.string (spelling key)), value.node) :: memberNodes members

end

/-- All numbers in the value are natural ones below `2 ^ 64`, and at most `depth` brackets stand inside one
another. -/
inductive Value.Plain : Nat → Value → Prop
  | null {depth : Nat} : Plain depth .null
  | bool {depth : Nat} (b : Bool) : Plain depth (.bool b)
  | nat {depth n : Nat} (h : n < UInt64.size) : Plain depth (.nat n)
  | string {depth : Nat} (s : String) : Plain depth (.string s)
  | array {depth : Nat} {items : List Value} (h : ∀ v ∈ items, Plain depth v) : Plain (depth + 1) (.array items)
  | object {depth : Nat} {members : List (String × Value)} (h : ∀ m ∈ members, Plain depth m.2) :
      Plain (depth + 1) (.object members)

theorem Value.itemNodes_eq_map (items : List Value) : itemNodes items = items.map node := by
  induction items with
  | nil => rw [itemNodes, List.map_nil]
  | cons v items ih => rw [itemNodes, ih, List.map_cons]

theorem Value.memberNodes_eq_map (members : List (String × Value)) : memberNodes members =
    members.map fun m => (.scalar (.string (spelling m.1)), m.2.node) := by
  induction members with
  | nil => rw [memberNodes, List.map_nil]
  | cons m members ih => rw [memberNodes, ih, List.map_cons]

theorem named_spelling (name : String) : Named name (.scalar (.string (spelling name))) :=
  ⟨_, rfl, spells_spelling name⟩

/-- Values of which the trees may take at most `depth` brackets may take more. -/
theorem Value.Plain.mono {depth depth' : Nat} {v : Value} (h : v.Plain depth) (hle : depth ≤ depth') :
    v.Plain depth' := by
  induction h generalizing depth' with
  | null => exact .null
  | bool b => exact .bool b
  | nat h => exact .nat h
  | string s => exact .string s
  | array h ih =>
    obtain ⟨k, rfl⟩ := Nat.exists_eq_add_of_le hle
    rw [Nat.add_right_comm]
    exact .array fun v hv => ih v hv (Nat.le_add_right _ _)
  | object h ih =>
    obtain ⟨k, rfl⟩ := Nat.exists_eq_add_of_le hle
    rw [Nat.add_right_comm]
    exact .object fun m hm => ih m hm (Nat.le_add_right _ _)

/-! ### Texts -/

theorem blank_nil : Blank [] := by nofun

theorem Phrase.Written.unpadded {n : Node} {t : List UInt8} (h : Phrase.Written (.value n) t) :
    Phrase.Written (.padded n) t := by
  have hpadded := Phrase.Written.padded blank_nil h blank_nil
  rwa [List.nil_append, List.append_nil] at hpadded

theorem utf8_commas (first second : String) (rest : List String) :
    Text.utf8 (",".intercalate (first :: second :: rest)) =
      Text.utf8 first ++ 44 :: Text.utf8 (",".intercalate (second :: rest)) := by
  rw [String.intercalate_cons_cons, Text.utf8_append, Text.utf8_append, List.append_assoc]
  rfl

theorem utf8_member (name value : String) :
    Text.utf8 (name ++ ":" ++ value) = Text.utf8 name ++ 58 :: Text.utf8 value := by
  rw [Text.utf8_append, Text.utf8_append, List.append_assoc]
  rfl

theorem utf8_brackets (before text after : String) :
    Text.utf8 (before ++ text ++ after) = Text.utf8 before ++ (Text.utf8 text ++ Text.utf8 after) := by
  rw [Text.utf8_append, Text.utf8_append, List.append_assoc]

/-- Items, with commas between their texts. -/
theorem written_items {v : Value} {vs : List Value}
    (h : ∀ w ∈ v :: vs, Phrase.Written (.value w.node) (Text.utf8 w.text)) :
    Phrase.Written (.items (Value.itemNodes (v :: vs))) (Text.utf8 (",".intercalate (Value.itemTexts (v :: vs)))) := by
  induction vs generalizing v with
  | nil => exact .lastItem (h v List.mem_cons_self).unpadded
  | cons w vs ih =>
    obtain ⟨hfirst, hrest⟩ := List.forall_mem_cons.1 h
    have hmore := ih hrest
    rw [Value.itemTexts] at hmore ⊢
    rw [Value.itemTexts, utf8_commas]
    exact .item hfirst.unpadded hmore

theorem written_key (name : String) :
    KeyWritten (.scalar (.string (spelling name))) (Text.utf8 (Value.stringText name)) := by
  obtain ⟨t, ht, htext⟩ := written_stringText name
  have hwritten := KeyWritten.string blank_nil ht blank_nil
  rwa [List.nil_append, ← htext] at hwritten

/-- Members, with commas between their texts. -/
theorem written_members {m : String × Value} {ms : List (String × Value)}
    (h : ∀ m' ∈ m :: ms, Phrase.Written (.value m'.2.node) (Text.utf8 m'.2.text)) :
    Phrase.Written (.members (Value.memberNodes (m :: ms)))
      (Text.utf8 (",".intercalate (Value.memberTexts (m :: ms)))) := by
  induction ms generalizing m with
  | nil =>
    have hlast := Phrase.Written.lastMember (written_key m.1) (h m List.mem_cons_self).unpadded
    rw [← utf8_member] at hlast
    exact hlast
  | cons m' ms ih =>
    obtain ⟨hfirst, hrest⟩ := List.forall_mem_cons.1 h
    have hmember := Phrase.Written.member (written_key m.1) hfirst.unpadded (ih hrest)
    rw [Value.memberTexts] at hmember ⊢
    rw [Value.memberTexts, utf8_commas, utf8_member, List.append_assoc, List.cons_append]
    exact hmember

/-- The text of a value is a text of its tree. -/
theorem written_node {depth : Nat} {v : Value} (h : v.Plain depth) :
    Phrase.Written (.value v.node) (Text.utf8 v.text) := by
  induction h with
  | null => exact .scalar .null
  | bool b =>
    cases b with
    | true => exact .scalar .true
    | false => exact .scalar .false
  | nat h => exact .scalar (.number (written_decimals _))
  | string s =>
    obtain ⟨t, ht, htext⟩ := written_stringText s
    rw [Value.text, htext]
    exact .scalar (.string ht)
  | @array _ items h ih =>
    rw [Value.text, utf8_brackets]
    cases items with
    | nil => exact .emptyArray blank_nil
    | cons v vs => exact .array (written_items ih)
  | @object _ members h ih =>
    rw [Value.text, utf8_brackets]
    cases members with
    | nil => exact .emptyObject blank_nil
    | cons m ms => exact .object (written_members ih)

/-- The text of a value is read as its tree, and nothing is left over. -/
theorem parse_text {depth : Nat} {v : Value} (h : v.Plain depth) :
    Document.parse (Text.utf8 v.text) = ⟨v.node, false⟩ :=
  parse_of_isTextOf (written_node h).unpadded

/-! ### Trees -/

theorem Value.Plain.whole {depth : Nat} {v : Value} (h : v.Plain depth) : v.node.Whole := (written_node h).whole

/-- What is written can be kept. -/
theorem Value.Plain.readable {depth : Nat} {v : Value} (h : v.Plain depth) : v.node.Readable depth := by
  induction h with
  | null => exact .null
  | bool b => exact .bool
  | @nat _ n h =>
    refine .number (Option.isSome_iff_exists.2 ⟨.integer (.ofNat n), ?_⟩)
    rw [Numeral.number?, Numeral.integer?_eq_natural_iff.2 ⟨_, rfl, ofDigits_decimals n, h⟩]
  | string s => exact .string (spells_spelling s)
  | array h ih =>
    rw [Value.node, Value.itemNodes_eq_map]
    exact .array (List.forall_mem_map.2 ih)
  | object h ih =>
    rw [Value.node, Value.memberNodes_eq_map]
    exact .object (List.forall_mem_map.2 fun m _ => ⟨m.1, named_spelling m.1⟩) (List.forall_mem_map.2 ih)

end Json

end CommentBot
