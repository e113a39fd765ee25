import CommentBot.Json.Decoder
import CommentBot.Proofs.Json.Grammar
import CommentBot.Proofs.Results
import Mathlib.Data.List.Forall2

/-!
# What values are read as

Strings and numbers as they are written can spell the same text or number in many ways, and not everything that
the grammar lets through spells one.

1. `Spelling.read_eq_ok_iff`: a string is read as the text that it spells.
2. `uint64_eq_ok_iff`: a number of 64 bits is read from its decimal digits alone.
3. `exists_value_iff`: any value is read unless its numbers or its nesting go too far, or a string spells no text.
-/

namespace CommentBot.Json

/-! ## Strings -/

/-- The octets for which the pieces of a string stand. Halves of a pair stand for nothing. -/
inductive Joins : List Piece → List UInt8 → Prop
  | nil : Joins [] []
  | octet {v : UInt8} {ps : List Piece} {o : List UInt8} (h : Joins ps o) : Joins (.octet v :: ps) (v :: o)
  | unit {v : Nat} {ps : List Piece} {o : List UInt8} (hcloses : ¬ closesPair v = true)
      (hopens : ¬ opensPair v = true) (h : Joins ps o) :
      Joins (.unit v :: ps) (String.utf8EncodeChar (Char.ofNat v) ++ o)
  | pair {first second : Nat} {ps : List Piece} {o : List UInt8} (hnot : ¬ closesPair first = true)
      (hopens : opensPair first = true) (hcloses : closesPair second = true) (h : Joins ps o) :
      Joins (.unit first :: .unit second :: ps) (String.utf8EncodeChar (pairCharacter first second) ++ o)

/-- The string is complete and spells the text: with its escapes resolved, its octets are those of the text. -/
structure Spelling.Spells (s : Spelling) (text : String) : Prop where
  complete : s.fault = none
  octets : Joins s.pieces (Text.utf8 text)

theorem joinPieces_of_joins {ps : List Piece} {o : List UInt8} (h : Joins ps o) (done : List UInt8) :
    joinPieces none done ps = .ok (done.reverse ++ o) := by
  induction h generalizing done with
  | nil => rw [joinPieces, List.append_nil]
  | octet _ ih => rw [joinPieces, ih, List.reverse_cons, List.append_assoc, List.singleton_append]
  | unit hcloses hopens _ ih =>
    rw [joinPieces.eq_def]
    dsimp only
    rw [if_neg hcloses, if_neg hopens, ih]
    simp
  | pair hnot hopens hcloses _ ih =>
    rw [joinPieces.eq_def]
    dsimp only
    rw [if_neg hnot, if_pos hopens, if_pos hcloses, ih]
    simp

theorem joins_of_joinPieces {fault : Option Fault} {ps : List Piece} {done o : List UInt8}
    (h : joinPieces fault done ps = .ok o) : fault = none ∧ ∃ o', Joins ps o' ∧ o = done.reverse ++ o' := by
  fun_induction joinPieces fault done ps with
  | case1 done f => cases h
  | case2 done hfault =>
    cases h
    exact ⟨hfault, [], .nil, by rw [List.append_nil]⟩
  | case3 done v rest ih =>
    obtain ⟨hfault, o', ho', rfl⟩ := ih h
    exact ⟨hfault, v :: o', .octet ho', by rw [List.reverse_cons, List.append_assoc, List.singleton_append]⟩
  | case4 done first rest hcloses => cases h
  | case5 done first hnot hopens second rest hcloses ih =>
    obtain ⟨hfault, o', ho', ho⟩ := ih h
    exact ⟨hfault, _, .pair hnot hopens hcloses ho', by
      rw [ho, List.reverse_append, List.reverse_reverse, List.append_assoc]⟩
  | case6 done first hnot hopens second rest hcloses => cases h
  | case7 done first hnot hopens v rest => cases h
  | case8 done first hnot hopens => cases h
  | case9 done first rest hnot hopens ih =>
    obtain ⟨hfault, o', ho', ho⟩ := ih h
    exact ⟨hfault, _, .unit hnot hopens ho', by
      rw [ho, List.reverse_append, List.reverse_reverse, List.append_assoc]⟩

theorem Spelling.text_eq_ok_iff {s : Spelling} {text : String} : s.text = .ok text ↔ s.Spells text := by
  unfold Spelling.text Spelling.octets
  constructor
  · intro h
    cases hjoin : joinPieces s.fault [] s.pieces with
    | error f =>
      rw [hjoin] at h
      cases h
    | ok o =>
      rw [hjoin] at h
      simp only [bind, Except.bind] at h
      obtain ⟨hfault, o', ho', rfl⟩ := joins_of_joinPieces hjoin
      split at h
      · rename_i text' htext
        obtain rfl := Except.ok.inj h
        rw [Text.ofUtf8?_eq_some_iff] at htext
        exact ⟨hfault, htext ▸ ho'⟩
      · cases h
  · rintro ⟨hfault, hjoins⟩
    rw [hfault, joinPieces_of_joins hjoins]
    simp only [bind, Except.bind, List.reverse_nil, List.nil_append, Text.ofUtf8?_utf8]

/-- A string is read as the text that it spells. -/
theorem Spelling.read_eq_ok_iff {s : Spelling} {text : String} : s.read = .ok text ↔ s.Spells text := by
  rw [← Spelling.text_eq_ok_iff, Spelling.read]
  cases s.text with
  | ok text' => simp
  | error f => exact ⟨nofun, nofun⟩

/-- The key is a string that spells the name. -/
def Named (name : String) (key : Key) : Prop := ∃ s, key = .scalar (.string s) ∧ s.Spells name

theorem readKey_eq_ok_iff {key : Key} {name : String} : readKey key = .ok name ↔ Named name key := by
  constructor
  · intro h
    match key, h with
    | .scalar (.string s), h => exact ⟨s, rfl, Spelling.read_eq_ok_iff.1 h⟩
  · rintro ⟨s, rfl, hs⟩
    exact Spelling.read_eq_ok_iff.2 hs

theorem within_eq_ok {α : Type} {step : Step} {x : Except ReadError α} {a : α} : within step x = .ok a ↔ x = .ok a :=
  mapError_eq_ok

theorem memberName_eq_ok_iff {key : Key} {name : String} : memberName key = .ok name ↔ Named name key :=
  within_eq_ok.trans readKey_eq_ok_iff

namespace Node

/-- The value is a string that spells the text. -/
def IsString (text : String) (n : Node) : Prop := ∃ s, n = .scalar (.string s) ∧ s.Spells text

/-- The value is a number written by the decimal digits of `v` alone. -/
def IsNatural (v : Nat) (n : Node) : Prop :=
  ∃ digits, n = .scalar (.number ⟨false, digits, [], none⟩) ∧ ofDigits digits = v

/-- The value is null. -/
def IsNull (n : Node) : Prop := n = .scalar .null

end Node

theorem unexpected_ne_ok {α : Type} {wanted : String} {n : Node} {a : α} : unexpected wanted n ≠ .ok a := by
  unfold unexpected
  cases n.found <;> nofun

theorem string_eq_ok_iff {ctx : Context} {n : Node} {text : String} :
    Decoder.string ctx n = .ok text ↔ n.IsString text := by
  constructor
  · intro h
    unfold Decoder.string at h
    split at h
    · exact ⟨_, rfl, Spelling.read_eq_ok_iff.1 h⟩
    · exact absurd h unexpected_ne_ok
  · rintro ⟨s, rfl, hs⟩
    exact Spelling.read_eq_ok_iff.2 hs

/-! ## Numbers -/

/-- Decimal digits alone stand for a natural number below `2 ^ 64`, and nothing else does. -/
theorem Numeral.integer?_eq_natural_iff {n : Numeral} {v : Nat} :
    n.integer? = some (.ofNat v) ↔
      ∃ digits, n = ⟨false, digits, [], none⟩ ∧ ofDigits digits = v ∧ v < UInt64.size := by
  obtain ⟨negative, whole, fraction, exponent⟩ := n
  constructor
  · intro h
    unfold integer? at h
    split at h
    · rename_i hfraction hexponent
      obtain rfl : fraction = [] := hfraction
      obtain rfl : exponent = none := hexponent
      cases negative with
      | true =>
        dsimp only at h
        rw [if_pos rfl] at h
        split at h
        · rename_i hpositive
          have hvalue := Option.some.inj h
          simp only [Bool.and_eq_true, decide_eq_true_eq] at hpositive
          simp only [Int.ofNat_eq_natCast] at hvalue
          omega
        · cases h
      | false =>
        dsimp only at h
        rw [if_neg (by decide)] at h
        split at h
        · rename_i hsize
          have hvalue : ofDigits whole = v := Int.ofNat.inj (Option.some.inj h)
          exact ⟨whole, rfl, hvalue, hvalue ▸ hsize⟩
        · cases h
    · cases h
  · rintro ⟨digits, heq, rfl, hsize⟩
    cases heq
    unfold integer?
    simp only [Bool.false_eq_true, if_false, hsize, if_true]
    rfl

theorem Numeral.read_eq_natural_iff {n : Numeral} {v : Nat} :
    n.read = .ok (.integer (.ofNat v)) ↔
      ∃ digits, n = ⟨false, digits, [], none⟩ ∧ ofDigits digits = v ∧ v < UInt64.size := by
  rw [← Numeral.integer?_eq_natural_iff]
  unfold Numeral.read Numeral.number?
  cases n.integer? with
  | some value => simp
  | none =>
    cases n.magnitude? with
    | some x => simp
    | none => exact ⟨nofun, nofun⟩

theorem natural_eq_ok_iff {ctx : Context} {n : Node} {bound v : Nat} {wanted : String}
    (hbound : bound ≤ UInt64.size) :
    Decoder.natural bound wanted ctx n = .ok v ↔ n.IsNatural v ∧ v < bound := by
  constructor
  · intro h
    unfold Decoder.natural at h
    split at h
    · rename_i n
      cases hread : n.read with
      | error e =>
        rw [hread] at h
        cases h
      | ok number =>
        rw [hread] at h
        simp only [bind, Except.bind] at h
        split at h
        · split at h
          · rename_i value hlt
            cases h
            obtain ⟨digits, rfl, hv, -⟩ := Numeral.read_eq_natural_iff.1 hread
            exact ⟨⟨digits, rfl, hv⟩, hlt⟩
          · cases h
        · cases h
        · cases h
    · exact absurd h unexpected_ne_ok
  · rintro ⟨⟨digits, rfl, hv⟩, hlt⟩
    have hread := Numeral.read_eq_natural_iff.2 ⟨digits, rfl, hv, Nat.lt_of_lt_of_le hlt hbound⟩
    unfold Decoder.natural
    simp only [hread, bind, Except.bind, if_pos hlt]

/-- A number of 64 bits is read from its decimal digits alone. -/
theorem uint64_eq_ok_iff {ctx : Context} {n : Node} {v : UInt64} :
    Decoder.uint64 ctx n = .ok v ↔ n.IsNatural v.toNat := by
  have hnatural : ∀ k, Decoder.natural UInt64.size "u64" ctx n = .ok k ↔ n.IsNatural k ∧ k < UInt64.size :=
    fun k => natural_eq_ok_iff (Nat.le_refl _)
  unfold Decoder.uint64
  constructor
  · intro h
    cases hread : Decoder.natural UInt64.size "u64" ctx n with
    | error e =>
      rw [hread] at h
      cases h
    | ok k =>
      rw [hread] at h
      obtain ⟨hk, hlt⟩ := (hnatural k).1 hread
      obtain rfl := Except.ok.inj h
      rwa [UInt64.toNat_ofNat_of_lt' hlt]
  · intro h
    rw [(hnatural v.toNat).2 ⟨h, v.toNat_lt⟩]
    exact congrArg Except.ok UInt64.ofNat_toNat

theorem option_eq_ok_iff {α : Type} {read : Decoder α} {ctx : Context} {n : Node} {o : Option α} :
    Decoder.option read ctx n = .ok o ↔
      n.IsNull ∧ o = none ∨ ¬ n.IsNull ∧ ∃ a, read ctx n = .ok a ∧ o = some a := by
  by_cases hnull : n.IsNull
  · obtain rfl := hnull
    simp [Decoder.option, Node.IsNull, eq_comm]
  · have hoption : Decoder.option read ctx n = (read ctx n).map some := by
      unfold Decoder.option
      split
      · exact absurd rfl hnull
      · rfl
    rw [hoption]
    cases read ctx n <;> simp [hnull, Except.map, eq_comm]

/-! ## Arrays -/

theorem atEnd_eq_ok_iff {stop : Option Fault} : atEnd stop = .ok () ↔ stop = none := by
  cases stop with
  | none => exact ⟨fun _ => rfl, fun _ => rfl⟩
  | some f => exact ⟨nofun, nofun⟩

theorem atLastMember_eq_ok_iff {stop : Option Fault} : atLastMember stop = .ok () ↔ stop = none :=
  within_eq_ok.trans atEnd_eq_ok_iff

theorem items_eq_ok_iff {α : Type} {read : Node → Except ReadError α} {index : Nat} {done as : List α}
    {ns : List Node} : Decoder.items read index done ns = .ok as ↔
      ∃ more, as = done.reverse ++ more ∧ List.Forall₂ (fun a n => read n = .ok a) more ns := by
  induction ns generalizing index done with
  | nil => simp [Decoder.items, eq_comm]
  | cons n ns ih =>
    unfold Decoder.items
    simp only [bind_eq_ok, within_eq_ok, ih, List.forall₂_cons_right_iff]
    constructor
    · rintro ⟨a, hread, more, rfl, hmore⟩
      exact ⟨a :: more, by simp, a, more, hread, hmore, rfl⟩
    · rintro ⟨_, rfl, a, more, hread, hmore, rfl⟩
      exact ⟨a, hread, more, by simp, hmore⟩

/-- An array is read item by item, in order. -/
theorem list_eq_ok_iff {α : Type} {read : Decoder α} {depth : Nat} {n : Node} {as : List α} :
    Decoder.list read ⟨depth + 1, .text⟩ n = .ok as ↔
      ∃ ns, n = .array ns none ∧ List.Forall₂ (fun a n => read ⟨depth, .text⟩ n = .ok a) as ns := by
  constructor
  · intro h
    unfold Decoder.list at h
    split at h
    · next ns stop =>
      obtain ⟨values, hitems, h⟩ := bind_eq_ok.1 h
      obtain ⟨_, hend, h⟩ := bind_eq_ok.1 h
      obtain ⟨more, rfl, hmore⟩ := items_eq_ok_iff.1 hitems
      rw [atEnd_eq_ok_iff.1 hend, pure_eq_ok.1 h]
      exact ⟨ns, rfl, hmore⟩
    · exact absurd h unexpected_ne_ok
  · rintro ⟨ns, rfl, h⟩
    exact bind_eq_ok.2 ⟨as, items_eq_ok_iff.2 ⟨as, rfl, h⟩, rfl⟩

theorem exists_forall₂_iff {α β : Type} {r : α → β → Prop} {bs : List β} :
    (∃ as, List.Forall₂ r as bs) ↔ ∀ b ∈ bs, ∃ a, r a b := by
  induction bs with
  | nil => simp
  | cons b bs ih =>
    rw [List.forall_mem_cons, ← ih]
    simp only [List.forall₂_cons_right_iff]
    constructor
    · rintro ⟨_, a, as, ha, has, rfl⟩
      exact ⟨⟨a, ha⟩, as, has⟩
    · rintro ⟨⟨a, ha⟩, as, has⟩
      exact ⟨_, a, as, ha, has, rfl⟩

theorem exists_items_iff {α : Type} {read : Node → Except ReadError α} {index : Nat} {ns : List Node} :
    (∃ as, Decoder.items read index [] ns = .ok as) ↔ ∀ n ∈ ns, ∃ a, read n = .ok a := by
  simp [items_eq_ok_iff, exists_forall₂_iff]

/-- An array is read if its items are. -/
theorem exists_list_iff {α : Type} {read : Decoder α} {depth : Nat} {n : Node} :
    (∃ as, Decoder.list read ⟨depth + 1, .text⟩ n = .ok as) ↔
      ∃ ns, n = .array ns none ∧ ∀ n ∈ ns, ∃ a, read ⟨depth, .text⟩ n = .ok a := by
  simp only [list_eq_ok_iff]
  rw [exists_comm]
  simp only [exists_and_left, exists_forall₂_iff]

/-! ## Any value -/

/-- The value can be kept: each number lies in the range of numbers, strings and keys spell texts, and at most
`depth` brackets stand inside one another. -/
inductive Node.Readable : Nat → Node → Prop
  | null {depth : Nat} : Readable depth (.scalar .null)
  | bool {depth : Nat} {b : Bool} : Readable depth (.scalar (.bool b))
  | number {depth : Nat} {n : Numeral} (h : n.number?.isSome) : Readable depth (.scalar (.number n))
  | string {depth : Nat} {s : Spelling} {text : String} (h : s.Spells text) : Readable depth (.scalar (.string s))
  | array {depth : Nat} {ns : List Node} (h : ∀ n ∈ ns, Readable depth n) : Readable (depth + 1) (.array ns none)
  | object {depth : Nat} {ms : List (Key × Node)} (hkeys : ∀ m ∈ ms, ∃ name, Named name m.1)
      (h : ∀ m ∈ ms, Readable depth m.2) : Readable (depth + 1) (.object ms none)

theorem exists_scalar_value_iff {depth : Nat} {s : Scalar} :
    (∃ v, s.value = .ok v) ↔ Node.Readable depth (.scalar s) := by
  constructor
  · rintro ⟨v, h⟩
    cases s with
    | null => exact .null
    | bool b => exact .bool
    | number n =>
      refine .number ?_
      rw [Scalar.value, Numeral.read] at h
      cases hnumber : n.number? with
      | some number => rfl
      | none =>
        rw [hnumber] at h
        cases h
    | string s =>
      rw [Scalar.value] at h
      cases hread : s.read with
      | error e =>
        rw [hread] at h
        cases h
      | ok text => exact .string (Spelling.read_eq_ok_iff.1 hread)
    | garbled f => cases h
    | missing => cases h
    | unreached f => cases h
  · intro h
    cases h with
    | null => exact ⟨_, rfl⟩
    | bool => exact ⟨_, rfl⟩
    | @number _ n h =>
      obtain ⟨number, hnumber⟩ := Option.isSome_iff_exists.1 h
      exact ⟨.number number, by rw [Scalar.value, Numeral.read, hnumber]; rfl⟩
    | string h => exact ⟨_, by rw [Scalar.value, Spelling.read_eq_ok_iff.2 h]; rfl⟩

/-- A member is read if its key and its value are. -/
theorem exists_member_iff (depth : Nat) (m : Key × Node) :
    (∃ r, (do
      let name ← memberName m.1
      return (name, ← within (.field name) (m.2.value depth))) = Except.ok r) ↔
        (∃ name, Named name m.1) ∧ ∃ v, m.2.value depth = .ok v := by
  simp only [← memberName_eq_ok_iff, bind_eq_ok, pure_eq_ok, within_eq_ok]
  constructor
  · rintro ⟨r, name, hname, v, hv, -⟩
    exact ⟨⟨name, hname⟩, v, hv⟩
  · rintro ⟨⟨name, hname⟩, v, hv⟩
    exact ⟨_, name, hname, v, hv, rfl⟩

/-- Any value is read if it can be kept. -/
theorem exists_value_iff {depth : Nat} {n : Node} : (∃ v, n.value depth = .ok v) ↔ n.Readable depth := by
  -- brackets use up the depth, so the induction on it reaches the parts of a value
  induction depth generalizing n with
  | zero =>
    cases n with
    | scalar s => exact exists_scalar_value_iff
    | array ns stop => exact ⟨nofun, nofun⟩
    | object ms stop => exact ⟨nofun, nofun⟩
  | succ depth ih =>
    cases n with
    | scalar s => exact exists_scalar_value_iff
    | array ns stop =>
      have hitems : (∃ vs, Decoder.items (Node.value depth) 0 [] ns = .ok vs) ↔ ∀ n ∈ ns, n.Readable depth :=
        exists_items_iff.trans (forall₂_congr fun n _ => ih)
      rw [Node.value]
      constructor
      · rintro ⟨v, h⟩
        obtain ⟨vs, hvs, h⟩ := bind_eq_ok.1 h
        obtain ⟨_, hstop, -⟩ := bind_eq_ok.1 h
        rw [atEnd_eq_ok_iff.1 hstop]
        exact .array (hitems.1 ⟨vs, hvs⟩)
      · intro h
        cases h with
        | array h =>
          obtain ⟨vs, hvs⟩ := hitems.2 h
          exact ⟨_, by rw [hvs]; rfl⟩
    | object ms stop =>
      have hmember := fun m : Key × Node => (exists_member_iff depth m).trans
        (and_congr_right fun _ => ih)
      have hmembers := (exists_mapM_iff (l := ms)).trans (forall₂_congr fun m _ => hmember m)
      rw [Node.value]
      constructor
      · rintro ⟨v, h⟩
        obtain ⟨vs, hvs, h⟩ := bind_eq_ok.1 h
        obtain ⟨_, hstop, -⟩ := bind_eq_ok.1 h
        have hall := hmembers.1 ⟨vs, hvs⟩
        rw [atLastMember_eq_ok_iff.1 hstop]
        exact .object (fun m hm => (hall m hm).1) fun m hm => (hall m hm).2
      · intro h
        cases h with
        | object hkeys h =>
          obtain ⟨vs, hvs⟩ := hmembers.2 fun m hm => ⟨hkeys m hm, h m hm⟩
          exact ⟨_, by rw [hvs]; rfl⟩

end CommentBot.Json
