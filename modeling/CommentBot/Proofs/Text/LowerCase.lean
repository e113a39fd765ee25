import CommentBot.Text.LowerCase
import Mathlib.Data.List.Forall2

/-!
# Phrases in the small form of a text

The small form of a text is not made character by character: what becomes of a sigma depends on its neighbours, and a
dotted capital I becomes two characters. A search for plain phrases does not notice.

1. `Plain`: phrases of ASCII characters that do not end in `i`, the one ASCII character that comes from another one
   together with a mark.
2. `infix_lower_iff`: a plain phrase stands in the small form of a text exactly if it stands in the text with each
   character made small on its own (`simpleLower`).
3. `Recased`: the same character, or the other form of an ASCII letter. To recase a text changes nothing about that
   (`map_simpleLower_of_recased`).
-/

namespace CommentBot.Text

/-! ## Plain phrases -/

/-- A phrase of ASCII characters that does not end in `i`. -/
def Plain (phrase : List Char) : Prop := (∀ c ∈ phrase, c.toNat < 128) ∧ phrase.getLast? ≠ some 'i'

instance : DecidablePred Plain := fun phrase =>
  decidable_of_iff (phrase.all (·.toNat < 128) = true ∧ phrase.getLast? ≠ some 'i') (by simp [Plain])

theorem Plain.tail {a : Char} {phrase : List Char} (h : Plain (a :: phrase)) : Plain phrase := by
  refine ⟨fun c hc => h.1 c (List.mem_cons_of_mem a hc), ?_⟩
  cases phrase with
  | nil => exact nofun
  | cons b phrase => exact h.2

/-- A character becomes its own small form, or else nothing that is plain comes of it in either way. -/
theorem lowerChar_cases (before : List Char) (c : Char) (after : List Char) :
    lowerChar before c after = [simpleLower c] ∨ 128 ≤ (simpleLower c).toNat ∧
      ((∃ d, 128 ≤ d.toNat ∧ lowerChar before c after = [d]) ∨ lowerChar before c after = ['i', '\u0307']) := by
  unfold lowerChar
  split_ifs with hdotted hsigma hfinal
  · subst hdotted
    exact .inr ⟨by decide +kernel, .inr rfl⟩
  · subst hsigma
    exact .inr ⟨by decide +kernel, .inl ⟨'ς', by decide, rfl⟩⟩
  · subst hsigma
    exact .inr ⟨by decide +kernel, .inl ⟨'σ', by decide, rfl⟩⟩
  · exact .inl rfl

/-! ## Where they stand -/

theorem not_prefix_of_wide {a d : Char} {phrase text : List Char} (h : Plain (a :: phrase)) (hd : 128 ≤ d.toNat) :
    ¬ a :: phrase <+: d :: text := by
  intro hprefix
  obtain ⟨rfl, -⟩ := List.cons_prefix_cons.1 hprefix
  have := h.1 a List.mem_cons_self
  omega

theorem not_prefix_of_dotted {a : Char} {phrase text : List Char} (h : Plain (a :: phrase)) :
    ¬ a :: phrase <+: 'i' :: '\u0307' :: text := by
  intro hprefix
  obtain ⟨rfl, hrest⟩ := List.cons_prefix_cons.1 hprefix
  cases phrase with
  | nil => exact h.2 rfl
  | cons b phrase => exact not_prefix_of_wide h.tail (by decide) hrest

/-- A plain phrase begins the small form of a text exactly if it begins the text made small by character. -/
theorem prefix_lowerFrom_iff {phrase : List Char} (h : Plain phrase) (before text : List Char) :
    phrase <+: lowerFrom before text ↔ phrase <+: text.map simpleLower := by
  induction text generalizing phrase before with
  | nil => rfl
  | cons c rest ih =>
    cases phrase with
    | nil => exact iff_of_true List.nil_prefix List.nil_prefix
    | cons a phrase =>
      rw [lowerFrom, List.map_cons]
      rcases lowerChar_cases before c rest with hlower | ⟨hwide, ⟨d, hd, hlower⟩ | hlower⟩
      · rw [hlower, List.singleton_append, List.cons_prefix_cons, List.cons_prefix_cons, ih h.tail]
      · rw [hlower]
        exact iff_of_false (not_prefix_of_wide h hd) (not_prefix_of_wide h hwide)
      · rw [hlower]
        exact iff_of_false (not_prefix_of_dotted h) (not_prefix_of_wide h hwide)

theorem infix_lowerFrom_iff {phrase : List Char} (h : Plain phrase) (before text : List Char) :
    phrase <:+: lowerFrom before text ↔ phrase <:+: text.map simpleLower := by
  induction text generalizing before with
  | nil => rfl
  | cons c rest ih =>
    have hprefix := prefix_lowerFrom_iff h before (c :: rest)
    rw [lowerFrom, List.map_cons] at hprefix ⊢
    rw [List.infix_cons_iff, ← ih (c :: before), ← hprefix]
    rcases lowerChar_cases before c rest with hlower | ⟨-, ⟨d, -, hlower⟩ | hlower⟩
    · rw [hlower, List.singleton_append, List.infix_cons_iff]
    · rw [hlower, List.singleton_append, List.infix_cons_iff]
    · -- no phrase begins with the mark behind the `i`, other than the empty one, which stands everywhere
      have hmark : phrase <+: '\u0307' :: lowerFrom (c :: before) rest → phrase <:+: lowerFrom (c :: before) rest := by
        intro hmark
        cases phrase with
        | nil => exact List.nil_infix
        | cons a phrase => exact absurd hmark (not_prefix_of_wide h (by decide))
      rw [hlower, List.cons_append, List.cons_append, List.nil_append, List.infix_cons_iff, List.infix_cons_iff,
        or_iff_right_of_imp hmark]

/-- A plain phrase stands in the small form of a text exactly if it stands in the text made small by character. -/
theorem infix_lower_iff {phrase : List Char} (h : Plain phrase) (text : List Char) :
    phrase <:+: lower text ↔ phrase <:+: text.map simpleLower :=
  infix_lowerFrom_iff h [] text

/-! ## Letters of either case -/

/-- One character in the place of another: the same one, or the small or capital form of an ASCII character. Only
letters have two forms there. -/
def Recased (c d : Char) : Prop := d = c ∨ c.toNat < 128 ∧ (d = c.toLower ∨ d = c.toUpper)

/-- The capital ASCII letters are the first run, and the other runs lie behind ASCII. -/
theorem find?_lowerRuns_of_ascii {c : Char} (h : c.toNat < 128) :
    lowerRuns.find? (·.contains c.toNat) = [CaseRun.mk 0x41 0x5A 1 32].find? (·.contains c.toNat) := by
  have hbehind : ∀ run ∈ lowerRuns.tail, 128 ≤ run.first := by decide +kernel
  have hlater : lowerRuns.tail.find? (·.contains c.toNat) = none := by
    refine List.find?_eq_none.2 fun run hrun hcontains => ?_
    have hfirst := hbehind run hrun
    simp only [CaseRun.contains, Bool.and_eq_true, decide_eq_true_eq] at hcontains
    omega
  rw [show lowerRuns = [⟨0x41, 0x5A, 1, 32⟩] ++ lowerRuns.tail from rfl, List.find?_append, hlater, Option.or_none]

theorem simpleLower_of_ascii {c : Char} (h : c.toNat < 128) : simpleLower c = c.toLower := by
  rw [simpleLower, find?_lowerRuns_of_ascii h]
  exact of_forall_ofNat h (by decide)

theorem simpleLower_of_recased {c d : Char} (h : Recased c d) : simpleLower d = simpleLower c := by
  rcases h with rfl | ⟨hc, hd⟩
  · rfl
  · rw [simpleLower_of_ascii hc]
    rcases hd with rfl | rfl
    · have hsmall : c.toLower.toNat < 128 ∧ c.toLower.toLower = c.toLower := of_forall_ofNat hc (by decide)
      rw [simpleLower_of_ascii hsmall.1, hsmall.2]
    · have hcapital : c.toUpper.toNat < 128 ∧ c.toUpper.toLower = c.toLower := of_forall_ofNat hc (by decide)
      rw [simpleLower_of_ascii hcapital.1, hcapital.2]

theorem map_simpleLower_of_recased {text other : List Char} (h : List.Forall₂ Recased text other) :
    other.map simpleLower = text.map simpleLower := by
  induction h with
  | nil => rfl
  | cons hc _ ih => rw [List.map_cons, List.map_cons, simpleLower_of_recased hc, ih]

end CommentBot.Text
