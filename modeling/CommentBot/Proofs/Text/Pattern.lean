import Mathlib.Computability.Language

/-!
# Patterns

A pattern describes words by classes of characters that follow each other or are repeated.

1. `Pattern.language`: the words that a pattern describes.
2. `Pattern.rests`: the ways to match the start of a text, in the order in which a greedy search with backtracking
   tries them. The search finds the first one.
3. `mem_rests_iff`: the ways to match are the prefixes that the pattern describes. Which of them comes first depends on
   the pattern; `head?_rests_seq` and its neighbours say so for each way to build one.
-/

namespace CommentBot.Text

open Computability

/-- A description of words. -/
inductive Pattern
  /-- A character of a class. -/
  | one (holds : Char → Bool)
  /-- A word of one pattern and behind it a word of another one. -/
  | seq (first second : Pattern)
  /-- Words of a pattern one behind the other, perhaps none. -/
  | star (body : Pattern)

namespace Pattern

/-- Words of a pattern one behind the other, at least one. -/
def plus (p : Pattern) : Pattern := seq p (star p)

/-- The words that a pattern describes. -/
def language : Pattern → Language Char
  | one holds => {w | ∃ c, holds c = true ∧ w = [c]}
  | seq p q => p.language * q.language
  | star p => p.language∗

/-- The ways to go on with `step`, once more before no more. A step that gets nowhere is not repeated. -/
def again (step : List Char → List (List Char)) (text : List Char) : List (List Char) :=
  ((step text).flatMap fun rest => if rest.length < text.length then again step rest else []) ++ [text]
termination_by text.length

/-- What the ways to match leave of a text, the first one that a greedy search tries in front. -/
def rests : Pattern → List Char → List (List Char)
  | one _, [] => []
  | one holds, c :: rest => if holds c then [rest] else []
  | seq p q, text => (p.rests text).flatMap q.rests
  | star p, text => again p.rests text

/-! ## Ways to match -/

theorem mem_again_iff {step : List Char → List (List Char)} {text rest : List Char} :
    rest ∈ again step text ↔
      (∃ next ∈ step text, next.length < text.length ∧ rest ∈ again step next) ∨ rest = text := by
  rw [again, List.mem_append, List.mem_flatMap, List.mem_singleton]
  refine or_congr_left (exists_congr fun next => and_congr_right fun _ => ?_)
  split
  · next h => rw [and_iff_right h]
  · next h => exact iff_of_false List.not_mem_nil fun h' => h h'.1

/-- The ways to repeat a pattern are the prefixes of repeated words. -/
theorem mem_again_rests_iff {p : Pattern}
    (hp : ∀ {text rest}, rest ∈ p.rests text ↔ ∃ w ∈ p.language, w ++ rest = text) {text rest : List Char} :
    rest ∈ again p.rests text ↔ ∃ w ∈ p.language∗, w ++ rest = text := by
  induction hn : text.length using Nat.strong_induction_on generalizing text with
  | _ n ih =>
    subst hn
    rw [mem_again_iff]
    constructor
    · rintro (⟨next, hnext, hlt, hrest⟩ | rfl)
      · obtain ⟨v, hv, rfl⟩ := hp.1 hnext
        obtain ⟨w, hw, rfl⟩ := (ih _ hlt rfl).1 hrest
        refine ⟨v ++ w, ?_, List.append_assoc v w rest⟩
        rw [← Language.one_add_self_mul_kstar_eq_kstar]
        exact .inr (Language.append_mem_mul hv hw)
      · exact ⟨[], Language.nil_mem_kstar _, rfl⟩
    · rintro ⟨w, hw, rfl⟩
      obtain ⟨words, rfl, hwords⟩ := Language.mem_kstar_iff_exists_nonempty.1 hw
      cases words with
      | nil => exact .inr rfl
      | cons v words =>
        obtain ⟨hv, hne⟩ := hwords v List.mem_cons_self
        have hlt : (words.flatten ++ rest).length < ((v :: words).flatten ++ rest).length := by
          have := List.length_pos_iff.2 hne
          simp only [List.flatten_cons, List.length_append]
          omega
        refine .inl ⟨words.flatten ++ rest, hp.2 ⟨v, hv, ?_⟩, hlt, (ih _ hlt rfl).2 ⟨words.flatten, ?_, rfl⟩⟩
        · rw [List.flatten_cons, List.append_assoc]
        · exact Language.join_mem_kstar fun w hw => (hwords w (List.mem_cons_of_mem v hw)).1

/-- The ways to match are the prefixes that the pattern describes. -/
theorem mem_rests_iff {p : Pattern} {text rest : List Char} :
    rest ∈ p.rests text ↔ ∃ w ∈ p.language, w ++ rest = text := by
  induction p generalizing text rest with
  | one holds =>
    cases text with
    | nil =>
      refine iff_of_false List.not_mem_nil ?_
      rintro ⟨w, ⟨c, -, rfl⟩, h⟩
      cases h
    | cons c text =>
      rw [rests]
      constructor
      · intro h
        split at h
        · next hc => exact ⟨[c], ⟨c, hc, rfl⟩, by rw [List.mem_singleton.1 h]; rfl⟩
        · cases h
      · rintro ⟨w, ⟨d, hd, rfl⟩, h⟩
        obtain ⟨rfl, rfl⟩ := List.cons.inj h
        rw [if_pos hd]
        exact List.mem_singleton.2 rfl
  | seq p q ihp ihq =>
    rw [rests, List.mem_flatMap]
    constructor
    · rintro ⟨next, hnext, hrest⟩
      obtain ⟨v, hv, rfl⟩ := ihp.1 hnext
      obtain ⟨w, hw, rfl⟩ := ihq.1 hrest
      exact ⟨v ++ w, Language.append_mem_mul hv hw, List.append_assoc v w rest⟩
    · rintro ⟨u, hu, rfl⟩
      obtain ⟨v, hv, w, hw, rfl⟩ := Language.mem_mul.1 hu
      exact ⟨w ++ rest, ihp.2 ⟨v, hv, (List.append_assoc v w rest).symm⟩, ihq.2 ⟨w, hw, rfl⟩⟩
  | star p ih => exact mem_again_rests_iff ih

/-! ## The first way to match -/

section First

variable {p q : Pattern} {text : List Char}

theorem head?_rests_one_cons (holds : Char → Bool) (c : Char) (rest : List Char) :
    ((one holds).rests (c :: rest)).head? = if holds c then some rest else none := by
  rw [rests]
  split <;> rfl

/-- Behind a character there is only one way to go on. -/
theorem head?_rests_seq_one_cons (holds : Char → Bool) (q : Pattern) (c : Char) (rest : List Char) :
    ((seq (one holds) q).rests (c :: rest)).head? = if holds c then (q.rests rest).head? else none := by
  rw [rests.eq_3, rests]
  split
  · rw [List.flatMap_singleton]
  · rfl

/-- The first way of a pattern that is followed by one that always matches. -/
theorem head?_rests_seq (hq : ∀ rest, q.rests rest ≠ []) (text : List Char) :
    ((seq p q).rests text).head? = ((p.rests text).head?).bind fun rest => (q.rests rest).head? := by
  rw [rests]
  cases p.rests text with
  | nil => rfl
  | cons rest more =>
    rw [List.flatMap_cons, List.head?_append_of_ne_nil _ (hq rest)]
    rfl

theorem rests_star_ne_nil (p : Pattern) (text : List Char) : (star p).rests text ≠ [] := by
  rw [rests, again]
  exact List.append_ne_nil_of_right_ne_nil _ (List.cons_ne_nil _ _)

/-- A pattern whose words are not empty leaves less than there was. -/
theorem length_lt_of_mem_rests (hp : [] ∉ p.language) {rest : List Char} (h : rest ∈ p.rests text) :
    rest.length < text.length := by
  obtain ⟨w, hw, rfl⟩ := mem_rests_iff.1 h
  have hne : w ≠ [] := fun heq => hp (heq ▸ hw)
  have := List.length_pos_iff.2 hne
  rw [List.length_append]
  omega

/-- A repetition goes on in the first way that there is, and ends if there is none. -/
theorem head?_rests_star (hp : [] ∉ p.language) (text : List Char) : ((star p).rests text).head? =
    match (p.rests text).head? with
    | some rest => ((star p).rests rest).head?
    | none => some text := by
  rw [rests, again]
  cases hrests : p.rests text with
  | nil => rfl
  | cons rest more =>
    have hlt : rest.length < text.length := length_lt_of_mem_rests hp (hrests ▸ List.mem_cons_self)
    have hne : again p.rests rest ≠ [] := rests_star_ne_nil p rest
    rw [List.flatMap_cons, if_pos hlt, List.append_assoc, List.head?_append_of_ne_nil _ hne]
    rfl

/-- Repeated characters of a class are taken as far as they go. -/
theorem head?_rests_star_one (holds : Char → Bool) (text : List Char) :
    ((star (one holds)).rests text).head? = some (text.dropWhile holds) := by
  have hne : [] ∉ (one holds).language := by
    rintro ⟨c, -, h⟩
    cases h
  induction text with
  | nil =>
    rw [head?_rests_star hne]
    rfl
  | cons c rest ih =>
    rw [head?_rests_star hne, head?_rests_one_cons]
    by_cases hc : holds c = true
    · rw [if_pos hc, List.dropWhile_cons_of_pos hc]
      exact ih
    · rw [if_neg hc, List.dropWhile_cons_of_neg hc]

theorem head?_rests_plus_one_cons (holds : Char → Bool) (c : Char) (rest : List Char) :
    ((plus (one holds)).rests (c :: rest)).head? = if holds c then some (rest.dropWhile holds) else none := by
  rw [plus, head?_rests_seq_one_cons, head?_rests_star_one]

end First

end Pattern

end CommentBot.Text
