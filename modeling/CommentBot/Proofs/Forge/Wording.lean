import CommentBot.Forge.ApiError
import CommentBot.Proofs.Text.LowerCase

/-!
# Kinds of errors and the words of their messages

The kind of an error follows from its status, and for two statuses, or without one, from phrases in its message.

1. `clues`: the phrases that count for a status. A message has no other influence (`categorize_congr`), and the kinds
   that it can give say that one of the phrases is mentioned (`categorize_eq_iff`).
2. `mentions_clues_iff`: a phrase is mentioned exactly if it stands in the message with each character made small on its
   own, so neither the case of ASCII letters counts (`mentions_clues_recased`) nor what stands around the message
   (`mentions_clues_wrapped`).
3. `wrapping_keeps_kinds` puts this together.
-/

namespace CommentBot.Forge

open Text

/-! ## The phrases that count -/

/-- The phrases that count for a status. -/
def clues : Option UInt16 → List String
  | none => networkPhrases
  | some code => if code = 403 then rateLimitPhrases else if code = 422 then collisionPhrases else []

/-- The kinds that a phrase in the message gives, with their statuses. -/
def wordedKinds : List (Option UInt16 × ErrorKind) :=
  [(some 403, .rateLimited), (some 422, .conflict), (none, .network)]

section

variable {status : Option UInt16} {kind : ErrorKind} {message other : String}

theorem categorize_eq_iff (h : (status, kind) ∈ wordedKinds) :
    categorize status message = kind ↔ mentions (clues status) message = true := by
  simp only [wordedKinds, List.mem_cons, Prod.mk.injEq, List.not_mem_nil, or_false] at h
  rcases h with ⟨rfl, rfl⟩ | ⟨rfl, rfl⟩ | ⟨rfl, rfl⟩ <;> simp [categorize, clues]

/-- Messages that mention the same have the same kind. -/
theorem categorize_congr (h : mentions (clues status) other = mentions (clues status) message) :
    categorize status other = categorize status message := by
  cases status with
  | none =>
    simp only [clues] at h
    simp only [categorize, h]
  | some code =>
    simp only [clues] at h
    simp only [categorize]
    split_ifs at h ⊢ <;> simp_all

theorem clues_eq_nil (hnone : status ≠ none) (hforbidden : status ≠ some 403) (hunprocessable : status ≠ some 422) :
    clues status = [] := by
  cases status with
  | none => exact absurd rfl hnone
  | some code =>
    rw [clues, if_neg fun h => hforbidden (congrArg some h), if_neg fun h => hunprocessable (congrArg some h)]

/-! ## Where they stand -/

theorem plain_of_mem_clues {phrase : String} (h : phrase ∈ clues status) : Plain phrase.toList := by
  have hnetwork : ∀ phrase ∈ networkPhrases, Plain phrase.toList := by decide
  have hrateLimit : ∀ phrase ∈ rateLimitPhrases, Plain phrase.toList := by decide
  have hcollision : ∀ phrase ∈ collisionPhrases, Plain phrase.toList := by decide
  cases status with
  | none => exact hnetwork phrase h
  | some code =>
    rw [clues] at h
    split_ifs at h
    · exact hrateLimit phrase h
    · exact hcollision phrase h
    · cases h

/-- A phrase is mentioned exactly if it stands in the message with each character made small on its own. -/
theorem mentions_clues_iff : mentions (clues status) message = true ↔
    ∃ phrase ∈ clues status, phrase.toList <:+: message.toList.map simpleLower := by
  rw [mentions, List.any_eq_true]
  refine exists_congr fun phrase => and_congr_right fun hphrase => ?_
  rw [occurs_iff, infix_lower_iff (plain_of_mem_clues hphrase)]

theorem mentions_clues_recased (h : List.Forall₂ Recased message.toList other.toList) :
    mentions (clues status) other = mentions (clues status) message := by
  rw [Bool.eq_iff_iff, mentions_clues_iff, mentions_clues_iff, map_simpleLower_of_recased h]

theorem mentions_clues_wrapped (before after : String) (h : mentions (clues status) message = true) :
    mentions (clues status) (before ++ message ++ after) = true := by
  obtain ⟨phrase, hphrase, hstands⟩ := mentions_clues_iff.1 h
  refine mentions_clues_iff.2 ⟨phrase, hphrase, hstands.trans ?_⟩
  simp only [String.toList_append, List.map_append]
  exact List.infix_append _ _ _

theorem categorize_wrapped (hworded : (status, kind) ∈ wordedKinds) (before after : String)
    (h : categorize status message = kind) : categorize status (before ++ message ++ after) = kind :=
  (categorize_eq_iff hworded).2 (mentions_clues_wrapped before after ((categorize_eq_iff hworded).1 h))

end

/-- **Wrapping keeps kinds.** To change the case of ASCII letters in a message changes no kind. A message that tells
limited rates, a name that is taken or a lost answer still tells it with any text before and behind it. For a status
other than 403 and 422 the message has no influence. One of the three kinds is given exactly if a phrase that counts for
the status stands in the message with each character made small on its own. -/
theorem wrapping_keeps_kinds (status : Option UInt16) (message : String) :
    (∀ other : String, List.Forall₂ Recased message.toList other.toList →
      categorize status other = categorize status message) ∧
    (∀ before after : String,
      (categorize (some 403) message = .rateLimited →
        categorize (some 403) (before ++ message ++ after) = .rateLimited) ∧
      (categorize (some 422) message = .conflict →
        categorize (some 422) (before ++ message ++ after) = .conflict) ∧
      (categorize none message = .network → categorize none (before ++ message ++ after) = .network)) ∧
    (status ≠ none → status ≠ some 403 → status ≠ some 422 →
      ∀ other : String, categorize status other = categorize status message) ∧
    (∀ kind, (status, kind) ∈ wordedKinds → (categorize status message = kind ↔
      ∃ phrase ∈ clues status, phrase.toList <:+: message.toList.map simpleLower)) := by
  refine ⟨fun other h => categorize_congr (mentions_clues_recased h), fun before after => ?_, ?_,
    fun kind h => (categorize_eq_iff h).trans mentions_clues_iff⟩
  · exact ⟨categorize_wrapped (by decide) before after, categorize_wrapped (by decide) before after,
      categorize_wrapped (by decide) before after⟩
  · intro hnone hforbidden hunprocessable other
    refine categorize_congr ?_
    rw [clues_eq_nil hnone hforbidden hunprocessable]
    rfl

theorem loud_collision_wrapped : categorize (some 422) "REFERENCE ALREADY EXISTS" = .conflict ∧
    categorize (some 422) ("ΟΔΟΣ" ++ "REFERENCE ALREADY EXISTS" ++ "Σ") = .conflict := by
  have htold : categorize (some 422) "REFERENCE ALREADY EXISTS" = .conflict := by decide +kernel
  exact ⟨htold, ((wrapping_keeps_kinds (some 422) "REFERENCE ALREADY EXISTS").2.1 "ΟΔΟΣ" "Σ").2.1 htold⟩

end CommentBot.Forge
