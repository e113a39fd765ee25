import CommentBot.Proofs.Workflow.Conformance

/-!
# Runs that are told other ids of comments

A workflow makes nothing of the ids of comments that it is told; it only reports them.

1. `later`: answers, exchanges and reports with the ids of comments some numbers larger.
2. `Interaction.Parallel`: two programs that ask the same, if the one is told ids that are larger than those that the
   other one is told. Parallel programs have parallel runs (`Parallel.run`).
3. `run_parallel`: a workflow is parallel to itself, and the reports differ in the id of the link only.
-/

namespace CommentBot.Forge

/-! ## Later ids -/

/-- What an answer of a shape holds, with the id of a comment `k` larger. -/
def Shape.later (k : Nat) : (shape : Shape) → shape.Payload → shape.Payload
  | .ref, r => r
  | .tree, id => id
  | .commit, c => c
  | .pullRequest, p => p
  | .commentPosted, id => ⟨id.value + UInt64.ofNat k⟩

/-- The response with the id of a comment `k` larger. -/
def Response.later (k : Nat) : Response → Response
  | .commentPosted id => .commentPosted ⟨id.value + UInt64.ofNat k⟩
  | response => response

theorem Response.as?_later (k : Nat) (response : Response) (shape : Shape) :
    (response.later k).as? shape = (response.as? shape).map (shape.later k) := by
  cases response <;> cases shape <;> rfl

theorem Response.later_of_shape {response : Response} (h : response.shape ≠ .commentPosted) (k : Nat) :
    response.later k = response := by
  cases response with
  | commentPosted id => exact absurd rfl h
  | _ => rfl

theorem Response.name_later (k : Nat) (response : Response) : (response.later k).name = response.name := by
  cases response <;> rfl

/-- The answer with the id of a comment `k` larger. -/
def laterAnswer (k : Nat) (answer : Answer) : Answer := answer.map (Response.later k)

@[simp] theorem laterAnswer_ok (k : Nat) (response : Response) :
    laterAnswer k (.ok response) = .ok (response.later k) := rfl

/-- The same effect, with the answer `k` later. -/
def Exchange.later (k : Nat) (x : Exchange) : Exchange := ⟨x.effect, laterAnswer k x.answer⟩

/-! ## Parallel programs -/

namespace Interaction

variable {α β σ : Type} {k : Nat}

/-- Programs that ask the same effects and come to ends that `R` relates, if the first one is told ids of comments that
are `k` larger. -/
inductive Parallel (k : Nat) (R : α → α → Prop) : Interaction α → Interaction α → Prop
  | done {a₁ a₂} (h : R a₁ a₂) : Parallel k R (.done a₁) (.done a₂)
  | ask {effect next₁ next₂} (h : ∀ answer, Parallel k R (next₁ (laterAnswer k answer)) (next₂ answer)) :
      Parallel k R (.ask effect next₁) (.ask effect next₂)

namespace Parallel

variable {R : α → α → Prop} {S : β → β → Prop} {p₁ p₂ : Interaction α}

theorem bind (h : Parallel k R p₁ p₂) {f₁ f₂ : α → Interaction β}
    (hf : ∀ a₁ a₂, R a₁ a₂ → Parallel k S (f₁ a₁) (f₂ a₂)) : Parallel k S (p₁.bind f₁) (p₂.bind f₂) := by
  induction h with
  | done h => exact hf _ _ h
  | ask _ ih => exact .ask ih

/-- What a gateway keeps of two states with each answer, whole runs of parallel programs keep. -/
theorem run (h : Parallel k R p₁ p₂) {gateway : Gateway σ} (Ahead : σ → σ → Prop)
    (hstep : ∀ effect s₁ s₂, Ahead s₁ s₂ → (gateway effect s₁).1 = laterAnswer k (gateway effect s₂).1 ∧
      Ahead (gateway effect s₁).2 (gateway effect s₂).2) {s₁ s₂ : σ} (hs : Ahead s₁ s₂) :
    R (p₁.run gateway s₁).1 (p₂.run gateway s₂).1 ∧ Ahead (p₁.run gateway s₁).2 (p₂.run gateway s₂).2 ∧
      p₁.exchanges gateway s₁ = (p₂.exchanges gateway s₂).map (Exchange.later k) := by
  induction h generalizing s₁ s₂ with
  | done h => exact ⟨h, hs, rfl⟩
  | @ask effect next₁ next₂ _ ih =>
    obtain ⟨hanswer, hs'⟩ := hstep effect s₁ s₂ hs
    obtain ⟨hend, hstate, hexchanges⟩ := ih (gateway effect s₂).1 hs'
    rw [run_ask, run_ask, exchanges_ask, exchanges_ask, hanswer, List.map_cons, hexchanges]
    exact ⟨hend, hstate, rfl⟩

end Parallel

end Interaction

end CommentBot.Forge

namespace CommentBot.Workflow

open Forge

/-! ## Reports -/

/-- The completed step with the id of the link `k` larger, if it is the one that posts the link. -/
def Completed.later (k : Nat) (c : Completed) : Completed :=
  if c.step = .postPullRequestLink then ⟨c.step, c.output.later k⟩ else c

/-- The report with the id of the link `k` larger. -/
def Report.later (k : Nat) (r : Report) : Report := { r with completed := r.completed.map (Completed.later k) }

theorem Completed.later_eq {k : Nat} {c : Completed}
    (h : c.output.shape = .commentPosted → c.step = .postPullRequestLink) :
    c.later k = ⟨c.step, c.output.later k⟩ := by
  unfold Completed.later
  split
  · rfl
  · next hstep => rw [Response.later_of_shape (mt h hstep)]

/-! ## Plans -/

namespace Plan

variable {α β : Type}

/-- The plan posts nothing but the link, and goes on in the same way whatever the id of a comment is. -/
def Blind : Plan α → Prop
  | done _ => True
  | .step s effect next => (effect.kind.shape = .commentPosted → s = .postPullRequestLink) ∧
    ∀ payload, (next payload).Blind ∧ ∀ k, next (effect.kind.shape.later k payload) = next payload

theorem Blind.bind {p : Plan α} {f : α → Plan β} (h : p.Blind) (hf : ∀ a, (f a).Blind) : (p.bind f).Blind := by
  induction p with
  | done a => exact hf a
  | step s effect next ih =>
    exact ⟨h.1, fun payload => ⟨ih payload (h.2 payload).1, fun k => congrArg (·.bind f) ((h.2 payload).2 k)⟩⟩

/-- What a result of a run comes to when the id of the link is `k` larger. -/
def laterResult (k : Nat) (result : Result) : Result := (result.1.map (Completed.later k), result.2)

/-- Carrying out a plan that makes nothing of the ids of comments goes the same way whatever they are. -/
theorem Blind.carryOut_parallel {p : Plan α} (h : p.Blind) (k : Nat) (completed : List Completed) :
    Interaction.Parallel k (fun result₁ result₂ => result₁ = laterResult k result₂)
      (p.carryOut (completed.map (Completed.later k))) (p.carryOut completed) := by
  induction p generalizing completed with
  | done a => exact .done rfl
  | step s effect next ih =>
    rw [carryOut, carryOut]
    refine .ask fun answer => ?_
    cases answer with
    | error e => exact .done rfl
    | ok response =>
      rw [laterAnswer_ok]
      dsimp only
      rw [Response.as?_later]
      cases hread : response.as? effect.kind.shape with
      | none =>
        rw [Option.map_none]
        refine .done ?_
        rw [Failure.ofUnexpected, Response.name_later]
        rfl
      | some payload =>
        obtain ⟨hnext, hsame⟩ := h.2 payload
        have hshape : response.shape = effect.kind.shape := by
          rw [Response.eq_response_of_as? hread, Shape.shape_response]
        have hlater : Completed.later k ⟨s, response⟩ = ⟨s, response.later k⟩ :=
          Completed.later_eq fun hposted => h.1 (hshape.symm.trans hposted)
        rw [Option.map_some]
        dsimp only
        rw [hsame k, ← hlater, ← List.map_singleton (f := Completed.later k), ← List.map_append]
        exact ih payload hnext _

end Plan

variable (settings : Settings) (now : Time.Instant) (issue : IssueNumber) (w : Workflow)

theorem branchPlan_blind : (branchPlan settings now).Blind :=
  ⟨nofun, fun _ => ⟨⟨nofun, fun _ => ⟨⟨nofun, fun _ => ⟨⟨nofun, fun _ => ⟨⟨nofun, fun _ => ⟨⟨nofun, fun _ =>
    ⟨trivial, fun _ => rfl⟩⟩, fun _ => rfl⟩⟩, fun _ => rfl⟩⟩, fun _ => rfl⟩⟩, fun _ => rfl⟩⟩, fun _ => rfl⟩⟩

theorem plan_blind : (plan settings now issue w).Blind := by
  cases w with
  | createBranch => exact (branchPlan_blind settings now).bind fun _ => trivial
  | openPullRequest => exact ⟨nofun, fun _ => ⟨trivial, fun _ => rfl⟩⟩
  | createBranchAndOpenPullRequest =>
    exact (branchPlan_blind settings now).bind fun _ =>
      ⟨nofun, fun _ => ⟨⟨fun _ => rfl, fun _ => ⟨trivial, fun _ => rfl⟩⟩, fun _ => rfl⟩⟩

/-- **A workflow makes nothing of the ids of comments.** Told larger ones, it asks the same, and its report differs in
the id of the link only. -/
theorem run_parallel (k : Nat) : Interaction.Parallel k (fun report₁ report₂ => report₁ = Report.later k report₂)
    (w.run settings now issue) (w.run settings now issue) := by
  have hplan := (plan_blind settings now issue w).carryOut_parallel k []
  refine Interaction.Parallel.bind hplan fun result₁ result₂ hresult => .done ?_
  subst hresult
  rfl

end CommentBot.Workflow
