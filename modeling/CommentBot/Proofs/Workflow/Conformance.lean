import CommentBot.Proofs.Forge.Contract
import CommentBot.Workflow.Plan
import Mathlib.Data.List.Forall2

/-!
# Runs follow the steps of their workflow

A run goes through the steps of its workflow in order, asks one effect for each, and stops at the first answer
that does not do: an error, or an answer of another shape. Its report tells just that.

1. A plan follows steps if it asks an effect of the right kind for each (`Plan.Follows`); the plan of a
   workflow follows the steps of the workflow (`plan_follows`).
2. Carrying out such a plan meets a contract (`Plan.carryOut_meets`): after any exchanges the report is the one
   that these exchanges call for (`Conforms`).
3. `run_follows_steps` reads off what a whole run does with any gateway.
-/

namespace CommentBot.Forge

open Workflow

/-! ## What an exchange comes to -/

/-- The exchange completes the step: it asked an effect of its kind and got an answer of the right shape. -/
structure Exchange.Completes (x : Exchange) (c : Completed) : Prop where
  kind : x.effect.kind = c.step.kind
  answer : x.answer = .ok c.output
  shape : c.output.shape = x.effect.kind.shape

/-- The exchange is what the failure tells: an error of the gateway, or an answer of another shape. -/
structure Exchange.Blames (x : Exchange) (f : Failure) : Prop where
  kind : x.effect.kind = f.step.kind
  reason : (∃ e, x.answer = .error e ∧ f = .ofError f.step e) ∨
    ∃ response, x.answer = .ok response ∧ response.shape ≠ x.effect.kind.shape ∧
      f = .ofUnexpected f.step response

end CommentBot.Forge

namespace CommentBot.Workflow

open Forge Git

/-- What a report says of the exchanges `past` of a run through `steps`: either all steps were completed, or
the last exchange failed at the step behind the completed ones. -/
inductive Conforms (steps : List Step) : List Exchange → List Completed → Option Failure → Prop
  | finished {past completed} (passed : List.Forall₂ Exchange.Completes past completed)
      (all : steps = completed.map (·.step)) : Conforms steps past completed none
  | stopped {past completed x f rest} (passed : List.Forall₂ Exchange.Completes past completed)
      (blames : Exchange.Blames x f) (cut : steps = completed.map (·.step) ++ f.step :: rest) :
      Conforms steps (past ++ [x]) completed (some f)

/-- After the exchanges `past` the run is about to do a step for which it asks `effect`. -/
def AtStep (steps : List Step) (past : List Exchange) (effect : Effect) : Prop :=
  ∃ completed step rest, List.Forall₂ Exchange.Completes past completed ∧
    steps = completed.map (·.step) ++ step :: rest ∧ effect.kind = step.kind

/-- The contract of a plan that goes through `steps` and asks only what `asks` allows. -/
def stepContract (steps : List Step) (asks : List Exchange → Effect → Prop) : Contract Plan.Result where
  asks past effect := AtStep steps past effect ∧ asks past effect
  ends past result := Conforms steps past result.1 result.2

namespace Plan

variable {α β : Type}

/-! ## Plans that follow steps -/

/-- The plan asks one effect for each of the steps, of the kind that belongs to it. -/
def Follows : Plan α → List Step → Prop
  | done _, steps => steps = []
  | .step s effect next, steps =>
    ∃ rest, steps = s :: rest ∧ effect.kind = s.kind ∧ ∀ payload, (next payload).Follows rest

/-- The plan asks only what `asks` allows, as long as it gets answers of the right shapes. -/
def Keeps (asks : List Exchange → Effect → Prop) : Plan α → List Exchange → Prop
  | done _, _ => True
  | .step _ effect next, past =>
    asks past effect ∧
      ∀ payload, (next payload).Keeps asks (past ++ [⟨effect, .ok (effect.kind.shape.response payload)⟩])

theorem Follows.bind {p : Plan α} {f : α → Plan β} {steps more : List Step} (h : p.Follows steps)
    (hf : ∀ a, (f a).Follows more) : (p.bind f).Follows (steps ++ more) := by
  induction p generalizing steps with
  | done a =>
    rw [show steps = [] from h]
    exact hf a
  | step s effect next ih =>
    obtain ⟨rest, rfl, hkind, hnext⟩ := h
    exact ⟨rest ++ more, rfl, hkind, fun payload => ih payload (hnext payload)⟩

/-- A plan may ask anything if nothing is forbidden. -/
theorem keeps_true (p : Plan α) (past : List Exchange) : p.Keeps (fun _ _ => True) past := by
  induction p generalizing past with
  | done a => trivial
  | step s effect next ih => exact ⟨trivial, fun payload => ih payload _⟩

/-! ## Carrying out -/

/-- Carrying out the rest of a plan keeps the contract of its steps. -/
theorem carryOut_meets {steps : List Step} {asks : List Exchange → Effect → Prop} (p : Plan α)
    {past : List Exchange} {completed : List Completed} {todo : List Step} (hp : p.Follows todo)
    (ha : p.Keeps asks past) (passed : List.Forall₂ Exchange.Completes past completed)
    (hs : steps = completed.map (·.step) ++ todo) :
    (p.carryOut completed).Meets (stepContract steps asks) past := by
  induction p generalizing past completed todo with
  | done a =>
    rw [show todo = [] from hp, List.append_nil] at hs
    exact .finished passed hs
  | step s effect next ih =>
    obtain ⟨rest, rfl, hkind, hnext⟩ := hp
    rw [carryOut, Interaction.Meets]
    refine ⟨⟨⟨completed, s, rest, passed, hs, hkind⟩, ha.1⟩, fun answer => ?_⟩
    cases answer with
    | error e => exact .stopped passed ⟨hkind, .inl ⟨e, rfl, rfl⟩⟩ hs
    | ok response =>
      dsimp only
      split
      next payload hread =>
        obtain rfl := Response.eq_response_of_as? hread
        refine ih payload (hnext payload) (ha.2 payload) ?_ ?_
        · exact List.rel_append passed (.cons ⟨hkind, rfl, Shape.shape_response _ _⟩ .nil)
        · rw [hs, List.map_append, List.append_assoc]
          rfl
      next hread =>
        exact .stopped passed ⟨hkind, .inr ⟨response, rfl, Response.shape_ne_of_as? hread, rfl⟩⟩ hs

end Plan

/-! ## The plans of the workflows -/

variable (settings : Settings) (now : Time.Instant) (issue : IssueNumber) (w : Workflow)

theorem branchPlan_follows : (branchPlan settings now).Follows branchSteps :=
  ⟨_, rfl, rfl, fun _ => ⟨_, rfl, rfl, fun _ => ⟨_, rfl, rfl, fun _ => ⟨_, rfl, rfl, fun _ =>
    ⟨_, rfl, rfl, fun _ => ⟨_, rfl, rfl, fun _ => rfl⟩⟩⟩⟩⟩⟩

theorem plan_follows : (plan settings now issue w).Follows w.steps := by
  cases w with
  | createBranch => exact (branchPlan_follows settings now).bind fun _ => rfl
  | openPullRequest => exact ⟨_, rfl, rfl, fun _ => rfl⟩
  | createBranchAndOpenPullRequest =>
    exact (branchPlan_follows settings now).bind fun _ =>
      ⟨_, rfl, rfl, fun _ => ⟨_, rfl, rfl, fun _ => rfl⟩⟩

/-- The contract of the runs of a workflow whose plan asks only what `asks` allows. -/
def runContract (w : Workflow) (asks : List Exchange → Effect → Prop) : Contract Report where
  asks past effect := AtStep w.steps past effect ∧ asks past effect
  ends past report := report.workflow = w ∧ Conforms w.steps past report.completed report.failure

/-- A run goes through the steps of its workflow and reports what came of them. -/
theorem run_meets {asks : List Exchange → Effect → Prop}
    (ha : (plan settings now issue w).Keeps asks []) :
    (w.run settings now issue).Meets (runContract w asks) [] := by
  have hplan := Plan.carryOut_meets (plan settings now issue w) (plan_follows settings now issue w) ha
    .nil (List.nil_append w.steps).symm
  refine Interaction.Meets.bind hplan fun past result hresult => ?_
  exact ⟨rfl, hresult⟩

/-! ## What a report tells -/

section Passed

variable {past : List Exchange} {completed : List Completed}
  (h : List.Forall₂ Exchange.Completes past completed)

include h

theorem kinds_of_passed : past.map (·.effect.kind) = (completed.map (·.step)).map (·.kind) := by
  induction h with
  | nil => rfl
  | cons hx _ ih => rw [List.map_cons, hx.kind, ih]; rfl

theorem answers_of_passed : past.map (·.answer) = completed.map fun c => .ok c.output := by
  induction h with
  | nil => rfl
  | cons hx _ ih => rw [List.map_cons, List.map_cons, hx.answer, ih]

theorem answered_of_passed {x : Exchange} (hx : x ∈ past) : x.Answered := by
  induction h with
  | nil => cases hx
  | cons hy _ ih =>
    cases hx with
    | head => exact ⟨_, hy.answer, hy.shape⟩
    | tail _ hx => exact ih hx

end Passed

/-- What a failure tells of the exchange that it comes from. -/
def Failure.Tells (f : Failure) (x : Exchange) : Prop :=
  (∃ e, x.answer = .error e ∧ f.kind = e.kind ∧ f.status = e.status ∧ f.message = e.message) ∨
    ∃ response, x.answer = .ok response ∧ response.shape ≠ x.effect.kind.shape ∧
      f.kind = .invalidResponse ∧ f.status = none

theorem Failure.tells_of_blames {x : Exchange} {f : Failure} (h : x.Blames f) : f.Tells x := by
  rcases h.reason with ⟨e, he, hf⟩ | ⟨response, hr, hshape, hf⟩
  · exact .inl ⟨e, he, by rw [hf]; exact ⟨rfl, rfl, rfl⟩⟩
  · exact .inr ⟨response, hr, hshape, by rw [hf]; exact ⟨rfl, rfl⟩⟩

namespace Conforms

variable {steps : List Step} {past : List Exchange} {completed : List Completed} {failure : Option Failure}
  (h : Conforms steps past completed failure)

include h

theorem take_passed : List.Forall₂ Exchange.Completes (past.take completed.length) completed := by
  cases h with
  | finished passed all => rwa [← passed.length_eq, List.take_length]
  | stopped passed blames cut => rwa [← passed.length_eq, List.take_left]

theorem length_le : completed.length ≤ steps.length := by
  cases h with
  | finished passed all => simp [all]
  | stopped passed blames cut => simp [cut]

/-- The completed steps are the first ones. -/
theorem steps_eq : completed.map (·.step) = steps.take completed.length := by
  cases h with
  | finished passed all => rw [all, ← List.length_map (·.step), List.take_length]
  | stopped passed blames cut => rw [cut, ← List.length_map (·.step), List.take_left]

/-- There is a failure exactly if a step is left. -/
theorem failure_eq_none_iff : failure = none ↔ completed.length = steps.length := by
  cases h with
  | finished passed all => simp [all]
  | stopped passed blames cut => simp [cut]

/-- The failure is at the next step. -/
theorem failed_eq : failure.map (·.step) = steps[completed.length]? := by
  cases h with
  | finished passed all => simp [all]
  | stopped passed blames cut => simp [cut]

/-- One effect was asked for each completed step, and one for the failure. -/
theorem length_eq : past.length = if failure.isNone then completed.length else completed.length + 1 := by
  cases h with
  | finished passed all => exact passed.length_eq
  | stopped passed blames cut => rw [List.length_append, passed.length_eq]; rfl

/-- The effects were those of the steps, in order. -/
theorem kinds_eq : past.map (·.effect.kind) = (steps.take past.length).map (·.kind) := by
  cases h with
  | finished passed all =>
    rw [kinds_of_passed passed, all, passed.length_eq, ← List.length_map (·.step), List.take_length]
  | @stopped past completed x f rest passed blames cut =>
    have hlen : (past ++ [x]).length = (completed.map (·.step)).length + 1 := by
      rw [List.length_append, passed.length_eq, List.length_map]
      rfl
    rw [List.map_append, kinds_of_passed passed, hlen, cut, List.take_length_add_append, List.map_append]
    simp [blames.kind]

/-- The failure comes from the exchange behind those of the completed steps. -/
theorem tells {f : Failure} (hf : failure = some f) : ∃ x, past[completed.length]? = some x ∧ f.Tells x := by
  cases h with
  | finished passed all => cases hf
  | @stopped past completed x f rest passed blames cut =>
    obtain rfl := Option.some.inj hf
    exact ⟨x, by rw [← passed.length_eq, List.getElem?_concat_length], Failure.tells_of_blames blames⟩

end Conforms

theorem nodup_steps : w.steps.Nodup := by cases w <;> decide

/-- No two steps of a workflow ask the same kind of effect. -/
theorem nodup_kinds : (w.steps.map (·.kind)).Nodup := by cases w <;> decide

/-- **A run follows its steps.** With any gateway a run completes the first `k` steps of its workflow, each
once. It fails exactly if a step is left, and then at the next one. The gateway is asked one effect for each of
these steps, in order and of its kind, and nothing behind the failure. The outputs are the answers, and the
failure tells the error that the gateway gave, or that the answer had another shape. -/
theorem run_follows_steps {σ : Type} (gateway : Gateway σ) (s : σ) :
    let report := ((w.run settings now issue).run gateway s).1
    let calls := (w.run settings now issue).exchanges gateway s
    ∃ k ≤ w.steps.length,
      report.workflow = w ∧ report.steps = w.steps.take k ∧ report.steps.Nodup ∧
      (report.failure = none ↔ k = w.steps.length) ∧ report.failedStep? = w.steps[k]? ∧
      calls.length = (if report.succeeded then k else k + 1) ∧
      calls.map (·.effect.kind) = (w.steps.take calls.length).map (·.kind) ∧
      (calls.take k).map (·.answer) = (report.completed.map fun c => .ok c.output) ∧
      (∀ x ∈ calls.take k, x.Answered) ∧
      ∀ f, report.failure = some f → ∃ x, calls[k]? = some x ∧ f.Tells x := by
  have hstart := Interaction.Underway.start (run_meets settings now issue w (Plan.keeps_true _ _))
  obtain ⟨hw, hc⟩ := (hstart.run gateway s).meets
  rw [List.nil_append] at hc
  intro report calls
  refine ⟨report.completed.length, hc.length_le, hw, hc.steps_eq, ?_, hc.failure_eq_none_iff, hc.failed_eq,
    hc.length_eq, hc.kinds_eq, answers_of_passed hc.take_passed, fun x => answered_of_passed hc.take_passed,
    fun f => hc.tells⟩
  rw [show report.steps = _ from hc.steps_eq]
  exact (nodup_steps w).sublist (List.take_sublist _ _)

end CommentBot.Workflow
