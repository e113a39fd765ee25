import CommentBot.Proofs.Forge.Contract
import CommentBot.Proofs.Repository.Change
import CommentBot.Workflow.Plan

/-!
# Scripts

A script says in advance what each step of a run will ask of a repository, what it will be answered, and what the
repository will be. A plan that plays a script (`Plan.Plays`), on a repository of which the script holds
(`Script.Holds`), goes as the script says: up to the first step that the script has fail, or to the end
(`Script.carryOut_run`).
-/

namespace CommentBot.Workflow

open Forge

/-- What is said in advance of the steps of a run. -/
structure Script where
  /-- Why the step fails, if it does. -/
  fault? : Step → Option ApiError
  effect : Step → Effect
  /-- The answer to the step, if it does not fail. -/
  answer : Step → Response
  /-- The repository after the steps `completed`, when the steps `asked` have been asked. -/
  state : (completed asked : List Step) → Repository

/-- The plan asks what the script says, step by step, if it is answered as the script says. -/
def Plan.Plays {α : Type} (c : Script) : Plan α → List Step → Prop
  | .done _, steps => steps = []
  | .step s effect next, steps => ∃ payload rest, steps = s :: rest ∧ effect = c.effect s ∧
    c.answer s = effect.kind.shape.response payload ∧ (next payload).Plays c rest

namespace Script

variable (c : Script)

/-- The repository does what the script says of the steps that are left, after the steps `before`. -/
def Holds (before : List Step) : List Step → Prop
  | [] => True
  | step :: rest =>
    (∀ e, c.fault? step = some e → Repository.apply (c.effect step) (c.state before before) =
      (.error e, c.state before (before ++ [step]))) ∧
    (c.fault? step = none → Repository.apply (c.effect step) (c.state before before) =
      (.ok (c.answer step), c.state (before ++ [step]) (before ++ [step])) ∧ Holds (before ++ [step]) rest)

/-- The steps before the first one that fails. -/
def passed (steps : List Step) : List Step := steps.takeWhile fun step => (c.fault? step).isNone

/-- The failure at the first step that fails, if there is one. -/
def failure? (steps : List Step) : Option Failure :=
  steps.findSome? fun step => (c.fault? step).map (.ofError step)

/-- The step with the answer that the script has for it. -/
def completes (step : Step) : Completed := ⟨step, c.answer step⟩

variable {c} {step : Step} {steps : List Step}

theorem passed_of_fault {e : ApiError} (h : c.fault? step = some e) : c.passed (step :: steps) = [] := by
  simp [passed, h]

theorem passed_of_no_fault (h : c.fault? step = none) : c.passed (step :: steps) = step :: c.passed steps := by
  simp [passed, h]

theorem failure?_of_fault {e : ApiError} (h : c.fault? step = some e) :
    c.failure? (step :: steps) = some (.ofError step e) := by
  simp [failure?, h]

theorem failure?_of_no_fault (h : c.fault? step = none) : c.failure? (step :: steps) = c.failure? steps := by
  simp [failure?, h]

theorem failure?_eq_none_iff : c.failure? steps = none ↔ ∀ step ∈ steps, c.fault? step = none := by
  simp [failure?, List.findSome?_eq_none_iff]

/-- A plan that plays a script comes to what the script says, on a repository of which it holds. -/
theorem carryOut_run {α : Type} {p : Plan α} {before : List Step} (hp : p.Plays c steps)
    (hc : c.Holds before steps) (completed : List Completed) :
    (p.carryOut completed).run Repository.apply (c.state before before) =
      ((completed ++ (c.passed steps).map c.completes, c.failure? steps),
        c.state (before ++ c.passed steps) (before ++ steps.take ((c.passed steps).length + 1))) := by
  induction steps generalizing p before completed with
  | nil =>
    cases p with
    | done a => simp [Plan.carryOut, passed, failure?]
    | step s effect next =>
      obtain ⟨payload, rest, hsteps, -⟩ := hp
      cases hsteps
  | cons step rest ih =>
    cases p with
    | done a => cases hp
    | step s effect next =>
      obtain ⟨payload, rest', hsteps, rfl, hanswer, hnext⟩ := hp
      obtain ⟨rfl, rfl⟩ := List.cons.inj hsteps
      rw [Plan.carryOut, Interaction.run_ask]
      -- a fault ends the run here; without one the rest runs from the next state of the script
      cases hfault : c.fault? step with
      | some e =>
        rw [hc.1 e hfault, passed_of_fault hfault, failure?_of_fault hfault]
        simp
      | none =>
        obtain ⟨happly, hrest⟩ := hc.2 hfault
        rw [happly, passed_of_no_fault hfault, failure?_of_no_fault hfault]
        rw [hanswer]
        simp only [Response.as?_response]
        rw [ih hnext hrest, ← hanswer]
        simp [completes]

end Script

end CommentBot.Workflow
