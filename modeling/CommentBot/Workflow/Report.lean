import CommentBot.Forge.ApiError
import CommentBot.Forge.Response
import CommentBot.Workflow.Basic

/-!
# Reports

What a run of a workflow did: the steps that were completed, with the answers, and the step at which it
stopped, if it did.
-/

namespace CommentBot.Workflow

open Forge

/-- A step that was completed, with the answer. -/
structure Completed where
  step : Step
  output : Response
  deriving DecidableEq, Repr

/-- The step at which a run stopped, and why. -/
structure Failure where
  step : Step
  kind : ErrorKind
  status : Option UInt16
  message : String
  deriving DecidableEq, Repr

namespace Failure

/-- A step that failed with an error. -/
def ofError (step : Step) (e : ApiError) : Failure := ⟨step, e.kind, e.status, e.message⟩

/-- A step that got an answer of another shape than its own. -/
def ofUnexpected (step : Step) (r : Response) : Failure :=
  ofError step (.invalidResponse s!"{step.name} got an unexpected {r.name} response")

/-- The words for a failure. -/
def text (f : Failure) : String := s!"{f.step.name} failed ({f.kind.text}): {f.message}"

end Failure

/-- What a run did. The completed steps are in order. -/
structure Report where
  workflow : Workflow
  completed : List Completed
  failure : Option Failure
  deriving DecidableEq, Repr

namespace Report

/-- Whether all steps were completed. -/
def succeeded (r : Report) : Bool := r.failure.isNone

/-- The step at which the run stopped, if it did. -/
def failedStep? (r : Report) : Option Step := r.failure.map (·.step)

/-- The steps that were completed. -/
def steps (r : Report) : List Step := r.completed.map (·.step)

/-- The answer to a step, if it was completed. -/
def outputOf? (r : Report) (step : Step) : Option Response :=
  (r.completed.find? (·.step == step)).map (·.output)

end Report

end CommentBot.Workflow
