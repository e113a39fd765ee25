import CommentBot.Comment.Handler
import CommentBot.Proofs.Forge.Contract

/-!
# What handling a comment asks for

`handle_of_ignored` and `handle_of_heeded`: an event that is dropped asks nothing; any other one asks for its
acknowledgement and goes on with its workflow, whatever the answer was. The exchanges and the end of a run with a
gateway follow (`handle_exchanges`, `handle_run`).
-/

namespace CommentBot.Comment

open Forge Workflow

/-- What becomes of an acknowledgement that was answered. -/
def posted : Answer → Except Failure Completed
  | .ok output => .ok ⟨.postAcknowledgement, output⟩
  | .error error => .error (.ofError .postAcknowledgement error)

namespace Event

variable {σ : Type} {e : Event} {settings : Settings}

/-- The effect that acknowledges a comment. -/
def acknowledging (e : Event) (settings : Settings) : Effect :=
  .postComment e.issue (acknowledgement settings.preamble e.author e.body (Command.classify e.body))

/-- The program of the workflow that a comment asks for. -/
def workflowProgram (e : Event) (settings : Settings) (now : Time.Instant) : Interaction (Option Report) :=
  e.runWorkflow settings now (Command.classify e.body)

theorem handle_of_ignored {reason : IgnoreReason} (h : e.ignoreReason? settings = some reason)
    (now : Time.Instant) : e.handle settings now = .done (.ignored reason) := by
  unfold handle
  rw [h]
  rfl

theorem handle_of_heeded (h : e.ignoreReason? settings = none) (now : Time.Instant) :
    e.handle settings now = .ask (e.acknowledging settings) fun answer =>
      (e.workflowProgram settings now).bind fun report =>
        .done (.processed (Command.classify e.body) (posted answer) report) := by
  unfold handle
  rw [h]
  show Interaction.ask _ _ = Interaction.ask _ _
  congr 1
  funext answer
  cases answer <;> rfl

/-- The acknowledgement comes first, and then what the workflow asks for. -/
theorem handle_exchanges (h : e.ignoreReason? settings = none) (now : Time.Instant) (gateway : Gateway σ)
    (s : σ) : (e.handle settings now).exchanges gateway s =
      ⟨e.acknowledging settings, (gateway (e.acknowledging settings) s).1⟩ ::
        (e.workflowProgram settings now).exchanges gateway (gateway (e.acknowledging settings) s).2 := by
  rw [handle_of_heeded h, Interaction.exchanges_ask, Interaction.exchanges_bind, Interaction.exchanges_done,
    List.append_nil]

/-- The workflow is run to its end, and the event comes out as processed. -/
theorem handle_run (h : e.ignoreReason? settings = none) (now : Time.Instant) (gateway : Gateway σ) (s : σ) :
    (e.handle settings now).run gateway s =
      let (answer, s) := gateway (e.acknowledging settings) s
      let (report, s) := (e.workflowProgram settings now).run gateway s
      (.processed (Command.classify e.body) (posted answer) report, s) := by
  rw [handle_of_heeded h, Interaction.run_ask, Interaction.run_bind, Interaction.run_done]

end Event

end CommentBot.Comment
