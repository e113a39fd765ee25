import CommentBot.Proofs.Comment.Handling
import CommentBot.Proofs.Repository.Comments

/-!
# What a workflow knows of its comment

A comment chooses a workflow and a thread, and that is all of it that reaches the repository: the acknowledgement,
which quotes the comment, is a comment itself, and workflows make nothing of those.

`handled_as_workflow`: handling a comment leaves what running its workflow leaves, and reports what that reports but for
the id of the link; comments on one thread with one command leave and report the same.
-/

namespace CommentBot.Comment.Event

open Forge Workflow

variable {settings : Settings} {e : Event} {w : Workflow}

theorem workflowProgram_of_command (hw : ofCommand? (Command.classify e.body) = some w) (now : Time.Instant) :
    e.workflowProgram settings now =
      (w.run settings.workflow now e.issue).bind fun report => .done (some report) := by
  unfold workflowProgram runWorkflow
  rw [hw]
  rfl

/-- To handle a comment is to post its acknowledgement and to run its workflow. -/
theorem handle_run_of_command (heeded : e.ignoreReason? settings = none)
    (hw : ofCommand? (Command.classify e.body) = some w) (now : Time.Instant) (r : Repository) :
    (e.handle settings now).run Repository.apply r =
      let acknowledged := Repository.apply (e.acknowledging settings) r
      let run := (w.run settings.workflow now e.issue).run Repository.apply acknowledged.2
      (.processed (Command.classify e.body) (posted acknowledged.1) (some run.1), run.2) := by
  rw [handle_run heeded, workflowProgram_of_command hw]
  dsimp only
  rw [Interaction.run_bind]
  rfl

/-- Behind its acknowledgement a comment is handled as its workflow alone is run. -/
theorem run_after_acknowledgement (settings : Settings) (now : Time.Instant) (r : Repository) (e : Event)
    (w : Workflow) :
    let acknowledged := Repository.apply (e.acknowledging settings) r
    let run := (w.run settings.workflow now e.issue).run Repository.apply acknowledged.2
    let direct := (w.run settings.workflow now e.issue).run Repository.apply r
    run.1 = direct.1.later (if (r.failures.get? .postComment).isNone then 1 else 0) ∧
      run.2.contents = direct.2.contents := by
  have hahead := Repository.ahead_postComment r e.issue
    (acknowledgement settings.preamble e.author e.body (Command.classify e.body))
  obtain ⟨hreport, hstate, -⟩ := hahead.run (run_parallel settings.workflow now e.issue w _)
  exact ⟨hreport, hstate.contents_eq⟩

/-- **A workflow knows its comment by the command and the thread only.** Handling a comment leaves the references,
trees, commits and pull requests that running its workflow leaves. The report is that of the workflow, with the id of
the link one larger if the acknowledgement was posted, and as it is if not. So another comment on the same thread with
the same command, whatever else it says and wherever it comes from, leaves and reports the same. -/
theorem handled_as_workflow (settings : Settings) (now : Time.Instant) (r : Repository) (e : Event) (w : Workflow)
    (heeded : e.ignoreReason? settings = none) (hw : ofCommand? (Command.classify e.body) = some w) :
    let handled := (e.handle settings now).run Repository.apply r
    let direct := (w.run settings.workflow now e.issue).run Repository.apply r
    let answer := (Repository.apply (e.acknowledging settings) r).1
    handled.2.contents = direct.2.contents ∧
      handled.1 = .processed (Command.classify e.body) (posted answer)
        (some (direct.1.later (if answer.isOk then 1 else 0))) ∧
      ∀ e' : Event, e'.ignoreReason? settings = none → e'.issue = e.issue →
        Command.classify e'.body = Command.classify e.body →
        let handled' := (e'.handle settings now).run Repository.apply r
        handled'.2.contents = handled.2.contents ∧ handled'.1.report? = handled.1.report? := by
  intro handled direct answer
  obtain ⟨hreport, hcontents⟩ := run_after_acknowledgement settings now r e w
  have hhandled : handled = _ := handle_run_of_command heeded hw now r
  refine ⟨?_, ?_, fun e' heeded' hissue hcommand => ?_⟩
  · rw [hhandled]
    exact hcontents
  · have hposted : answer.isOk = (r.failures.get? .postComment).isNone := Repository.isOk_postComment r e.issue _
    rw [hhandled, hposted, ← hreport]
  · obtain ⟨hreport', hcontents'⟩ := run_after_acknowledgement settings now r e' w
    rw [hissue] at hreport' hcontents'
    dsimp only
    rw [hhandled, handle_run_of_command heeded' (hcommand ▸ hw) now r, hissue]
    exact ⟨hcontents'.trans hcontents.symm, congrArg some (hreport'.trans hreport.symm)⟩

/-- A comment that asks for a branch and a pull request. -/
def asking : Event where
  repo := ⟨"ann", "tools"⟩
  action := .created
  issue := ⟨7⟩
  isPullRequest := false
  id := ⟨1⟩
  body := "/testpr"
  author := "ann"
  installation := none

/-- The same thread and the same command, and all else is another comment. -/
def insisting : Event where
  repo := ⟨"ben", "shop"⟩
  action := .created
  issue := ⟨7⟩
  isPullRequest := true
  id := ⟨2⟩
  body := "/testpr at last, or `main` is deleted!"
  author := "ben"
  installation := some ⟨5⟩

/-- Both comments leave and report the same, though the acknowledgement fails. -/
theorem insisting_as_asking :
    let r := (Repository.withBranch "main").failOn .postComment (.ofStatus 503 "down")
    let asked := (asking.handle {} .epoch).run Repository.apply r
    let insisted := (insisting.handle {} .epoch).run Repository.apply r
    insisted.2.contents = asked.2.contents ∧ insisted.1.report? = asked.1.report? := by
  intro r
  exact (handled_as_workflow {} .epoch r asking .createBranchAndOpenPullRequest (by decide) (by decide)).2.2 insisting
    (by decide) rfl (by decide)

end CommentBot.Comment.Event
