import CommentBot.Forge.Interaction
import CommentBot.Workflow.Report
import CommentBot.Workflow.Settings

/-!
# Plans

A plan is a workflow as data: steps that ask effects, each going on with what the answer holds. Carrying a
plan out (`Plan.carryOut`) stops at the first step that fails or is answered in the wrong shape.
-/

namespace CommentBot.Workflow

open Forge Git

/-- Steps to be carried out, with a value at the end. -/
inductive Plan (α : Type)
  | done (a : α)
  | step (step : Step) (effect : Effect) (next : effect.kind.shape.Payload → Plan α)

namespace Plan

variable {α β : Type}

/-- Goes on with another plan. -/
protected def bind : Plan α → (α → Plan β) → Plan β
  | done a, f => f a
  | .step s effect next, f => .step s effect fun payload => (next payload).bind f

instance : Monad Plan where
  pure := done
  bind := Plan.bind

/-- A single step. -/
def ask (step : Step) (effect : Effect) : Plan effect.kind.shape.Payload := .step step effect done

/-- What a run has come to: the completed steps, and the failure that ended it. -/
abbrev Result := List Completed × Option Failure

/-- Carries out a plan after the steps `completed`. -/
def carryOut (completed : List Completed) : Plan α → Interaction Result
  | done _ => .done (completed, none)
  | .step s effect next => .ask effect fun answer =>
    match answer with
    | .error e => .done (completed, some (.ofError s e))
    | .ok response =>
      match response.as? effect.kind.shape with
      | some payload => (next payload).carryOut (completed ++ [⟨s, response⟩])
      | none => .done (completed, some (.ofUnexpected s response))

end Plan

/-! ## The plans of the workflows -/

/-- Creates the bot's branch at the tip of the base branch, and moves it to a commit that adds the files.
The commit stands for its tree. -/
def branchPlan (settings : Settings) (now : Time.Instant) : Plan ObjectId := do
  let base : Reference ← .ask .getBaseRef (.getRef settings.baseRef)
  let _ : Reference ← .ask .createBranchRef (.createRef settings.fullBotRef base.target)
  let tree : ObjectId ← .ask .createTree (.createTree base.target settings.treeEntries)
  let parent : Commit ← .ask .getBaseCommit (.getCommit base.target)
  let created : Commit ← .ask .createCommit
    (.createCommit settings.commitMessage ⟨settings.authorName, settings.authorEmail, now⟩ tree [parent.id])
  let _ : Reference ← .ask .updateBranchRef (.updateRef settings.botRef created.id true)
  return created.id

/-- Opens a pull request from a branch. -/
def pullRequestPlan (settings : Settings) (head : String) : Plan PullRequest :=
  .ask .createPullRequest (.createPullRequest
    ⟨settings.pullRequestTitle, head, settings.baseBranch, settings.pullRequestBody⟩)

/-- The comment that links a pull request. -/
def linkText (p : PullRequest) : String := s!"Opened pull request {p.number.text}: {p.url}"

/-- Links a pull request on a thread. -/
def linkPlan (issue : IssueNumber) (p : PullRequest) : Plan CommentId :=
  .ask .postPullRequestLink (.postComment issue (linkText p))

/-- The plan of a workflow that was asked for on a thread. -/
def plan (settings : Settings) (now : Time.Instant) (issue : IssueNumber) : Workflow → Plan Unit
  | createBranch => do
    let _ ← branchPlan settings now
    return ()
  | openPullRequest => do
    let _ ← pullRequestPlan settings settings.headBranch
    return ()
  | createBranchAndOpenPullRequest => do
    let _ ← branchPlan settings now
    let opened ← pullRequestPlan settings settings.botBranch
    let _ ← linkPlan issue opened
    return ()

/-- Runs a workflow that was asked for on a thread. Commits bear the date `now`. -/
def run (settings : Settings) (now : Time.Instant) (issue : IssueNumber) (workflow : Workflow) :
    Interaction Report := do
  let (completed, failure) ← (plan settings now issue workflow).carryOut []
  return ⟨workflow, completed, failure⟩

end CommentBot.Workflow
