import CommentBot.Command
import CommentBot.Forge.Effect

/-!
# Workflows

A workflow is a fixed sequence of steps. Each step asks one effect of the repository.
-/

namespace CommentBot

/-- What a command can set off. -/
inductive Workflow
  /-- Branch off and commit the files. -/
  | createBranch
  /-- Open a pull request from a branch that is there already. -/
  | openPullRequest
  /-- Branch off, open a pull request from the new branch and link it on the thread. -/
  | createBranchAndOpenPullRequest
  deriving DecidableEq, Repr

namespace Workflow

/-- One request of a workflow, or of the handler around it. -/
inductive Step
  | postAcknowledgement
  | getBaseRef
  | createBranchRef
  | createTree
  | getBaseCommit
  | createCommit
  | updateBranchRef
  | createPullRequest
  | postPullRequestLink
  deriving DecidableEq, Repr

namespace Step

/-- All steps. -/
def all : List Step :=
  [postAcknowledgement, getBaseRef, createBranchRef, createTree, getBaseCommit, createCommit,
    updateBranchRef, createPullRequest, postPullRequestLink]

/-- The name of a step. -/
def name : Step → String
  | postAcknowledgement => "post_acknowledgement"
  | getBaseRef => "get_base_ref"
  | createBranchRef => "create_branch_ref"
  | createTree => "create_tree"
  | getBaseCommit => "get_base_commit"
  | createCommit => "create_commit"
  | updateBranchRef => "update_branch_ref"
  | createPullRequest => "create_pull_request"
  | postPullRequestLink => "post_pull_request_link"

/-- The kind of effect that a step asks. -/
def kind : Step → Forge.EffectKind
  | postAcknowledgement => .postComment
  | getBaseRef => .getRef
  | createBranchRef => .createRef
  | createTree => .createTree
  | getBaseCommit => .getCommit
  | createCommit => .createCommit
  | updateBranchRef => .updateRef
  | createPullRequest => .createPullRequest
  | postPullRequestLink => .postComment

end Step

/-- All workflows. -/
def all : List Workflow := [createBranch, openPullRequest, createBranchAndOpenPullRequest]

/-- The name of a workflow. -/
def name : Workflow → String
  | createBranch => "create_branch"
  | openPullRequest => "open_pull_request"
  | createBranchAndOpenPullRequest => "create_branch_and_open_pull_request"

/-- The steps that create a branch. -/
def branchSteps : List Step :=
  [.getBaseRef, .createBranchRef, .createTree, .getBaseCommit, .createCommit, .updateBranchRef]

/-- The steps of a workflow, in order. -/
def steps : Workflow → List Step
  | createBranch => branchSteps
  | openPullRequest => [.createPullRequest]
  | createBranchAndOpenPullRequest => branchSteps ++ [.createPullRequest, .postPullRequestLink]

/-- The workflow that a command sets off, if any. -/
def ofCommand? : Command → Option Workflow
  | .createBranch => some createBranch
  | .createPr => some openPullRequest
  | .testPr => some createBranchAndOpenPullRequest
  | .unrecognized _ => none
  | .absent => none

end Workflow

end CommentBot
