import CommentBot.Comment.Event
import CommentBot.Workflow.Plan

/-!
# Handling a comment

A new comment of a person is acknowledged on its thread, and then the workflow of its command is run. A
failure to acknowledge does not stop the workflow.
-/

namespace CommentBot.Comment

open Forge Workflow

/-- The acknowledgement of a comment: its text in a fenced block, and the command that was found. -/
def acknowledgement (preamble author body : String) (command : Command) : String :=
  preamble ++ "\n" ++ author ++ " said\n```\n" ++ body ++ "\n```\nFound the slash command: `" ++
    command.token ++ "`\n"

/-- What became of an event. -/
inductive Outcome
  | ignored (reason : IgnoreReason)
  | processed (command : Command) (acknowledgement : Except Failure Completed) (report : Option Report)

namespace Outcome

/-- Whether the event was dropped. -/
def isIgnored : Outcome → Bool
  | ignored _ => true
  | processed .. => false

/-- The report of the workflow, if one was run. -/
def report? : Outcome → Option Report
  | ignored _ => none
  | processed _ _ report => report

/-- Why the acknowledgement failed, if it did. -/
def acknowledgementFailure? : Outcome → Option Failure
  | processed _ (.error failure) _ => some failure
  | _ => none

end Outcome

namespace Event

/-- Posts the acknowledgement of a comment. -/
def acknowledge (e : Event) (settings : Settings) (command : Command) :
    Interaction (Except Failure Completed) := do
  let text := acknowledgement settings.preamble e.author e.body command
  match ← Interaction.perform (.postComment e.issue text) with
  | .ok output => return .ok ⟨.postAcknowledgement, output⟩
  | .error error => return .error (.ofError .postAcknowledgement error)

/-- Runs the workflow of a command, if it has one. -/
def runWorkflow (e : Event) (settings : Settings) (now : Time.Instant) (command : Command) :
    Interaction (Option Report) :=
  match ofCommand? command with
  | some workflow => some <$> workflow.run settings.workflow now e.issue
  | none => return none

/-- Handles a comment. Commits bear the date `now`. -/
def handle (e : Event) (settings : Settings) (now : Time.Instant) : Interaction Outcome :=
  match e.ignoreReason? settings with
  | some reason => return .ignored reason
  | none => do
    let command := Command.classify e.body
    let posted ← e.acknowledge settings command
    let report ← e.runWorkflow settings now command
    return .processed command posted report

end Event

end CommentBot.Comment
