import CommentBot.Comment.Handler
import CommentBot.Workflow.Codec

/-!
# Comment events and outcomes as JSON
-/

namespace CommentBot.Comment

open Json Forge

/-- An action as its name, or as a member that holds the name if it is another one. -/
def Action.encode : Action → Value
  | created => .string "created"
  | edited => .string "edited"
  | deleted => .string "deleted"
  | other name => .object [("other", .string name)]

/-- Reads an action. -/
def Action.decode : Decoder Action :=
  .choice [("created", .bare "unit" created), ("edited", .bare "unit" edited),
    ("deleted", .bare "unit" deleted), ("other", .carrying (.map other .string))]

/-- The members of an event. -/
def Event.members (e : Event) : List (String × Value) :=
  [("repo", e.repo.encode), ("action", e.action.encode), ("issue_number", e.issue.encode),
    ("is_pull_request", .bool e.isPullRequest), ("comment_id", e.id.encode), ("body", .string e.body),
    ("author_login", .string e.author), ("installation_id", .ofOption InstallationId.encode e.installation)]

/-- An event as a record, under the name of what it is about. -/
def Event.encode (e : Event) : Value := .object [("IssueComment", .object e.members)]

/-- Reads an event. -/
def Event.decode : Decoder Event :=
  .choice [("IssueComment", .carrying <| Fields.record "struct IssueCommentEvent" <|
    Event.mk <$> .required "repo" RepoId.decode <*> .required "action" Action.decode
      <*> .required "issue_number" IssueNumber.decode <*> .required "is_pull_request" .bool
      <*> .required "comment_id" CommentId.decode <*> .required "body" .string
      <*> .required "author_login" .string <*> .optional "installation_id" InstallationId.decode)]

/-- What became of an event, as a record. -/
def Outcome.encode : Outcome → Value
  | ignored reason => .object [("outcome", .string "ignored"), ("reason", .string reason.name)]
  | processed command posted report =>
    .object [("outcome", .string "processed"), ("command", command.encode),
      ("acknowledgement",
        match posted with
        | .ok completed => .object [("Ok", completed.encode)]
        | .error failure => .object [("Err", failure.encode)]),
      ("report", .ofOption Workflow.Report.encode report)]

end CommentBot.Comment
