import CommentBot.Comment.Event
import CommentBot.Json.Decoder.Record
import CommentBot.Text.Quoted

/-!
# Payloads

A delivery brings an event as a JSON text, of which the bot reads a few members and passes over all others.
-/

namespace CommentBot.Comment

open Json Forge

/-- The members of a payload that the bot reads. -/
structure Payload where
  action : String
  commentId : UInt64
  body : Option String
  author : String
  issue : UInt64
  /-- Present on threads of pull requests only. -/
  pullRequest : Option Value
  owner : String
  repo : String
  installation : Option UInt64

namespace Payload

/-- Reads a record of a login. -/
def login (wanted : String) : Decoder String :=
  Fields.record wanted <| id <$> .required "login" .string

/-- Reads the comment: its id, its text and its author. -/
def comment : Decoder (UInt64 × Option String × String) :=
  Fields.record "struct RawComment" <|
    (fun id body author => (id, body, author)) <$> .required "id" .uint64 <*> .optional "body" .string
      <*> .required "user" (login "struct RawUser")

/-- Reads the issue: its number, and what is said of the pull request that it is. -/
def issueRecord : Decoder (UInt64 × Option Value) :=
  Fields.record "struct RawIssue" <|
    Prod.mk <$> .required "number" .uint64 <*> .optional "pull_request" .value

/-- Reads the repository: its owner and its name. -/
def repository : Decoder (String × String) :=
  Fields.record "struct RawRepository" <|
    Prod.mk <$> .required "owner" (login "struct RawOwner") <*> .required "name" .string

/-- Reads the installation. -/
def installationRecord : Decoder UInt64 :=
  Fields.record "struct RawInstallation" <| id <$> .required "id" .uint64

/-- Puts the parts of a payload together. -/
def ofParts (action : String) (comment : UInt64 × Option String × String) (issue : UInt64 × Option Value)
    (repository : String × String) (installation : Option UInt64) : Payload :=
  { action
    commentId := comment.1
    body := comment.2.1
    author := comment.2.2
    issue := issue.1
    pullRequest := issue.2
    owner := repository.1
    repo := repository.2
    installation }

/-- Reads a payload. -/
def decode : Decoder Payload :=
  Fields.record "struct RawIssueCommentPayload" <|
    ofParts <$> .required "action" .string <*> .required "comment" comment
      <*> .required "issue" issueRecord <*> .required "repository" repository
      <*> .optional "installation" installationRecord

/-- The event that a payload reports. -/
def event (p : Payload) : Event :=
  { repo := ⟨p.owner, p.repo⟩
    action := .ofName p.action
    issue := ⟨p.issue⟩
    isPullRequest := p.pullRequest.isSome
    id := ⟨p.commentId⟩
    body := p.body.getD ""
    author := p.author
    installation := p.installation.map .mk }

end Payload

/-- Why a payload is refused. -/
inductive PayloadError
  | unreadable (e : ReadError)
  /-- A name that must not be empty is. -/
  | emptyField (name : String)

/-- The words for an error. -/
def PayloadError.message : PayloadError → String
  | unreadable e => "JSON parse error: " ++ e.message
  | emptyField name => "invalid field value for " ++ name ++ ": " ++ Text.quote ""

/-- The first of some named texts that is empty. -/
def firstEmpty? (texts : List (String × String)) : Option String :=
  (texts.find? fun entry => entry.2.isEmpty).map (·.1)

/-- Reads the event that a payload reports. -/
def Event.ofPayload (octets : List UInt8) : Except PayloadError Event := do
  let p ← (Payload.decode.readAll octets).mapError .unreadable
  match firstEmpty? [("repository.owner.login", p.owner), ("repository.name", p.repo),
      ("comment.user.login", p.author)] with
  | some name => throw (.emptyField name)
  | none => return p.event

/-- Reads the event of a delivery; none, if the type of the delivery is not that of comments. -/
def Event.ofDelivery (type : String) (octets : List UInt8) : Except PayloadError (Option Event) :=
  if type = "issue_comment" then (Event.ofPayload octets).map some else .ok none

end CommentBot.Comment
