import CommentBot.Config.Settings
import CommentBot.Forge.Names

/-!
# Comment events

Something happened to a comment on an issue or a pull request. The bot heeds only new comments, and none
that a bot wrote.
-/

namespace CommentBot.Comment

open Forge

/-- What happened to a comment. -/
inductive Action
  | created
  | edited
  | deleted
  | other (name : String)
  deriving DecidableEq, Repr

/-- The action with a name. -/
def Action.ofName (name : String) : Action :=
  if name = "created" then created
  else if name = "edited" then edited
  else if name = "deleted" then deleted
  else other name

/-- Something that happened to a comment. -/
structure Event where
  repo : RepoId
  action : Action
  /-- The thread of the comment. -/
  issue : IssueNumber
  /-- Whether the thread is that of a pull request. -/
  isPullRequest : Bool
  id : CommentId
  body : String
  /-- The login of the author. -/
  author : String
  installation : Option InstallationId
  deriving DecidableEq, Repr

/-- Why an event is dropped. -/
inductive IgnoreReason
  | notCreated
  | botAuthor
  deriving DecidableEq, Repr

/-- The name of a reason. -/
def IgnoreReason.name : IgnoreReason → String
  | notCreated => "not_created"
  | botAuthor => "bot_author"

namespace Event

/-- Whether the login of the author ends as those of bots do. -/
def isFromBot (e : Event) (botSuffix : String) : Bool := botSuffix.toList.isSuffixOf e.author.toList

/-- Why the event is dropped, if it is. -/
def ignoreReason? (e : Event) (settings : Settings) : Option IgnoreReason :=
  if e.action ≠ .created then some .notCreated
  else if e.isFromBot settings.botSuffix then some .botAuthor
  else none

end Event

end CommentBot.Comment
