import CommentBot.Forge.Effect

/-!
# Responses

What a repository answers. A response has a shape, and an effect says which shape belongs to it.
-/

namespace CommentBot.Forge

open Git

/-- An answer to an effect. -/
inductive Response
  | ref (reference : Reference)
  | tree (id : ObjectId)
  | commit (commit : Commit)
  | pullRequest (pullRequest : PullRequest)
  | commentPosted (id : CommentId)
  deriving DecidableEq, Repr

/-- The kinds of answers. -/
inductive Shape
  | ref
  | tree
  | commit
  | pullRequest
  | commentPosted
  deriving DecidableEq, Repr

/-- The name of a shape. -/
def Shape.name : Shape → String
  | ref => "ref"
  | tree => "tree"
  | commit => "commit"
  | pullRequest => "pull_request"
  | commentPosted => "comment_posted"

/-- What an answer of a shape holds. -/
@[reducible] def Shape.Payload : Shape → Type
  | ref => Reference
  | tree => ObjectId
  | commit => Commit
  | pullRequest => PullRequest
  | commentPosted => CommentId

/-- The shape of an answer. -/
def Response.shape : Response → Shape
  | ref _ => .ref
  | tree _ => .tree
  | commit _ => .commit
  | pullRequest _ => .pullRequest
  | commentPosted _ => .commentPosted

/-- The name of the shape of an answer. -/
def Response.name (r : Response) : String := r.shape.name

/-- What an answer holds, if it has the shape. -/
def Response.as? : Response → (shape : Shape) → Option shape.Payload
  | ref r, .ref => some r
  | tree id, .tree => some id
  | commit c, .commit => some c
  | pullRequest p, .pullRequest => some p
  | commentPosted id, .commentPosted => some id
  | _, _ => none

/-- The shape of the answer to an effect of a kind. -/
@[reducible] def EffectKind.shape : EffectKind → Shape
  | getRef => .ref
  | createRef => .ref
  | updateRef => .ref
  | createTree => .tree
  | getCommit => .commit
  | createCommit => .commit
  | createPullRequest => .pullRequest
  | postComment => .commentPosted

/-- An answer holds something of a shape exactly if it has that shape. -/
theorem Response.isSome_as? (r : Response) (shape : Shape) : (r.as? shape).isSome = (r.shape == shape) := by
  cases r <;> cases shape <;> rfl

end CommentBot.Forge
