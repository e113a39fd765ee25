import CommentBot.Forge.Names
import CommentBot.Git.Object

/-!
# Effects

What can be asked of a repository, as data. Every effect has a shape, the kind of answer that belongs to it.
-/

namespace CommentBot.Forge

open Git

/-- A pull request to be opened, from the branch `head` into the branch `base`. -/
structure NewPullRequest where
  title : String
  head : String
  base : String
  body : String
  deriving DecidableEq, Repr

/-- A pull request that has been opened. -/
structure PullRequest where
  number : IssueNumber
  title : String
  /-- Where a browser finds it. -/
  url : String
  deriving DecidableEq, Repr

/-- A request to a repository. -/
inductive Effect
  /-- Finds a reference; the name leaves out `refs/`. -/
  | getRef (name : String)
  /-- Creates a reference; the name is full. -/
  | createRef (name : String) (target : ObjectId)
  /-- Points a reference at another commit, which must descend from the present one unless forced. -/
  | updateRef (name : String) (target : ObjectId) (force : Bool)
  /-- Creates a tree that differs from another one in some entries. -/
  | createTree (base : ObjectId) (entries : List TreeEntry)
  | getCommit (id : ObjectId)
  | createCommit (message : String) (author : Signature) (tree : ObjectId) (parents : List ObjectId)
  | createPullRequest (request : NewPullRequest)
  | postComment (issue : IssueNumber) (body : String)
  deriving DecidableEq, Repr

/-- An effect without its arguments. -/
inductive EffectKind
  | getRef
  | createRef
  | updateRef
  | createTree
  | getCommit
  | createCommit
  | createPullRequest
  | postComment
  deriving DecidableEq, Repr

namespace EffectKind

/-- All kinds. -/
def all : List EffectKind :=
  [getRef, createRef, updateRef, createTree, getCommit, createCommit, createPullRequest, postComment]

/-- The name of a kind. -/
def name : EffectKind → String
  | getRef => "get_ref"
  | createRef => "create_ref"
  | updateRef => "update_ref"
  | createTree => "create_tree"
  | getCommit => "get_commit"
  | createCommit => "create_commit"
  | createPullRequest => "create_pull_request"
  | postComment => "post_comment"

/-- The kind with a name. -/
def ofName? (name : String) : Option EffectKind := all.find? (·.name == name)

end EffectKind

/-- The kind of an effect. -/
def Effect.kind : Effect → EffectKind
  | getRef .. => .getRef
  | createRef .. => .createRef
  | updateRef .. => .updateRef
  | createTree .. => .createTree
  | getCommit .. => .getCommit
  | createCommit .. => .createCommit
  | createPullRequest .. => .createPullRequest
  | postComment .. => .postComment

/-- The name of the kind of an effect. -/
def Effect.name (e : Effect) : String := e.kind.name

end CommentBot.Forge
