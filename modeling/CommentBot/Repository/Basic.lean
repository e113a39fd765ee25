import CommentBot.Forge.Interaction
import CommentBot.Table

/-!
# A repository in memory

References, trees and commits in tables, with the pull requests and comments beside them. Every effect that
is asked is logged, and effects of any kind can be made to fail.
-/

namespace CommentBot

open Forge Git

/-- The texts of the files of a tree, by path. -/
abbrev Files := Table String String

/-- A repository held in memory. -/
structure Repository where
  /-- The targets of the references, by full name. -/
  refs : Table String ObjectId := .empty
  trees : Table ObjectId Files := .empty
  commits : Table ObjectId Commit := .empty
  pullRequests : List NewPullRequest := []
  comments : List (IssueNumber × String) := []
  /-- The kinds of effects that fail, with the errors. -/
  failures : Table EffectKind ApiError := .empty
  /-- The commit with which the repository began, if it has one. -/
  root : Option ObjectId := none
  /-- How many ids have been issued. -/
  issued : Nat := 0
  /-- The effects that were asked, in order. -/
  log : List Effect := []
  /-- The clients that were asked for, in order. -/
  clients : List (Option InstallationId × RepoId) := []
  deriving DecidableEq, Repr

namespace Repository

/-- The name of the repository. -/
def id : RepoId := ⟨"octo", "widgets"⟩

/-- The id that is issued after `issued` others. -/
def freshId (issued : Nat) : ObjectId := .ofNat (0xc0ffee0000 + (issued + 1))

/-- The full name of the reference of a branch. -/
def branchRef (branch : String) : String := "refs/heads/" ++ branch

/-- Stores a new tree. -/
def addTree (r : Repository) (files : Files) : ObjectId × Repository :=
  let id := freshId r.issued
  (id, { r with trees := r.trees.insert id files, issued := r.issued + 1 })

/-- Stores a new commit. -/
def addCommit (r : Repository) (message : String) (author : Signature) (tree : ObjectId)
    (parents : List ObjectId) : Commit × Repository :=
  let commit : Commit := ⟨freshId r.issued, message, author, tree, parents⟩
  (commit, { r with commits := r.commits.insert commit.id commit, issued := r.issued + 1 })

/-- Points a reference at a commit. -/
def setRef (r : Repository) (name : String) (target : ObjectId) : Repository :=
  { r with refs := r.refs.insert name target }

/-- A repository without references. -/
def empty : Repository := {}

/-- The author of the first commit. -/
def founder : Signature := ⟨"octocat", "octocat@example.com", .epoch⟩

/-- A repository with one commit, on a branch. -/
def withBranch (branch : String) : Repository :=
  let (tree, r) := empty.addTree (Table.empty.insert "README.md" "# widgets\n")
  let (commit, r) := r.addCommit "Initial commit" founder tree []
  { r with root := some commit.id }.setRef (branchRef branch) commit.id

/-- Adds a branch at the first commit, if there is one. -/
def addBranch? (r : Repository) (branch : String) : Option Repository :=
  r.root.map (r.setRef (branchRef branch))

/-- Makes effects of a kind fail from now on. -/
def failOn (r : Repository) (kind : EffectKind) (e : ApiError) : Repository :=
  { r with failures := r.failures.insert kind { e with ofExchange := false } }

end Repository

end CommentBot
