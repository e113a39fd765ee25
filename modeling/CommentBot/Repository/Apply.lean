import CommentBot.Repository.Ancestry
import CommentBot.Repository.Basic

/-!
# Effects on a repository

What each effect does to the repository, and when it fails. A failed effect leaves a trace in the log and
nowhere else.
-/

namespace CommentBot.Repository

open Forge Git

/-- Refuses an effect because of what it asks. -/
def refuse {α : Type} (message : String) : Except ApiError α := .error (.ofStatus 422 message)

/-- Says that something is not there. -/
def notFound {α : Type} : Except ApiError α := .error (.ofStatus 404 "Not Found")

/-- The value that must be there. -/
def found {α : Type} (value : Option α) (otherwise : Except ApiError α) : Except ApiError α :=
  match value with
  | some a => .ok a
  | none => otherwise

/-- Refuses an effect unless a condition holds. -/
def require (condition : Bool) (message : String) : Except ApiError Unit :=
  if condition then .ok () else refuse message

/-- What an effect leads to: an answer and the repository afterwards. -/
abbrev Change := Except ApiError (Response × Repository)

/-- Finds a reference. -/
def getRef (r : Repository) (name : String) : Change := do
  let target ← found (r.refs.get? ("refs/" ++ name)) notFound
  return (.ref ⟨"refs/" ++ name, target⟩, r)

/-- Creates a reference. -/
def createRef (r : Repository) (name : String) (target : ObjectId) : Change := do
  require ("refs/".toList.isPrefixOf name.toList) "Reference name must start with 'refs/'"
  require (!r.refs.contains name) "Reference already exists"
  require (r.commits.contains target) "Object does not exist"
  return (.ref ⟨name, target⟩, r.setRef name target)

/-- Points a reference at another commit. -/
def updateRef (r : Repository) (name : String) (target : ObjectId) (force : Bool) : Change := do
  let current ← found (r.refs.get? ("refs/" ++ name)) (refuse "Reference does not exist")
  require (r.commits.contains target) "Object does not exist"
  require (force || isAncestor r.commits current target) "Update is not a fast forward"
  return (.ref ⟨"refs/" ++ name, target⟩, r.setRef ("refs/" ++ name) target)

/-- Lays entries over files, later ones over earlier ones. -/
def overlay : Files → List TreeEntry → Except ApiError Files
  | files, [] => .ok files
  | files, entry :: rest =>
    match entry.content with
    | .inline text => overlay (files.insert entry.path text) rest
    | .blob id => refuse s!"blob {id.text} does not exist"

/-- The files of a tree; a commit stands for its tree. -/
def baseFiles? (r : Repository) (base : ObjectId) : Option Files :=
  match r.commits.get? base with
  | some commit => r.trees.get? commit.tree
  | none => r.trees.get? base

/-- Creates a tree. -/
def createTree (r : Repository) (base : ObjectId) (entries : List TreeEntry) : Change := do
  let files ← found (r.baseFiles? base) (refuse "base_tree is not a valid tree")
  let files ← overlay files entries
  let (id, r) := r.addTree files
  return (.tree id, r)

/-- Finds a commit. -/
def getCommit (r : Repository) (id : ObjectId) : Change := do
  let commit ← found (r.commits.get? id) notFound
  return (.commit commit, r)

/-- Creates a commit. -/
def createCommit (r : Repository) (message : String) (author : Signature) (tree : ObjectId)
    (parents : List ObjectId) : Change := do
  require (r.trees.contains tree) "Tree SHA does not exist"
  require (parents.all r.commits.contains) "Parent SHA does not exist"
  let (commit, r) := r.addCommit message author tree parents
  return (.commit commit, r)

/-- Refuses a pull request unless there is a branch. -/
def requireBranch (r : Repository) (branch : String) : Except ApiError Unit :=
  require (r.refs.contains (branchRef branch)) s!"Validation Failed: branch {branch} not found"

/-- Where a browser finds a pull request. -/
def pullRequestUrl (number : Nat) : String :=
  s!"https://github.com/{id.text}/pull/{number}"

/-- Opens a pull request. -/
def createPullRequest (r : Repository) (request : NewPullRequest) : Change := do
  r.requireBranch request.head
  r.requireBranch request.base
  let number := r.pullRequests.length + 1
  return (.pullRequest ⟨⟨UInt64.ofNat number⟩, request.title, pullRequestUrl number⟩,
    { r with pullRequests := r.pullRequests ++ [request] })

/-- Posts a comment. -/
def postComment (r : Repository) (issue : IssueNumber) (body : String) : Change :=
  .ok (.commentPosted ⟨UInt64.ofNat (1000 + (r.comments.length + 1))⟩,
    { r with comments := r.comments ++ [(issue, body)] })

/-- What an effect leads to if it has not been made to fail. -/
def change (r : Repository) : Effect → Change
  | .getRef name => r.getRef name
  | .createRef name target => r.createRef name target
  | .updateRef name target force => r.updateRef name target force
  | .createTree base entries => r.createTree base entries
  | .getCommit id => r.getCommit id
  | .createCommit message author tree parents => r.createCommit message author tree parents
  | .createPullRequest request => r.createPullRequest request
  | .postComment issue body => r.postComment issue body

/-- Answers an effect. -/
def apply : Gateway Repository := fun effect r =>
  let r := { r with log := r.log ++ [effect] }
  match r.failures.get? effect.kind with
  | some e => (.error e, r)
  | none =>
    match r.change effect with
    | .ok (response, r) => (.ok response, r)
    | .error e => (.error e, r)

end CommentBot.Repository
