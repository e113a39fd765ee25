import CommentBot.Proofs.Repository.Change
import CommentBot.Proofs.Workflow.Parallel

/-!
# What comments leave alone

Nothing in a repository but the ids of later comments depends on the comments that are there.

1. `Ahead`: one repository is another one with more comments.
2. `getRef_alike` and its neighbours: no operation tells the two apart, but for the ids of comments.
3. `ahead_apply`: so an effect keeps the one as far ahead as it was, and its answers differ in these ids only.
   `ahead_postComment`: a comment that is posted puts a repository ahead by one.
-/

namespace CommentBot.Repository

open Forge Git

/-- The references, trees, commits and pull requests of a repository. -/
structure Contents where
  refs : Table String ObjectId
  trees : Table ObjectId Files
  commits : Table ObjectId Commit
  pullRequests : List NewPullRequest
  deriving DecidableEq, Repr

/-- What a repository holds besides comments. -/
def contents (r : Repository) : Contents := ⟨r.refs, r.trees, r.commits, r.pullRequests⟩

/-- The first repository has `k` more comments than the second one. The comments themselves may be others, and so may
the logs of effects and of clients; all else is the same. -/
structure Ahead (k : Nat) (r₁ r₂ : Repository) : Prop where
  refs : r₁.refs = r₂.refs
  trees : r₁.trees = r₂.trees
  commits : r₁.commits = r₂.commits
  pullRequests : r₁.pullRequests = r₂.pullRequests
  failures : r₁.failures = r₂.failures
  root : r₁.root = r₂.root
  issued : r₁.issued = r₂.issued
  comments : r₁.comments.length = r₂.comments.length + k

namespace Ahead

variable {k l : Nat} {r₁ r₂ r₃ : Repository}

theorem refl (r : Repository) : Ahead 0 r r := ⟨rfl, rfl, rfl, rfl, rfl, rfl, rfl, rfl⟩

theorem trans (h : Ahead k r₁ r₂) (h' : Ahead l r₂ r₃) : Ahead (k + l) r₁ r₃ where
  refs := h.refs.trans h'.refs
  trees := h.trees.trans h'.trees
  commits := h.commits.trans h'.commits
  pullRequests := h.pullRequests.trans h'.pullRequests
  failures := h.failures.trans h'.failures
  root := h.root.trans h'.root
  issued := h.issued.trans h'.issued
  comments := by
    have hfirst := h.comments
    have hsecond := h'.comments
    omega

theorem contents_eq (h : Ahead k r₁ r₂) : r₁.contents = r₂.contents := by
  unfold contents
  rw [h.refs, h.trees, h.commits, h.pullRequests]

theorem logged (h : Ahead k r₁ r₂) (effect : Effect) : Ahead k (r₁.logged effect) (r₂.logged effect) :=
  ⟨h.refs, h.trees, h.commits, h.pullRequests, h.failures, h.root, h.issued, h.comments⟩

theorem setRef (h : Ahead k r₁ r₂) (name : String) (target : ObjectId) :
    Ahead k (r₁.setRef name target) (r₂.setRef name target) :=
  ⟨congrArg (·.insert name target) h.refs, h.trees, h.commits, h.pullRequests, h.failures, h.root, h.issued,
    h.comments⟩

/-- The ids of comments that come next are as far apart as the numbers of comments. -/
theorem commentPosted (h : Ahead k r₁ r₂) :
    Response.commentPosted ⟨UInt64.ofNat (1000 + (r₁.comments.length + 1))⟩ =
      (Response.commentPosted ⟨UInt64.ofNat (1000 + (r₂.comments.length + 1))⟩).later k := by
  have hnumber : 1000 + (r₁.comments.length + 1) = 1000 + (r₂.comments.length + 1) + k := by
    have hcomments := h.comments
    omega
  rw [hnumber, UInt64.ofNat_add]
  rfl

end Ahead

/-! ## Operations -/

/-- Two changes fail with one error, or lead to answers that are `k` apart and to repositories that are. -/
inductive Alike (k : Nat) : Change → Change → Prop
  | error (e : ApiError) : Alike k (.error e) (.error e)
  | ok {answer₁ answer₂ : Response} {r₁ r₂ : Repository} (answer : answer₁ = answer₂.later k) (h : Ahead k r₁ r₂) :
      Alike k (.ok (answer₁, r₁)) (.ok (answer₂, r₂))

theorem Alike.bind {k : Nat} {α : Type} (x : Except ApiError α) {f g : α → Change} (h : ∀ a, Alike k (f a) (g a)) :
    Alike k (x >>= f) (x >>= g) := by
  cases x with
  | error e => exact .error e
  | ok a => exact h a

section Operations

variable {k : Nat} {r₁ r₂ : Repository} (h : Ahead k r₁ r₂)

include h

theorem getRef_alike (name : String) : Alike k (r₁.getRef name) (r₂.getRef name) := by
  unfold getRef
  rw [h.refs]
  exact .bind _ fun target => .ok rfl h

theorem createRef_alike (name : String) (target : ObjectId) :
    Alike k (r₁.createRef name target) (r₂.createRef name target) := by
  unfold createRef
  rw [h.refs, h.commits]
  exact .bind _ fun _ => .bind _ fun _ => .bind _ fun _ => .ok rfl (h.setRef name target)

theorem updateRef_alike (name : String) (target : ObjectId) (force : Bool) :
    Alike k (r₁.updateRef name target force) (r₂.updateRef name target force) := by
  unfold updateRef
  rw [h.refs, h.commits]
  exact .bind _ fun current => .bind _ fun _ => .bind _ fun _ => .ok rfl (h.setRef _ target)

theorem createTree_alike (base : ObjectId) (entries : List TreeEntry) :
    Alike k (r₁.createTree base entries) (r₂.createTree base entries) := by
  have hbase : r₁.baseFiles? base = r₂.baseFiles? base := by
    unfold baseFiles?
    rw [h.commits, h.trees]
  unfold createTree addTree
  rw [hbase, h.issued, h.trees]
  refine .bind _ fun files => .bind _ fun laid => .ok rfl ?_
  exact ⟨h.refs, rfl, h.commits, h.pullRequests, h.failures, h.root, rfl, h.comments⟩

theorem getCommit_alike (id : ObjectId) : Alike k (r₁.getCommit id) (r₂.getCommit id) := by
  unfold getCommit
  rw [h.commits]
  exact .bind _ fun commit => .ok rfl h

theorem createCommit_alike (message : String) (author : Signature) (tree : ObjectId) (parents : List ObjectId) :
    Alike k (r₁.createCommit message author tree parents) (r₂.createCommit message author tree parents) := by
  unfold createCommit addCommit
  rw [h.commits, h.trees, h.issued]
  refine .bind _ fun _ => .bind _ fun _ => .ok rfl ?_
  exact ⟨h.refs, rfl, rfl, h.pullRequests, h.failures, h.root, rfl, h.comments⟩

theorem createPullRequest_alike (request : NewPullRequest) :
    Alike k (r₁.createPullRequest request) (r₂.createPullRequest request) := by
  unfold createPullRequest requireBranch
  rw [h.refs, h.pullRequests]
  refine .bind _ fun _ => .bind _ fun _ => .ok rfl ?_
  exact ⟨rfl, h.trees, h.commits, rfl, h.failures, h.root, h.issued, h.comments⟩

theorem postComment_alike (issue : IssueNumber) (body : String) :
    Alike k (r₁.postComment issue body) (r₂.postComment issue body) := by
  refine .ok h.commentPosted ⟨h.refs, h.trees, h.commits, h.pullRequests, h.failures, h.root, h.issued, ?_⟩
  have hcomments := h.comments
  rw [List.length_append, List.length_append, List.length_singleton]
  omega

theorem change_alike (effect : Effect) : Alike k (r₁.change effect) (r₂.change effect) := by
  cases effect with
  | getRef name => exact getRef_alike h name
  | createRef name target => exact createRef_alike h name target
  | updateRef name target force => exact updateRef_alike h name target force
  | createTree base entries => exact createTree_alike h base entries
  | getCommit id => exact getCommit_alike h id
  | createCommit message author tree parents => exact createCommit_alike h message author tree parents
  | createPullRequest request => exact createPullRequest_alike h request
  | postComment issue body => exact postComment_alike h issue body

/-- **An effect keeps a repository as far ahead as it was**, and is answered alike, but for the ids of comments. -/
theorem ahead_apply (effect : Effect) : (apply effect r₁).1 = laterAnswer k (apply effect r₂).1 ∧
    Ahead k (apply effect r₁).2 (apply effect r₂).2 := by
  have hlogged := h.logged effect
  cases hfailure : r₂.failures.get? effect.kind with
  | some e =>
    have hfailure₁ : r₁.failures.get? effect.kind = some e := by rw [h.failures, hfailure]
    rw [apply_of_failure hfailure, apply_of_failure hfailure₁]
    exact ⟨rfl, hlogged⟩
  | none =>
    have hfailure₁ : r₁.failures.get? effect.kind = none := by rw [h.failures, hfailure]
    have halike := change_alike hlogged effect
    generalize hc₁ : (r₁.logged effect).change effect = c₁ at halike
    generalize hc₂ : (r₂.logged effect).change effect = c₂ at halike
    cases halike with
    | error e =>
      rw [apply_of_error hfailure hc₂, apply_of_error hfailure₁ hc₁]
      exact ⟨rfl, hlogged⟩
    | ok hanswer hahead =>
      rw [apply_of_ok hfailure hc₂, apply_of_ok hfailure₁ hc₁]
      exact ⟨congrArg Except.ok hanswer, hahead⟩

/-- Runs of parallel programs keep a repository as far ahead as it was. -/
theorem Ahead.run {α : Type} {R : α → α → Prop} {p₁ p₂ : Interaction α} (hp : Interaction.Parallel k R p₁ p₂) :
    R (p₁.run apply r₁).1 (p₂.run apply r₂).1 ∧ Ahead k (p₁.run apply r₁).2 (p₂.run apply r₂).2 ∧
      p₁.exchanges apply r₁ = (p₂.exchanges apply r₂).map (Exchange.later k) :=
  hp.run (Ahead k) (fun effect _ _ h => ahead_apply h effect) h

end Operations

theorem apply_postComment (r : Repository) (issue : IssueNumber) (body : String) :
    apply (.postComment issue body) r =
      match r.failures.get? .postComment with
      | some e => (.error e, r.logged (.postComment issue body))
      | none => (.ok (.commentPosted ⟨UInt64.ofNat (1000 + (r.comments.length + 1))⟩),
          { r.logged (.postComment issue body) with comments := r.comments ++ [(issue, body)] }) := by
  cases hfailure : r.failures.get? .postComment with
  | some e => exact apply_of_failure hfailure
  | none => exact apply_of_ok hfailure (postComment_eq_ok.2 ⟨rfl, rfl⟩)

/-- A comment can be posted unless that is made to fail. -/
theorem isOk_postComment (r : Repository) (issue : IssueNumber) (body : String) :
    (apply (.postComment issue body) r).1.isOk = (r.failures.get? .postComment).isNone := by
  rw [apply_postComment]
  cases r.failures.get? .postComment <;> rfl

/-- A comment that is posted puts a repository ahead by one, and one that is not leaves it where it was. -/
theorem ahead_postComment (r : Repository) (issue : IssueNumber) (body : String) :
    Ahead (if (r.failures.get? .postComment).isNone then 1 else 0) (apply (.postComment issue body) r).2 r := by
  rw [apply_postComment]
  cases r.failures.get? .postComment with
  | some e => exact ⟨rfl, rfl, rfl, rfl, rfl, rfl, rfl, rfl⟩
  | none => exact ⟨rfl, rfl, rfl, rfl, rfl, rfl, rfl, List.length_append⟩

end CommentBot.Repository
