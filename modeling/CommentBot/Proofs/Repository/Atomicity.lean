import CommentBot.Proofs.Repository.History

/-!
# Failures are atomic

An effect that fails leaves a trace in the log and nothing else, even if it had been under way.

1. `InPlace`: the effects as programs that change the repository step by step. What such a program did before it fails
   stays done, so nothing is undone for it.
2. `outcome_perform`, `outcome_ask`: the programs do all that may fail before they change anything, and so they come to
   what the repository makes of the effect at once.
3. `apply_relog`: the log is written and never looked at.
4. `replay_pruned`: so failures can be left out of a history, and nothing else of it changes.
-/

namespace CommentBot.Repository

open Forge Git

variable {r : Repository} {α : Type}

/-! ## Changes in place -/

/-- A program that changes a repository in place. If it fails, what it did before stays done. -/
abbrev InPlace := ExceptT ApiError (StateM Repository)

namespace InPlace

/-- Runs a program: what it comes to, and the repository as it leaves it. -/
def outcome (p : InPlace α) (r : Repository) : Except ApiError α × Repository := p.run.run r

/-- Checks something, or looks something up. -/
def look (check : Repository → Except ApiError α) : InPlace α := do
  match check (← get) with
  | .ok a => return a
  | .error e => throw e

/-- Issues the next id. -/
def issue : InPlace ObjectId := do
  modify fun r => { r with issued := r.issued + 1 }
  return .ofNat (0xc0ffee0000 + (← get).issued)

/-- Finds a reference. -/
def getRef (name : String) : InPlace Response := do
  let target ← look fun r => found (r.refs.get? ("refs/" ++ name)) notFound
  return .ref ⟨"refs/" ++ name, target⟩

/-- Creates a reference. -/
def createRef (name : String) (target : ObjectId) : InPlace Response := do
  look fun _ => require ("refs/".toList.isPrefixOf name.toList) "Reference name must start with 'refs/'"
  look fun r => require (!r.refs.contains name) "Reference already exists"
  look fun r => require (r.commits.contains target) "Object does not exist"
  modify fun r => { r with refs := r.refs.insert name target }
  return .ref ⟨name, target⟩

/-- Points a reference at another commit. -/
def updateRef (name : String) (target : ObjectId) (force : Bool) : InPlace Response := do
  let current ← look fun r => found (r.refs.get? ("refs/" ++ name)) (refuse "Reference does not exist")
  look fun r => require (r.commits.contains target) "Object does not exist"
  look fun r => require (force || isAncestor r.commits current target) "Update is not a fast forward"
  modify fun r => { r with refs := r.refs.insert ("refs/" ++ name) target }
  return .ref ⟨"refs/" ++ name, target⟩

/-- Creates a tree. The entries are laid over a copy of the files, one after the other. -/
def createTree (base : ObjectId) (entries : List TreeEntry) : InPlace Response := do
  let mut files ← look fun r => found (r.baseFiles? base) (refuse "base_tree is not a valid tree")
  for entry in entries do
    match entry.content with
    | .inline text => files := files.insert entry.path text
    | .blob id => throw (.ofStatus 422 s!"blob {id.text} does not exist")
  let id ← issue
  modify fun r => { r with trees := r.trees.insert id files }
  return .tree id

/-- Finds a commit. -/
def getCommit (id : ObjectId) : InPlace Response := do
  let commit ← look fun r => found (r.commits.get? id) notFound
  return .commit commit

/-- Creates a commit. -/
def createCommit (message : String) (author : Signature) (tree : ObjectId) (parents : List ObjectId) :
    InPlace Response := do
  look fun r => require (r.trees.contains tree) "Tree SHA does not exist"
  look fun r => require (parents.all r.commits.contains) "Parent SHA does not exist"
  let id ← issue
  let commit : Commit := ⟨id, message, author, tree, parents⟩
  modify fun r => { r with commits := r.commits.insert id commit }
  return .commit commit

/-- Opens a pull request. -/
def createPullRequest (request : NewPullRequest) : InPlace Response := do
  for branch in [request.head, request.base] do
    look fun r => r.requireBranch branch
  modify fun r => { r with pullRequests := r.pullRequests ++ [request] }
  let number := (← get).pullRequests.length
  return .pullRequest ⟨⟨UInt64.ofNat number⟩, request.title, pullRequestUrl number⟩

/-- Posts a comment. -/
def postComment (issue : IssueNumber) (body : String) : InPlace Response := do
  modify fun r => { r with comments := r.comments ++ [(issue, body)] }
  return .commentPosted ⟨UInt64.ofNat (1000 + (← get).comments.length)⟩

/-- Does what an effect asks. -/
def perform : Effect → InPlace Response
  | .getRef name => getRef name
  | .createRef name target => createRef name target
  | .updateRef name target force => updateRef name target force
  | .createTree base entries => createTree base entries
  | .getCommit id => getCommit id
  | .createCommit message author tree parents => createCommit message author tree parents
  | .createPullRequest request => createPullRequest request
  | .postComment issue body => postComment issue body

/-- Fails an effect of a kind that has been made to fail. -/
def allow (kind : EffectKind) (r : Repository) : Except ApiError Unit :=
  match r.failures.get? kind with
  | some e => .error e
  | none => .ok ()

/-- Answers an effect. -/
def ask (effect : Effect) : InPlace Response := do
  modify fun r => { r with log := r.log ++ [effect] }
  look (allow effect.kind)
  perform effect

/-! ## Runs -/

@[simp] theorem outcome_pure (a : α) : (pure a : InPlace α).outcome r = (.ok a, r) := rfl

@[simp] theorem outcome_throw (e : ApiError) : (throw e : InPlace α).outcome r = (.error e, r) := rfl

@[simp] theorem outcome_modify (f : Repository → Repository) :
    (modify f : InPlace PUnit).outcome r = (.ok ⟨⟩, f r) := rfl

@[simp] theorem outcome_get : (get : InPlace Repository).outcome r = (.ok r, r) := rfl

theorem outcome_bind {β : Type} (p : InPlace α) (f : α → InPlace β) : (p >>= f).outcome r =
    match p.outcome r with
    | (.ok a, r') => (f a).outcome r'
    | (.error e, r') => (.error e, r') := by
  unfold outcome
  rw [ExceptT.run_bind, StateT.run_bind]
  rcases p.run.run r with ⟨e | a, r'⟩ <;> rfl

@[simp] theorem outcome_look (check : Repository → Except ApiError α) :
    (look check).outcome r = (check r, r) := by
  unfold look
  rw [outcome_bind, outcome_get]
  dsimp only
  cases check r <;> rfl

end InPlace

/-- What a change comes to in place: a change that fails leaves the repository as it was. -/
def settled (r : Repository) : Change → Answer × Repository
  | .ok (answer, r') => (.ok answer, r')
  | .error e => (.error e, r)

open InPlace

/-- What is checked before a change is checked before it in place. -/
theorem outcome_look_bind {check : Repository → Except ApiError α} {p : α → InPlace Response}
    {change : α → Change} (h : ∀ a, (p a).outcome r = settled r (change a)) :
    (look check >>= p).outcome r = settled r (check r >>= change) := by
  rw [outcome_bind, outcome_look]
  cases check r with
  | error e => rfl
  | ok a => exact h a

/-- The loop over the entries stops where `overlay` does. -/
theorem outcome_overlay {files : Files} {entries : List TreeEntry} {p : Files → InPlace Response}
    {change : Files → Change} (h : ∀ files, (p files).outcome r = settled r (change files)) :
    ((forIn entries files fun entry files => (match entry.content with
        | .inline text => pure (.yield (files.insert entry.path text))
        | .blob id => throw (.ofStatus 422 s!"blob {id.text} does not exist") : InPlace (ForInStep Files))) >>=
      p).outcome r = settled r (overlay files entries >>= change) := by
  induction entries generalizing files with
  | nil => exact h files
  | cons entry rest ih =>
    obtain ⟨path, mode, kind, content⟩ := entry
    rw [List.forIn_cons, overlay, bind_assoc]
    cases content with
    | inline text => exact ih
    | blob id => rfl

/-- An effect comes to the same in place and at once. -/
theorem outcome_perform (effect : Effect) (r : Repository) :
    (perform effect).outcome r = settled r (r.change effect) := by
  cases effect with
  | getRef name => exact outcome_look_bind fun _ => rfl
  | createRef name target =>
    exact outcome_look_bind fun _ => outcome_look_bind fun _ => outcome_look_bind fun _ => rfl
  | updateRef name target force =>
    exact outcome_look_bind fun _ => outcome_look_bind fun _ => outcome_look_bind fun _ => rfl
  | createTree base entries => exact outcome_look_bind fun files => outcome_overlay fun files => rfl
  | getCommit id => exact outcome_look_bind fun _ => rfl
  | createCommit message author tree parents =>
    exact outcome_look_bind fun _ => outcome_look_bind fun _ => rfl
  | createPullRequest request =>
    simp only [perform, InPlace.createPullRequest, List.forIn_cons, List.forIn_nil, bind_assoc, pure_bind]
    refine outcome_look_bind fun _ => outcome_look_bind fun _ => ?_
    simp only [outcome_bind, outcome_modify, outcome_get, outcome_pure, List.length_append, List.length_singleton]
    rfl
  | postComment issue body =>
    simp only [perform, InPlace.postComment, outcome_bind, outcome_modify, outcome_get, outcome_pure,
      List.length_append, List.length_singleton]
    rfl

theorem apply_eq_settled (effect : Effect) (r : Repository) : apply effect r =
    settled (r.logged effect) (allow effect.kind (r.logged effect) >>= fun _ => (r.logged effect).change effect) := by
  have hallow : allow effect.kind (r.logged effect) = match r.failures.get? effect.kind with
      | some e => .error e
      | none => .ok () := rfl
  rw [hallow]
  cases hf : r.failures.get? effect.kind with
  | some e =>
    rw [apply_of_failure hf]
    rfl
  | none =>
    change _ = settled (r.logged effect) ((r.logged effect).change effect)
    cases hc : (r.logged effect).change effect with
    | error e => exact apply_of_error hf hc
    | ok result => exact apply_of_ok hf hc

/-- An effect leaves the same repository whether it is applied at once or in place, also if it fails. -/
theorem outcome_ask (effect : Effect) (r : Repository) : (ask effect).outcome r = apply effect r := by
  rw [apply_eq_settled]
  exact outcome_look_bind fun _ => outcome_perform effect (r.logged effect)

/-! ## The log -/

/-- The repository with another log. -/
def relog (r : Repository) (log : List Effect) : Repository := { r with log := log }

/-- A change of a repository with another log. -/
def Change.relog (log : List Effect) (change : Change) : Change :=
  change.map fun result => (result.1, result.2.relog log)

theorem Change.relog_bind {x : Except ApiError α} {f : α → Change} {log : List Effect} :
    Change.relog log (x >>= f) = x >>= fun a => Change.relog log (f a) := by
  cases x <;> rfl

/-- What an effect does depends on all of the repository but its log. -/
theorem change_relog (effect : Effect) (r : Repository) (log : List Effect) :
    (r.relog log).change effect = Change.relog log (r.change effect) := by
  cases effect <;>
    simp only [change, getRef, createRef, updateRef, createTree, getCommit, createCommit, createPullRequest,
      Change.relog_bind] <;>
    rfl

theorem settled_relog (r : Repository) (log : List Effect) (change : Change) :
    settled (r.relog log) (Change.relog log change) =
      ((settled r change).1, (settled r change).2.relog log) := by
  cases change <;> rfl

/-- An effect is answered alike whatever the log says, and writes itself at the end of it. -/
theorem apply_relog (effect : Effect) (r : Repository) (log : List Effect) :
    apply effect (r.relog log) = ((apply effect r).1, (apply effect r).2.relog (log ++ [effect])) := by
  have hlogged : (r.relog log).logged effect = (r.logged effect).relog (log ++ [effect]) := rfl
  have hallow : allow effect.kind ((r.logged effect).relog (log ++ [effect])) =
      allow effect.kind (r.logged effect) := rfl
  rw [apply_eq_settled, apply_eq_settled, hlogged, hallow, change_relog, ← Change.relog_bind, settled_relog]

/-! ## Histories without failures -/

/-- What is left of a history if some of the exchanges that failed are left out. -/
inductive Pruned : List Exchange → List Exchange → Prop
  | nil : Pruned [] []
  | keep {x past kept} (h : Pruned past kept) : Pruned (x :: past) (x :: kept)
  | drop {x past kept e} (failed : x.answer = .error e) (h : Pruned past kept) : Pruned (x :: past) kept

/-- All of the exchanges that failed can be left out. -/
theorem pruned_filter (past : List Exchange) : Pruned past (past.filter (·.answer.isOk)) := by
  induction past with
  | nil => exact .nil
  | cons x past ih =>
    obtain ⟨effect, answer⟩ := x
    cases answer with
    | error e => exact .drop rfl ih
    | ok response => exact .keep ih

theorem apply_of_failed {effect : Effect} {e : ApiError} (h : (apply effect r).1 = .error e) :
    (apply effect r).2 = r.logged effect := by
  rcases apply_cases effect r with ⟨e, h'⟩ | ⟨answer, r', -, -, h'⟩
  · rw [h']
  · rw [h'] at h
    cases h

/-- The effects that are left are answered as before and do what they did before. -/
theorem replay_pruned {effects : List Effect} {kept : List Exchange} (h : Pruned (r.history effects) kept)
    (log : List Effect) : (r.relog log).history (kept.map (·.effect)) = kept ∧
      (r.relog log).after (kept.map (·.effect)) = (r.after effects).relog (log ++ kept.map (·.effect)) := by
  -- The log is general, since the effects that are left out are missing from it for the rest of the run.
  induction effects generalizing r kept log with
  | nil =>
    cases h
    rw [List.map_nil, List.append_nil]
    exact ⟨rfl, rfl⟩
  | cons effect rest ih =>
    rw [history_cons] at h
    rw [after_cons]
    cases h with
    | keep h =>
      obtain ⟨hhistory, hafter⟩ := ih h (log ++ [effect])
      rw [List.map_cons, history_cons, after_cons, apply_relog, hhistory, hafter, List.append_assoc]
      exact ⟨rfl, rfl⟩
    | drop failed h =>
      have hsame : ((apply effect r).2).relog log = r.relog log := by rw [apply_of_failed failed]; rfl
      rw [← hsame]
      exact ih h log

/-- **Failed effects are atomic.** In place or at once, an effect that fails writes itself into the log and leaves the
rest of the repository as it is. So all effects that fail can be left out, or some of them: the others are answered as
before, and the repository ends up the same but for the log. -/
theorem failed_effects_are_atomic (r : Repository) :
    (∀ effect, (InPlace.ask effect).outcome r = apply effect r) ∧
    (∀ effect e, (apply effect r).1 = .error e → (apply effect r).2 = { r with log := r.log ++ [effect] }) ∧
    (∀ effects, let kept := (r.history effects).filter (·.answer.isOk)
      r.history (kept.map (·.effect)) = kept ∧
        r.after (kept.map (·.effect)) = { r.after effects with log := r.log ++ kept.map (·.effect) }) ∧
    ∀ effects kept, Pruned (r.history effects) kept →
      r.history (kept.map (·.effect)) = kept ∧
        r.after (kept.map (·.effect)) = { r.after effects with log := r.log ++ kept.map (·.effect) } :=
  ⟨fun effect => outcome_ask effect r, fun _ _ => apply_of_failed,
    fun effects => replay_pruned (pruned_filter (r.history effects)) r.log, fun _ _ h => replay_pruned h r.log⟩

/-- A tree for which one file has been laid over the others when an entry names octets that are not there. -/
def halfLaid : Effect :=
  .createTree (freshId 0) [.file "a.txt" "a", ⟨"b.txt", .regular, .blob, .blob (freshId 7)⟩, .file "c.txt" "c"]

theorem half_laid_tree_leaves_no_trace :
    (apply halfLaid (.withBranch "main")).2 = { withBranch "main" with log := [halfLaid] } ∧
    (withBranch "main").history [.postComment ⟨1⟩ "hi"] =
      [⟨.postComment ⟨1⟩ "hi", .ok (.commentPosted ⟨1001⟩)⟩] ∧
    (withBranch "main").after [.postComment ⟨1⟩ "hi"] =
      { (withBranch "main").after [halfLaid, .postComment ⟨1⟩ "hi"] with log := [.postComment ⟨1⟩ "hi"] } := by
  have hfails : (apply halfLaid (.withBranch "main")).1 =
      .error (.ofStatus 422 s!"blob {(freshId 7).text} does not exist") := by
    decide +kernel
  obtain ⟨-, hatomic, -, hpruned⟩ := failed_effects_are_atomic (withBranch "main")
  exact ⟨hatomic halfLaid _ hfails, hpruned [halfLaid, .postComment ⟨1⟩ "hi"] _ (.drop hfails (.keep .nil))⟩

end CommentBot.Repository
