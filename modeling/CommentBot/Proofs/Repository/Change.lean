import CommentBot.Proofs.Results
import CommentBot.Repository.Apply

/-!
# What effects do to a repository

Each operation succeeds exactly under a condition, and then with one answer and one change (`getRef_eq_ok` and
its neighbours). `apply_cases` reduces an effect to its operation: it is logged, and then made to fail, refused
or granted.
-/

namespace CommentBot.Repository

open Forge Git

/-! ## Conditions -/

theorem found_eq_ok {α : Type} {value : Option α} {e : ApiError} {a : α} :
    found value (.error e) = .ok a ↔ value = some a := by
  cases value <;> simp [found]

theorem require_eq_ok {condition : Bool} {message : String} {u : Unit} :
    require condition message = .ok u ↔ condition = true := by
  cases condition <;> simp [require, refuse]

/-! ## Operations -/

variable {r r' : Repository} {answer : Response}

theorem getRef_eq_ok {name : String} : r.getRef name = .ok (answer, r') ↔
    ∃ target, r.refs.get? ("refs/" ++ name) = some target ∧ answer = .ref ⟨"refs/" ++ name, target⟩ ∧
      r' = r := by
  simp only [getRef, notFound, bind_eq_ok, found_eq_ok, pure_eq_ok, Prod.mk.injEq]

theorem createRef_eq_ok {name : String} {target : ObjectId} : r.createRef name target = .ok (answer, r') ↔
    "refs/".toList.isPrefixOf name.toList = true ∧ r.refs.contains name = false ∧
      r.commits.contains target = true ∧ answer = .ref ⟨name, target⟩ ∧ r' = r.setRef name target := by
  simp only [createRef, bind_eq_ok, require_eq_ok, pure_eq_ok, Prod.mk.injEq, Bool.not_eq_true', exists_and_left,
    exists_const]

theorem updateRef_eq_ok {name : String} {target : ObjectId} {force : Bool} :
    r.updateRef name target force = .ok (answer, r') ↔
      ∃ current, r.refs.get? ("refs/" ++ name) = some current ∧ r.commits.contains target = true ∧
        (force || isAncestor r.commits current target) = true ∧
        answer = .ref ⟨"refs/" ++ name, target⟩ ∧ r' = r.setRef ("refs/" ++ name) target := by
  simp only [updateRef, refuse, bind_eq_ok, found_eq_ok, require_eq_ok, pure_eq_ok, Prod.mk.injEq, exists_and_left,
    exists_const]

/-- A commit stands for its tree. -/
theorem baseFiles?_of_commit {base : ObjectId} {commit : Commit} (h : r.commits.get? base = some commit) :
    r.baseFiles? base = r.trees.get? commit.tree := by
  rw [baseFiles?, h]

theorem createTree_eq_ok {base : ObjectId} {entries : List TreeEntry} :
    r.createTree base entries = .ok (answer, r') ↔
      ∃ files laid, r.baseFiles? base = some files ∧ overlay files entries = .ok laid ∧
        answer = .tree (r.addTree laid).1 ∧ r' = (r.addTree laid).2 := by
  simp only [createTree, refuse, bind_eq_ok, found_eq_ok, pure_eq_ok, Prod.mk.injEq, exists_and_left]

theorem getCommit_eq_ok {id : ObjectId} : r.getCommit id = .ok (answer, r') ↔
    ∃ commit, r.commits.get? id = some commit ∧ answer = .commit commit ∧ r' = r := by
  simp only [getCommit, notFound, bind_eq_ok, found_eq_ok, pure_eq_ok, Prod.mk.injEq]

theorem createCommit_eq_ok {message : String} {author : Signature} {tree : ObjectId}
    {parents : List ObjectId} : r.createCommit message author tree parents = .ok (answer, r') ↔
      r.trees.contains tree = true ∧ parents.all r.commits.contains = true ∧
        answer = .commit (r.addCommit message author tree parents).1 ∧
        r' = (r.addCommit message author tree parents).2 := by
  simp only [createCommit, bind_eq_ok, require_eq_ok, pure_eq_ok, Prod.mk.injEq, exists_and_left,
    exists_const]

theorem createPullRequest_eq_ok {request : NewPullRequest} :
    r.createPullRequest request = .ok (answer, r') ↔
      r.refs.contains (branchRef request.head) = true ∧ r.refs.contains (branchRef request.base) = true ∧
        answer = .pullRequest ⟨⟨UInt64.ofNat (r.pullRequests.length + 1)⟩, request.title,
          pullRequestUrl (r.pullRequests.length + 1)⟩ ∧
        r' = { r with pullRequests := r.pullRequests ++ [request] } := by
  simp only [createPullRequest, requireBranch, bind_eq_ok, require_eq_ok, pure_eq_ok, Prod.mk.injEq,
    exists_and_left, exists_const]

theorem postComment_eq_ok {issue : IssueNumber} {body : String} :
    r.postComment issue body = .ok (answer, r') ↔
      answer = .commentPosted ⟨UInt64.ofNat (1000 + (r.comments.length + 1))⟩ ∧
        r' = { r with comments := r.comments ++ [(issue, body)] } := by
  simp only [postComment, Except.ok.injEq, Prod.mk.injEq]
  exact and_congr eq_comm eq_comm

/-! ## Refusals -/

theorem getRef_of_missing {name : String} (h : r.refs.get? ("refs/" ++ name) = none) :
    r.getRef name = .error (.ofStatus 404 "Not Found") := by
  unfold getRef
  rw [h]
  rfl

theorem createRef_of_taken {name : String} {target : ObjectId}
    (hname : "refs/".toList.isPrefixOf name.toList = true) (h : r.refs.contains name = true) :
    r.createRef name target = .error (.ofStatus 422 "Reference already exists") := by
  unfold createRef
  rw [hname, h]
  rfl

/-- A pull request is refused for the first of its branches that is not there. -/
theorem createPullRequest_of_missing {request : NewPullRequest} {branch : String}
    (h : [request.head, request.base].find? (fun branch => !r.refs.contains (branchRef branch)) = some branch) :
    r.createPullRequest request = .error (.ofStatus 422 s!"Validation Failed: branch {branch} not found") := by
  unfold createPullRequest requireBranch
  cases hhead : r.refs.contains (branchRef request.head) with
  | false =>
    rw [List.find?_cons_of_pos (by rw [hhead]; rfl)] at h
    obtain rfl := Option.some.inj h
    rfl
  | true =>
    rw [List.find?_cons_of_neg (by rw [hhead]; decide)] at h
    cases hbase : r.refs.contains (branchRef request.base) with
    | false =>
      rw [List.find?_cons_of_pos (by rw [hbase]; rfl)] at h
      obtain rfl := Option.some.inj h
      rfl
    | true =>
      rw [List.find?_cons_of_neg (by rw [hbase]; decide)] at h
      cases h

/-! ## Effects -/

/-- The repository after it was asked an effect and before it did anything. -/
def logged (r : Repository) (effect : Effect) : Repository := { r with log := r.log ++ [effect] }

theorem apply_of_failure {effect : Effect} {e : ApiError} (h : r.failures.get? effect.kind = some e) :
    apply effect r = (.error e, r.logged effect) := by
  simp only [apply, h, logged]

theorem apply_of_ok {effect : Effect} (h : r.failures.get? effect.kind = none)
    (hc : (r.logged effect).change effect = .ok (answer, r')) : apply effect r = (.ok answer, r') := by
  simp only [apply, h]
  unfold logged at hc
  rw [hc]

theorem apply_of_error {effect : Effect} {e : ApiError} (h : r.failures.get? effect.kind = none)
    (hc : (r.logged effect).change effect = .error e) :
    apply effect r = (.error e, r.logged effect) := by
  simp only [apply, h]
  unfold logged at hc ⊢
  rw [hc]

/-- An effect is made to fail or refused, and leaves a trace in the log only, or it is granted. -/
theorem apply_cases (effect : Effect) (r : Repository) :
    (∃ e, apply effect r = (.error e, r.logged effect)) ∨
      ∃ answer r', r.failures.get? effect.kind = none ∧
        (r.logged effect).change effect = .ok (answer, r') ∧ apply effect r = (.ok answer, r') := by
  cases hf : r.failures.get? effect.kind with
  | some e => exact .inl ⟨e, apply_of_failure hf⟩
  | none =>
    cases hc : (r.logged effect).change effect with
    | error e => exact .inl ⟨e, apply_of_error hf hc⟩
    | ok result => exact .inr ⟨result.1, result.2, rfl, rfl, apply_of_ok hf hc⟩

/-! ## References -/

/-- What an effect with its answer did to the references: it created one under a free name, it moved one that was
there, or it left them as they were. -/
inductive RefsStep (r r' : Repository) : Effect → Answer → Prop
  | created {name target} (free : r.refs.get? name = none) (refs : r'.refs = r.refs.insert name target) :
      RefsStep r r' (.createRef name target) (.ok (.ref ⟨name, target⟩))
  | moved {name target force current} (there : r.refs.get? ("refs/" ++ name) = some current)
      (refs : r'.refs = r.refs.insert ("refs/" ++ name) target) :
      RefsStep r r' (.updateRef name target force) (.ok (.ref ⟨"refs/" ++ name, target⟩))
  | same {effect answer} (refs : r'.refs = r.refs)
      (idle : ∀ response, answer = .ok response → effect.kind ≠ .createRef ∧ effect.kind ≠ .updateRef) :
      RefsStep r r' effect answer

theorem refsStep_apply (effect : Effect) (r : Repository) :
    RefsStep r (apply effect r).2 effect (apply effect r).1 := by
  rcases apply_cases effect r with ⟨e, h⟩ | ⟨answer, r', -, hc, h⟩
  · rw [h]
    exact .same rfl fun response he => nomatch he
  · rw [h]
    cases effect with
    | getRef name =>
      obtain ⟨target, -, rfl, rfl⟩ := getRef_eq_ok.1 hc
      exact .same rfl fun _ _ => ⟨nofun, nofun⟩
    | createRef name target =>
      obtain ⟨-, hfree, -, rfl, rfl⟩ := createRef_eq_ok.1 hc
      exact .created (Table.contains_eq_false_iff.1 hfree) rfl
    | updateRef name target force =>
      obtain ⟨current, hthere, -, -, rfl, rfl⟩ := updateRef_eq_ok.1 hc
      exact .moved hthere rfl
    | createTree base entries =>
      obtain ⟨files, laid, -, -, rfl, rfl⟩ := createTree_eq_ok.1 hc
      exact .same rfl fun _ _ => ⟨nofun, nofun⟩
    | getCommit id =>
      obtain ⟨commit, -, rfl, rfl⟩ := getCommit_eq_ok.1 hc
      exact .same rfl fun _ _ => ⟨nofun, nofun⟩
    | createCommit message author tree parents =>
      obtain ⟨-, -, rfl, rfl⟩ := createCommit_eq_ok.1 hc
      exact .same rfl fun _ _ => ⟨nofun, nofun⟩
    | createPullRequest request =>
      obtain ⟨-, -, rfl, rfl⟩ := createPullRequest_eq_ok.1 hc
      exact .same rfl fun _ _ => ⟨nofun, nofun⟩
    | postComment issue body =>
      obtain ⟨rfl, rfl⟩ := postComment_eq_ok.1 hc
      exact .same rfl fun _ _ => ⟨nofun, nofun⟩

end CommentBot.Repository
