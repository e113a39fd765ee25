import CommentBot.Proofs.Forge.Contract
import CommentBot.Proofs.Repository.Numbering

/-!
# What a repository remembers

Effects are asked one after the other, and what was written is what is read later.

1. `get?_refs_after`: a reference points where it was pointed last.
2. `keeps_after`: objects that are stored stay as they are, as long as ids fit into 64 bits.
3. `ReachableBy`: the repositories that come about, each with its past. The pull requests and the comments of the past
   are numbered in order (`opened_eq`, `posted_eq`).
4. `reads_return_last_write` puts this together.
-/

namespace CommentBot.Repository

open Forge Git

/-! ## Effects in order -/

/-- The repository after effects were asked, in order. -/
def after (r : Repository) (effects : List Effect) : Repository :=
  effects.foldl (fun r effect => (apply effect r).2) r

/-- The effects with their answers, when they are asked in order. -/
def history (r : Repository) : List Effect → List Exchange
  | [] => []
  | effect :: rest => ⟨effect, (apply effect r).1⟩ :: (apply effect r).2.history rest

variable {r r' : Repository}

@[simp] theorem after_cons (r : Repository) (effect : Effect) (rest : List Effect) :
    r.after (effect :: rest) = (apply effect r).2.after rest := rfl

@[simp] theorem history_cons (r : Repository) (effect : Effect) (rest : List Effect) :
    r.history (effect :: rest) = ⟨effect, (apply effect r).1⟩ :: (apply effect r).2.history rest := rfl

/-- What every effect keeps, any number of effects keep. -/
theorem after_induction {P : Repository → Prop} (hstep : ∀ effect r, P r → P (apply effect r).2) (hr : P r)
    (effects : List Effect) : P (r.after effects) := by
  induction effects generalizing r with
  | nil => exact hr
  | cons effect rest ih => exact ih (hstep effect r hr)

theorem Reachable.after (h : Reachable r) (effects : List Effect) : Reachable (r.after effects) :=
  after_induction (fun effect _ h => h.apply effect) h effects

/-! ## What effects leave alone -/

/-- What an effect with its answer did to the pull requests and to the comments: it added one of them at the end, and
the answer tells its number, or it left both as they were. -/
inductive ThreadsStep (r r' : Repository) : Effect → Answer → Prop
  | opened {request} (pullRequests : r'.pullRequests = r.pullRequests ++ [request])
      (comments : r'.comments = r.comments) :
      ThreadsStep r r' (.createPullRequest request) (.ok (.pullRequest
        ⟨⟨UInt64.ofNat (r.pullRequests.length + 1)⟩, request.title, pullRequestUrl (r.pullRequests.length + 1)⟩))
  | posted {issue body} (pullRequests : r'.pullRequests = r.pullRequests)
      (comments : r'.comments = r.comments ++ [(issue, body)]) :
      ThreadsStep r r' (.postComment issue body)
        (.ok (.commentPosted ⟨UInt64.ofNat (1000 + (r.comments.length + 1))⟩))
  | same {effect answer} (pullRequests : r'.pullRequests = r.pullRequests) (comments : r'.comments = r.comments)
      (idle : ∀ response, answer = .ok response → effect.kind ≠ .createPullRequest ∧ effect.kind ≠ .postComment) :
      ThreadsStep r r' effect answer

theorem threadsStep_apply (effect : Effect) (r : Repository) :
    ThreadsStep r (apply effect r).2 effect (apply effect r).1 ∧ (apply effect r).2.failures = r.failures := by
  rcases apply_cases effect r with ⟨e, h⟩ | ⟨answer, r', -, hc, h⟩
  · rw [h]
    exact ⟨.same rfl rfl (fun response he => nomatch he), rfl⟩
  · rw [h]
    cases effect with
    | getRef name =>
      obtain ⟨target, -, rfl, rfl⟩ := getRef_eq_ok.1 hc
      exact ⟨.same rfl rfl fun _ _ => ⟨nofun, nofun⟩, rfl⟩
    | createRef name target =>
      obtain ⟨-, -, -, rfl, rfl⟩ := createRef_eq_ok.1 hc
      exact ⟨.same rfl rfl fun _ _ => ⟨nofun, nofun⟩, rfl⟩
    | updateRef name target force =>
      obtain ⟨current, -, -, -, rfl, rfl⟩ := updateRef_eq_ok.1 hc
      exact ⟨.same rfl rfl fun _ _ => ⟨nofun, nofun⟩, rfl⟩
    | createTree base entries =>
      obtain ⟨files, laid, -, -, rfl, rfl⟩ := createTree_eq_ok.1 hc
      exact ⟨.same rfl rfl fun _ _ => ⟨nofun, nofun⟩, rfl⟩
    | getCommit id =>
      obtain ⟨commit, -, rfl, rfl⟩ := getCommit_eq_ok.1 hc
      exact ⟨.same rfl rfl fun _ _ => ⟨nofun, nofun⟩, rfl⟩
    | createCommit message author tree parents =>
      obtain ⟨-, -, rfl, rfl⟩ := createCommit_eq_ok.1 hc
      exact ⟨.same rfl rfl fun _ _ => ⟨nofun, nofun⟩, rfl⟩
    | createPullRequest request =>
      obtain ⟨-, -, rfl, rfl⟩ := createPullRequest_eq_ok.1 hc
      exact ⟨.opened rfl rfl, rfl⟩
    | postComment issue body =>
      obtain ⟨rfl, rfl⟩ := postComment_eq_ok.1 hc
      exact ⟨.posted rfl rfl, rfl⟩

theorem failures_after (r : Repository) (effects : List Effect) : (r.after effects).failures = r.failures :=
  after_induction (P := fun r' => r'.failures = r.failures)
    (fun effect r' h => (threadsStep_apply effect r').2.trans h) rfl effects

theorem issued_le_after (r : Repository) (effects : List Effect) : r.issued ≤ (r.after effects).issued :=
  after_induction (P := fun r' => r.issued ≤ r'.issued)
    (fun effect r' h => Nat.le_trans h (stores_apply effect r').issued_le) (Nat.le_refl _) effects

/-! ## References -/

/-- Where the exchange pointed the reference, if it did. The name is full. -/
def written? (name : String) (x : Exchange) : Option ObjectId :=
  match x.effect, x.answer with
  | .createRef name' target, .ok _ => if name' = name then some target else none
  | .updateRef name' target _, .ok _ => if "refs/" ++ name' = name then some target else none
  | _, _ => none

/-- Where the reference was pointed last, if it was pointed at all. -/
def lastWritten? (name : String) (past : List Exchange) : Option ObjectId :=
  (past.filterMap (written? name)).getLast?

theorem lastWritten?_cons (name : String) (x : Exchange) (past : List Exchange) :
    lastWritten? name (x :: past) = (lastWritten? name past).or (written? name x) := by
  unfold lastWritten?
  cases hx : written? name x with
  | none => rw [List.filterMap_cons_none hx, Option.or_none]
  | some target =>
    rw [List.filterMap_cons_some hx, List.getLast?_cons]
    cases (past.filterMap (written? name)).getLast? <;> rfl

theorem written?_eq_none {name : String} {x : Exchange} (h : ∀ response, x.answer = .ok response →
    x.effect.kind ≠ .createRef ∧ x.effect.kind ≠ .updateRef) : written? name x = none := by
  obtain ⟨effect, answer⟩ := x
  unfold written?
  split
  · next heffect hanswer =>
    dsimp only at heffect
    subst heffect
    exact absurd rfl (h _ hanswer).1
  · next heffect hanswer =>
    dsimp only at heffect
    subst heffect
    exact absurd rfl (h _ hanswer).2
  · rfl

/-- An effect points a reference somewhere, or leaves it where it was. -/
theorem get?_refs_apply (effect : Effect) (r : Repository) (name : String) : (apply effect r).2.refs.get? name =
    (written? name ⟨effect, (apply effect r).1⟩).or (r.refs.get? name) := by
  have hstep := refsStep_apply effect r
  generalize (apply effect r).1 = answer at *
  generalize (apply effect r).2 = r' at *
  cases hstep with
  | @created name' target free refs =>
    rw [refs]
    by_cases h : name' = name
    · subst h
      simp [written?]
    · simp [written?, h, Table.get?_insert_of_ne _ (Ne.symm h)]
  | @moved name' target force current there refs =>
    rw [refs]
    by_cases h : "refs/" ++ name' = name
    · subst h
      simp [written?]
    · simp [written?, h, Table.get?_insert_of_ne _ (Ne.symm h)]
  | same refs idle => rw [refs, written?_eq_none idle, Option.none_or]

/-- **A reference points where it was pointed last**, or where it pointed before. -/
theorem get?_refs_after (r : Repository) (effects : List Effect) (name : String) :
    (r.after effects).refs.get? name = (lastWritten? name (r.history effects)).or (r.refs.get? name) := by
  induction effects generalizing r with
  | nil => rfl
  | cons effect rest ih =>
    rw [after_cons, ih, get?_refs_apply, history_cons, lastWritten?_cons, Option.or_assoc]

/-- A reference that is there stays there. -/
theorem contains_refs_after {name : String} (h : r.refs.contains name = true) (effects : List Effect) :
    (r.after effects).refs.contains name = true := by
  obtain ⟨target, htarget⟩ := Table.contains_eq_true_iff.1 h
  refine Table.contains_eq_true_iff.2 ?_
  rw [get?_refs_after, htarget]
  cases lastWritten? name (r.history effects) with
  | none => exact ⟨target, rfl⟩
  | some last => exact ⟨last, rfl⟩

/-- The reference was there at no moment, neither before nor after any of the effects. -/
def NeverPresent (r : Repository) (effects : List Effect) (name : String) : Prop :=
  ∀ before, before <+: effects → (r.after before).refs.get? name = none

theorem neverPresent_iff {effects : List Effect} {name : String} :
    NeverPresent r effects name ↔ (r.after effects).refs.get? name = none := by
  refine ⟨fun h => h effects List.prefix_rfl, fun h before hbefore => ?_⟩
  obtain ⟨rest, rfl⟩ := hbefore
  have happend : r.after (before ++ rest) = (r.after before).after rest := List.foldl_append ..
  rw [happend] at h
  refine Table.contains_eq_false_iff.1 (Bool.not_eq_true _ ▸ fun hthere => ?_)
  have hstays := contains_refs_after hthere rest
  rw [Table.contains_eq_false_iff.2 h] at hstays
  cases hstays

/-- What a reference that is looked up is answered with, by where it points. -/
def refAnswer (name : String) : Option ObjectId → Answer
  | some target => .ok (.ref ⟨name, target⟩)
  | none => .error (.ofStatus 404 "Not Found")

theorem apply_getRef (h : r.failures.get? .getRef = none) (name : String) :
    (apply (.getRef name) r).1 = refAnswer ("refs/" ++ name) (r.refs.get? ("refs/" ++ name)) := by
  cases htarget : r.refs.get? ("refs/" ++ name) with
  | some target =>
    have hfound : apply (.getRef name) r = _ := apply_of_ok h (getRef_eq_ok.2 ⟨target, htarget, rfl, rfl⟩)
    rw [hfound, refAnswer]
  | none =>
    have hmissing : apply (.getRef name) r = _ := apply_of_error h (getRef_of_missing htarget)
    rw [hmissing, refAnswer]

theorem refAnswer_eq_error_iff {name : String} {target : Option ObjectId} {e : ApiError} :
    refAnswer name target = .error e ↔ target = none ∧ e = .ofStatus 404 "Not Found" := by
  cases target <;> simp [refAnswer, eq_comm]

/-! ## Objects -/

/-- The objects of one repository are in another one, as they are. -/
structure Keeps (r r' : Repository) : Prop where
  trees : ∀ {id files}, r.trees.get? id = some files → r'.trees.get? id = some files
  commits : ∀ {id commit}, r.commits.get? id = some commit → r'.commits.get? id = some commit

theorem Keeps.refl (r : Repository) : Keeps r r := ⟨fun h => h, fun h => h⟩

theorem Keeps.trans {r'' : Repository} (h : Keeps r r') (h' : Keeps r' r'') : Keeps r r'' :=
  ⟨fun htree => h'.trees (h.trees htree), fun hcommit => h'.commits (h.commits hcommit)⟩

/-- A value set at a new key leaves the others alone. -/
theorem get?_insert_of_new {κ α : Type} [DecidableEq κ] {t : Table κ α} {k k₀ : κ} (hnew : t.get? k = none) {a b : α}
    (h : t.get? k₀ = some a) : (t.insert k b).get? k₀ = some a := by
  have hne : k₀ ≠ k := by
    rintro rfl
    cases hnew.symm.trans h
  rw [Table.get?_insert_of_ne t hne, h]

/-- A new object does not come in the place of another one, since its id is new. -/
theorem Stores.keeps (hs : Stores r r') (hr : Integrity r) (hlasts : ∀ n < r'.issued, CounterLasts n) :
    Keeps r r' := by
  cases hs with
  | nothing htrees hcommits hissued =>
    constructor
    · rw [htrees]
      exact fun h => h
    · rw [hcommits]
      exact fun h => h
  | tree htrees hcommits hissued =>
    obtain ⟨-, hnew⟩ := hr.fresh (Nat.le_refl _) (hlasts r.issued (by omega)).lt
    constructor
    · rw [htrees]
      exact get?_insert_of_new hnew
    · rw [hcommits]
      exact fun h => h
  | commit hparents htrees hcommits hissued =>
    obtain ⟨hnew, -⟩ := hr.fresh (Nat.le_refl _) (hlasts r.issued (by omega)).lt
    constructor
    · rw [htrees]
      exact fun h => h
    · rw [hcommits]
      exact get?_insert_of_new hnew

/-- **Objects that are stored stay as they are.** -/
theorem keeps_after (hr : Integrity r) (effects : List Effect)
    (hlasts : ∀ n < (r.after effects).issued, CounterLasts n) : Keeps r (r.after effects) := by
  induction effects generalizing r with
  | nil => exact .refl r
  | cons effect rest ih =>
    have hle := issued_le_after (apply effect r).2 rest
    have hfirst : Keeps r (apply effect r).2 :=
      (stores_apply effect r).keeps hr fun n hn => hlasts n (Nat.lt_of_lt_of_le hn hle)
    exact hfirst.trans (ih (hr.apply effect) hlasts)

theorem apply_getCommit (h : r.failures.get? .getCommit = none) {id : ObjectId} {commit : Commit}
    (hcommit : r.commits.get? id = some commit) : (apply (.getCommit id) r).1 = .ok (.commit commit) := by
  have hfound : apply (.getCommit id) r = _ := apply_of_ok h (getCommit_eq_ok.2 ⟨commit, hcommit, rfl, rfl⟩)
  rw [hfound]

/-- A commit is stored as it was asked for. -/
theorem stored_of_createCommit {message : String} {author : Signature} {tree : ObjectId} {parents : List ObjectId}
    {commit : Commit} (h : (apply (.createCommit message author tree parents) r).1 = .ok (.commit commit)) :
    commit = ⟨commit.id, message, author, tree, parents⟩ ∧
      (apply (.createCommit message author tree parents) r).2.commits.get? commit.id = some commit := by
  rcases apply_cases (.createCommit message author tree parents) r with ⟨e, hfailed⟩ | ⟨answer, r', -, hc, hdone⟩
  · rw [hfailed] at h
    cases h
  · rw [hdone] at h ⊢
    obtain ⟨-, -, rfl, rfl⟩ := createCommit_eq_ok.1 hc
    obtain rfl := Response.commit.inj (Except.ok.inj h)
    exact ⟨rfl, Table.get?_insert_self ..⟩

/-- A commit that was created at some time is stored from then on. -/
theorem stored_of_mem_history (hr : Integrity r) {effects : List Effect}
    (hlasts : ∀ n < (r.after effects).issued, CounterLasts n) {message : String} {author : Signature}
    {tree : ObjectId} {parents : List ObjectId} {commit : Commit}
    (h : ⟨.createCommit message author tree parents, .ok (.commit commit)⟩ ∈ r.history effects) :
    commit = ⟨commit.id, message, author, tree, parents⟩ ∧
      (r.after effects).commits.get? commit.id = some commit := by
  induction effects generalizing r with
  | nil => cases h
  | cons effect rest ih =>
    rcases List.mem_cons.1 h with heq | h
    · obtain ⟨rfl, hanswer⟩ := Exchange.mk.inj heq
      obtain ⟨hfields, hstored⟩ := stored_of_createCommit hanswer.symm
      exact ⟨hfields, (keeps_after (hr.apply _) rest hlasts).commits hstored⟩
    · exact ih (hr.apply effect) hlasts h

/-! ## Pull requests and comments -/

/-- The repositories that come about, each with the exchanges since it began. -/
inductive ReachableBy : List Exchange → Repository → Prop
  | empty : ReachableBy [] .empty
  | withBranch (branch : String) : ReachableBy [] (.withBranch branch)
  | apply {past r} (h : ReachableBy past r) (effect : Effect) :
      ReachableBy (past ++ [⟨effect, (apply effect r).1⟩]) (apply effect r).2
  | addBranch {past r r' branch} (h : ReachableBy past r) (hr' : r.addBranch? branch = some r') : ReachableBy past r'
  | failOn {past r} (h : ReachableBy past r) (kind : EffectKind) (e : ApiError) : ReachableBy past (r.failOn kind e)
  | client {past r} (h : ReachableBy past r) (installation : Option InstallationId) (repo : RepoId) :
      ReachableBy past { r with clients := r.clients ++ [(installation, repo)] }

theorem reachable_iff_exists_past : Reachable r ↔ ∃ past, ReachableBy past r := by
  constructor
  · intro h
    induction h with
    | empty => exact ⟨_, .empty⟩
    | withBranch branch => exact ⟨_, .withBranch branch⟩
    | apply h effect ih => exact ih.elim fun _ h => ⟨_, h.apply effect⟩
    | addBranch h hr' ih => exact ih.elim fun _ h => ⟨_, h.addBranch hr'⟩
    | failOn h kind e ih => exact ih.elim fun _ h => ⟨_, h.failOn kind e⟩
    | client h installation repo ih => exact ih.elim fun _ h => ⟨_, h.client installation repo⟩
  · rintro ⟨past, h⟩
    induction h with
    | empty => exact .empty
    | withBranch branch => exact .withBranch branch
    | apply h effect ih => exact ih.apply effect
    | addBranch h hr' ih => exact ih.addBranch hr'
    | failOn h kind e ih => exact ih.failOn kind e
    | client h installation repo ih => exact ih.client installation repo

theorem ReachableBy.after {past : List Exchange} (h : ReachableBy past r) (effects : List Effect) :
    ReachableBy (past ++ r.history effects) (r.after effects) := by
  induction effects generalizing past r with
  | nil =>
    rw [history, List.append_nil]
    exact h
  | cons effect rest ih => simpa using ih (h.apply effect)

/-- The pull request that the exchange opened, if it did. -/
def opened? (x : Exchange) : Option PullRequest :=
  match x.effect, x.answer with
  | .createPullRequest _, .ok (.pullRequest p) => some p
  | _, _ => none

/-- The id of the comment that the exchange posted, if it did. -/
def posted? (x : Exchange) : Option CommentId :=
  match x.effect, x.answer with
  | .postComment .., .ok (.commentPosted id) => some id
  | _, _ => none

/-- A pull request under its number. -/
def numbered (request : NewPullRequest) (number : Nat) : PullRequest :=
  ⟨⟨UInt64.ofNat number⟩, request.title, pullRequestUrl number⟩

/-- The id of the comment that came after `earlier` others. -/
def commentId (earlier : Nat) : CommentId := ⟨UInt64.ofNat (1000 + (earlier + 1))⟩

theorem not_opened_of_idle {x : Exchange} (h : ∀ response, x.answer = .ok response →
    x.effect.kind ≠ .createPullRequest ∧ x.effect.kind ≠ .postComment) : opened? x = none ∧ posted? x = none := by
  obtain ⟨effect, answer⟩ := x
  cases answer with
  | error e => cases effect <;> exact ⟨rfl, rfl⟩
  | ok response =>
    obtain ⟨hopened, hposted⟩ := h response rfl
    cases effect with
    | createPullRequest request => exact absurd rfl hopened
    | postComment issue body => exact absurd rfl hposted
    | _ => exact ⟨rfl, rfl⟩

/-- The pull requests that were opened are those of the repository, numbered from one in order; and the comments that
were posted have their ids in order. -/
theorem ReachableBy.threads {past : List Exchange} (h : ReachableBy past r) :
    past.filterMap opened? = (r.pullRequests.zipIdx 1).map (fun p => numbered p.1 p.2) ∧
      past.filterMap posted? = (List.range r.comments.length).map commentId := by
  induction h with
  | empty => exact ⟨rfl, rfl⟩
  | withBranch branch => exact ⟨rfl, rfl⟩
  | @apply past r h effect ih =>
    obtain ⟨hopened, hposted⟩ := ih
    have hstep := (threadsStep_apply effect r).1
    generalize (Repository.apply effect r).1 = answer at *
    generalize (Repository.apply effect r).2 = r' at *
    rw [List.filterMap_append, List.filterMap_append, hopened, hposted]
    cases hstep with
    | @opened request hpulls hcomments =>
      rw [hpulls, hcomments, List.zipIdx_append, List.map_append]
      refine ⟨?_, List.append_nil _⟩
      rw [Nat.add_comm]
      rfl
    | @posted issue body hpulls hcomments =>
      rw [hpulls, hcomments, List.length_append, List.length_singleton, List.range_succ, List.map_append]
      exact ⟨List.append_nil _, rfl⟩
    | same hpulls hcomments idle =>
      obtain ⟨hnone, hnone'⟩ := not_opened_of_idle (x := ⟨effect, answer⟩) idle
      rw [hpulls, hcomments, List.filterMap_cons_none hnone, List.filterMap_cons_none hnone']
      exact ⟨List.append_nil _, List.append_nil _⟩
  | addBranch h hr' ih =>
    obtain ⟨root, -, rfl⟩ := Option.map_eq_some_iff.1 hr'
    exact ih
  | failOn h kind e ih => exact ih
  | client h installation repo ih => exact ih

theorem exists_pull_url (number : Nat) : ∃ front, pullRequestUrl number = front ++ "/pull/" ++ toString number :=
  ⟨"https://github.com/" ++ id.text, rfl⟩

/-- The pull request that was opened after `k` others has the next number, and its URL ends with it. -/
theorem ReachableBy.pull_numbered {past : List Exchange} (h : ReachableBy past r) {k : Nat} {p : PullRequest}
    (hp : (past.filterMap opened?)[k]? = some p) :
    p.number.value = UInt64.ofNat (k + 1) ∧ ∃ front, p.url = front ++ "/pull/" ++ toString (k + 1) := by
  rw [h.threads.1, List.getElem?_map, List.getElem?_zipIdx] at hp
  obtain ⟨⟨request, number⟩, hfound, rfl⟩ := Option.map_eq_some_iff.1 hp
  obtain ⟨request', -, hpair⟩ := Option.map_eq_some_iff.1 hfound
  obtain ⟨rfl, rfl⟩ := Prod.mk.inj hpair
  rw [Nat.add_comm 1 k]
  exact ⟨rfl, exists_pull_url (k + 1)⟩

theorem commentId_lt {m n : Nat} (hmn : m < n) (hn : 1000 + (n + 1) < 2 ^ 64) :
    (commentId m).value < (commentId n).value := by
  unfold commentId
  rw [UInt64.lt_iff_toNat_lt, UInt64.toNat_ofNat_of_lt' (by unfold UInt64.size; omega),
    UInt64.toNat_ofNat_of_lt' (by unfold UInt64.size; omega)]
  omega

/-- The ids of comments grow, as long as they fit into 64 bits. -/
theorem ReachableBy.posted_increasing {past : List Exchange} (h : ReachableBy past r)
    (hfits : 1000 + r.comments.length < 2 ^ 64) :
    (past.filterMap posted?).Pairwise fun earlier later => earlier.value < later.value := by
  rw [h.threads.2, List.pairwise_map]
  refine List.pairwise_lt_range.imp_of_mem fun _ hn hmn => commentId_lt hmn ?_
  have hlast := List.mem_range.1 hn
  omega

/-! ## Reading and writing -/

/-- **What is read is what was written last.** Take any repository that comes about, and ask any effects of it.

* Unless looking up references is made to fail, a reference is found where the last effect that was granted on it has
  pointed it, or where it pointed before; and it is not found exactly if it was there at no moment. No reference goes
  away.
* As long as the ids that were issued fit into 64 bits, trees and commits stay as they are. Unless looking up commits
  is made to fail, each commit that was there, and each that was created, is found under its own id as it was.
* Pull requests are numbered in the order in which they were opened since the repository began, and the ids of
  comments grow, as long as they fit into 64 bits. -/
theorem reads_return_last_write (h : Reachable r) (effects : List Effect) :
    let r' := r.after effects
    (r.failures.get? .getRef = none → ∀ name,
      (apply (.getRef name) r').1 = refAnswer ("refs/" ++ name)
        ((lastWritten? ("refs/" ++ name) (r.history effects)).or (r.refs.get? ("refs/" ++ name))) ∧
      ((∃ e, (apply (.getRef name) r').1 = .error e ∧ e.kind = .notFound) ↔
        NeverPresent r effects ("refs/" ++ name))) ∧
    (∀ name, r.refs.contains name = true → r'.refs.contains name = true) ∧
    ((∀ n < r'.issued, CounterLasts n) → Keeps r r' ∧
      (r.failures.get? .getCommit = none →
        (∀ id commit, r.commits.get? id = some commit →
          commit.id = id ∧ (apply (.getCommit id) r').1 = .ok (.commit commit)) ∧
        (∀ message author tree parents commit,
          ⟨.createCommit message author tree parents, .ok (.commit commit)⟩ ∈ r.history effects →
          commit = ⟨commit.id, message, author, tree, parents⟩ ∧
            (apply (.getCommit commit.id) r').1 = .ok (.commit commit)))) ∧
    (∃ past, ReachableBy past r) ∧
    (∀ past, ReachableBy past r →
      (∀ k p, ((past ++ r.history effects).filterMap opened?)[k]? = some p →
        p.number.value = UInt64.ofNat (k + 1) ∧ ∃ front, p.url = front ++ "/pull/" ++ toString (k + 1)) ∧
      (1000 + r'.comments.length < 2 ^ 64 → ((past ++ r.history effects).filterMap posted?).Pairwise
        fun earlier later => earlier.value < later.value)) := by
  intro r'
  have hfailures : r'.failures = r.failures := failures_after r effects
  have hr := h.integrity
  refine ⟨fun hnone name => ?_, fun name hthere => contains_refs_after hthere effects,
    fun hlasts => ⟨keeps_after hr effects hlasts, fun hnone => ⟨fun id commit hcommit => ?_,
      fun message author tree parents commit hcreated => ?_⟩⟩,
    reachable_iff_exists_past.1 h, fun past hpast => ⟨fun k p hp => ?_, fun hfits => ?_⟩⟩
  · have hread := apply_getRef (r := r') (hfailures ▸ hnone) name
    constructor
    · rw [hread, get?_refs_after]
    · rw [neverPresent_iff, hread]
      simp only [refAnswer_eq_error_iff]
      constructor
      · rintro ⟨e, ⟨hmissing, -⟩, -⟩
        exact hmissing
      · exact fun hmissing => ⟨_, ⟨hmissing, rfl⟩, rfl⟩
  · exact ⟨hr.own hcommit, apply_getCommit (hfailures ▸ hnone) ((keeps_after hr effects hlasts).commits hcommit)⟩
  · obtain ⟨hfields, hstored⟩ := stored_of_mem_history hr hlasts hcreated
    exact ⟨hfields, apply_getCommit (hfailures ▸ hnone) hstored⟩
  · exact (hpast.after effects).pull_numbered hp
  · exact (hpast.after effects).posted_increasing hfits

/-- Effects that create a commit, a branch and two comments, point the branch at the commit and open a pull request. -/
def topicEffects : List Effect :=
  [.createCommit "Add" founder (freshId 0) [freshId 1], .createRef "refs/heads/topic" (freshId 1),
    .postComment ⟨1⟩ "one", .updateRef "heads/topic" (freshId 2) true, .postComment ⟨1⟩ "two",
    .createPullRequest ⟨"Topic", "topic", "main", ""⟩]

theorem topic_read_back :
    let r := Repository.withBranch "main"
    Reachable r ∧ (∀ n < (r.after topicEffects).issued, CounterLasts n) ∧
      (apply (.getRef "heads/topic") (r.after topicEffects)).1 = .ok (.ref ⟨"refs/heads/topic", freshId 2⟩) ∧
      (apply (.getCommit (freshId 2)) (r.after topicEffects)).1 =
        .ok (.commit ⟨freshId 2, "Add", founder, freshId 0, [freshId 1]⟩) ∧
      ((r.history topicEffects).filterMap posted?).Pairwise fun earlier later => earlier.value < later.value := by
  intro r
  have hreachable : Reachable r := .withBranch "main"
  have hissued : (r.after topicEffects).issued = 3 := by decide +kernel
  have hlasts : ∀ n < (r.after topicEffects).issued, CounterLasts n := by
    intro n hn
    unfold CounterLasts
    omega
  have hcreated : (apply (.createCommit "Add" founder (freshId 0) [freshId 1]) r).1 =
      .ok (.commit ⟨freshId 2, "Add", founder, freshId 0, [freshId 1]⟩) := by decide +kernel
  obtain ⟨hrefs, -, hcommits, -, hthreads⟩ := reads_return_last_write hreachable topicEffects
  obtain ⟨-, hcommits⟩ := hcommits hlasts
  refine ⟨hreachable, hlasts, (hrefs rfl "heads/topic").1.trans (by decide +kernel), ?_, ?_⟩
  · refine ((hcommits rfl).2 "Add" founder (freshId 0) [freshId 1] ⟨freshId 2, _, _, _, _⟩ ?_).2
    rw [← hcreated]
    exact List.mem_cons_self
  · exact (hthreads [] (.withBranch "main")).2 (by decide +kernel)

end CommentBot.Repository
