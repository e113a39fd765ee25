import CommentBot.Proofs.Repository.History
import Mathlib.Logic.Hydra

/-!
# Ancestors

A reference that is updated without force goes forward: to a commit from which the one that it points at can be
reached. Whether it can be is decided by a search through the parents.

1. `Descends` says what an ancestor is, by steps from a commit to one of its parents. `reaches_eq_true_iff`: the search
   that `isAncestor` makes finds all ancestors and nothing else, on any table of commits.
2. `search` keeps no record of where it has been. It ends where commits have no cycles, though it can come to the same
   commit many times: what is pending is replaced by finitely many older commits (`wellFounded_parents`). It finds what
   `isAncestor` finds (`search_eq`).
3. `updates_go_forward` puts this together for an update, and `leadsTo_after` follows references over any effects.
-/

namespace CommentBot.Table

/-! ## Leaving out a key -/

variable {κ α : Type} [DecidableEq κ]

theorem get?_erase_self (t : Table κ α) (k : κ) : (t.erase k).get? k = none := by
  obtain ⟨entries⟩ := t
  simp only [get?, erase]
  induction entries with
  | nil => rfl
  | cons entry rest ih =>
    obtain ⟨k', a'⟩ := entry
    by_cases h : k' = k
    · simpa [h] using ih
    · have hk : (k == k') = false := by simpa using Ne.symm h
      rw [List.filter_cons_of_pos (by simpa using h), List.lookup_cons, hk]
      exact ih

theorem get?_erase_of_ne (t : Table κ α) {k k₀ : κ} (h : k₀ ≠ k) : (t.erase k).get? k₀ = t.get? k₀ := by
  obtain ⟨entries⟩ := t
  simp only [get?, erase]
  induction entries with
  | nil => rfl
  | cons entry rest ih =>
    obtain ⟨k', a'⟩ := entry
    by_cases h' : k' = k
    · have hk : (k₀ == k') = false := by simpa using fun he => h (he.trans h')
      rw [List.filter_cons_of_neg (by simpa using h'), List.lookup_cons, hk]
      exact ih
    · rw [List.filter_cons_of_pos (by simpa using h'), List.lookup_cons, List.lookup_cons, ih]

end CommentBot.Table

namespace CommentBot.Repository

open Forge Git Relation

/-! ## Descent -/

/-- `child` is stored among the commits, and names `parent` among its parents. -/
def ParentIn (commits : Table ObjectId Commit) (child parent : ObjectId) : Prop :=
  ∃ commit, commits.get? child = some commit ∧ parent ∈ commit.parents

/-- `ancestor` is `id`, or is reached from it by steps from a stored commit to one of its parents. -/
def Descends (r : Repository) (id ancestor : ObjectId) : Prop := ReflTransGen r.HasParent id ancestor

/-- The parents of a commit, if it is stored. -/
def parentsOf (commits : Table ObjectId Commit) (id : ObjectId) : List ObjectId :=
  match commits.get? id with
  | some commit => commit.parents
  | none => []

variable {commits : Table ObjectId Commit} {id ancestor : ObjectId}

theorem mem_parentsOf_iff {parent : ObjectId} : parent ∈ parentsOf commits id ↔ ParentIn commits id parent := by
  unfold parentsOf ParentIn
  cases commits.get? id <;> simp

/-- The ancestor is one of the pending ids, or is reached from one of them. -/
def FoundFrom (commits : Table ObjectId Commit) (ancestor : ObjectId) (pending : List ObjectId) : Prop :=
  ∃ id ∈ pending, ReflTransGen (ParentIn commits) id ancestor

theorem foundFrom_append_iff {front behind : List ObjectId} :
    FoundFrom commits ancestor (front ++ behind) ↔
      FoundFrom commits ancestor front ∨ FoundFrom commits ancestor behind := by
  simp only [FoundFrom, List.mem_append, or_and_right, exists_or]

/-- An id leads to another one if its parents do. -/
theorem foundFrom_parentsOf_iff (h : id ≠ ancestor) :
    FoundFrom commits ancestor (parentsOf commits id) ↔ ReflTransGen (ParentIn commits) id ancestor := by
  constructor
  · rintro ⟨parent, hparent, hleads⟩
    exact .head (mem_parentsOf_iff.1 hparent) hleads
  · intro hleads
    obtain heq | ⟨parent, hparent, hrest⟩ := ReflTransGen.cases_head_iff.1 hleads
    · exact absurd heq h
    · exact ⟨parent, mem_parentsOf_iff.2 hparent, hrest⟩

/-! ## The search that visits each commit once -/

theorem parentIn_erase_iff {child parent : ObjectId} :
    ParentIn (commits.erase id) child parent ↔ child ≠ id ∧ ParentIn commits child parent := by
  unfold ParentIn
  by_cases h : child = id
  · subst h
    simp [Table.get?_erase_self]
  · simp [Table.get?_erase_of_ne commits h, h]

/-- A way to an ancestor can leave out a commit, or start at one of its parents and then leave it out. -/
theorem leaves_out (id : ObjectId) {child : ObjectId} (h : ReflTransGen (ParentIn commits) child ancestor) :
    ReflTransGen (ParentIn (commits.erase id)) child ancestor ∨
      FoundFrom (commits.erase id) ancestor (parentsOf commits id) := by
  induction h using ReflTransGen.head_induction_on with
  | refl => exact .inl .refl
  | @head child parent hstep _ ih =>
    rcases ih with hrest | hrest
    · by_cases heq : child = id
      · exact .inr ⟨parent, mem_parentsOf_iff.2 (heq ▸ hstep), hrest⟩
      · exact .inl (.head (parentIn_erase_iff.2 ⟨heq, hstep⟩) hrest)
    · exact .inr hrest

/-- Once a commit is left out, its parents are pending in its place. -/
theorem foundFrom_erase_iff {rest : List ObjectId} (hid : id ≠ ancestor) :
    FoundFrom (commits.erase id) ancestor (parentsOf commits id ++ rest) ↔ FoundFrom commits ancestor (id :: rest) := by
  have hfewer : ParentIn (commits.erase id) ≤ ParentIn commits := fun _ _ hstep => (parentIn_erase_iff.1 hstep).2
  have hmono : ∀ child, ReflTransGen (ParentIn (commits.erase id)) child ancestor →
      ReflTransGen (ParentIn commits) child ancestor := fun child => ReflTransGen.mono hfewer child ancestor
  constructor
  · rintro ⟨child, hchild, hleads⟩
    rcases List.mem_append.1 hchild with hparent | hrest
    · exact ⟨id, List.mem_cons_self, (foundFrom_parentsOf_iff hid).1 ⟨child, hparent, hmono child hleads⟩⟩
    · exact ⟨child, List.mem_cons_of_mem _ hrest, hmono child hleads⟩
  · rintro ⟨child, hchild, hleads⟩
    rw [foundFrom_append_iff]
    rcases leaves_out id hleads with hleads | hleads
    · rcases List.mem_cons.1 hchild with rfl | hrest
      · -- without its parents a commit leads to itself only
        obtain heq | ⟨parent, hparent, -⟩ := ReflTransGen.cases_head_iff.1 hleads
        · exact absurd heq hid
        · exact absurd rfl (parentIn_erase_iff.1 hparent).1
      · exact .inr ⟨child, hrest, hleads⟩
    · exact .inl hleads

theorem parentsOf_of_get? {commit : Commit} (h : commits.get? id = some commit) :
    parentsOf commits id = commit.parents := by
  rw [parentsOf, h]

theorem parentsOf_of_missing (h : commits.get? id = none) : parentsOf commits id = [] := by
  rw [parentsOf, h]

/-- The search finds what a pending id leads to, on any table of commits. -/
theorem reaches_eq_true_iff {pending : List ObjectId} :
    reaches ancestor commits pending = true ↔ FoundFrom commits ancestor pending := by
  fun_induction reaches ancestor commits pending with
  | case1 commits => simp [FoundFrom]
  | case2 commits rest => exact iff_of_true rfl ⟨ancestor, List.mem_cons_self, .refl⟩
  | case3 commits id rest hid commit hcommit ih =>
    rw [ih, ← foundFrom_erase_iff hid, parentsOf_of_get? hcommit]
  | case4 commits id rest hid hmissing ih =>
    have hnone : ¬ ReflTransGen (ParentIn commits) id ancestor := by
      rw [← foundFrom_parentsOf_iff hid, parentsOf_of_missing hmissing]
      simp [FoundFrom]
    rw [ih]
    simp [FoundFrom, hnone]

/-- One commit is an ancestor of another one as `isAncestor` says. -/
theorem isAncestor_eq_true_iff {r : Repository} {descendant : ObjectId} :
    isAncestor r.commits ancestor descendant = true ↔ r.Descends descendant ancestor := by
  rw [isAncestor, reaches_eq_true_iff]
  simp only [FoundFrom, List.mem_singleton, exists_eq_left]
  rfl

/-! ## The search that keeps no record -/

/-- The search for an ancestor that does not know where it has been. It takes the last id that is pending. If that is
not the one that is looked for, the parents of the commit are pending behind the others. None, if it has not ended after
so many rounds. -/
def search (ancestor : ObjectId) (commits : Table ObjectId Commit) : (rounds : Nat) → List ObjectId → Option Bool
  | 0, _ => none
  | rounds + 1, pending =>
    match pending.getLast? with
    | none => some false
    | some id =>
      if id = ancestor then some true else search ancestor commits rounds (pending.dropLast ++ parentsOf commits id)

theorem search_nil (rounds : Nat) : search ancestor commits (rounds + 1) [] = some false := rfl

theorem search_concat_of_eq (rounds : Nat) (rest : List ObjectId) :
    search ancestor commits (rounds + 1) (rest ++ [ancestor]) = some true := by
  rw [search, List.getLast?_concat]
  exact if_pos rfl

theorem search_concat_of_ne (h : id ≠ ancestor) (rounds : Nat) (rest : List ObjectId) :
    search ancestor commits (rounds + 1) (rest ++ [id]) =
      search ancestor commits rounds (rest ++ parentsOf commits id) := by
  rw [search, List.getLast?_concat, List.dropLast_concat]
  exact if_neg h

/-- A search that has ended does not change its mind. -/
theorem search_mono {rounds more : Nat} {pending : List ObjectId} {found : Bool} (hle : rounds ≤ more)
    (h : search ancestor commits rounds pending = some found) : search ancestor commits more pending = some found := by
  induction rounds generalizing more pending with
  | zero => cases h
  | succ rounds ih =>
    obtain ⟨more, rfl⟩ := Nat.exists_eq_add_of_le' (Nat.le_trans (Nat.le_add_left 1 rounds) hle)
    rw [search] at h ⊢
    split at h
    · exact h
    · next id _ =>
      by_cases hid : id = ancestor
      · rw [if_pos hid] at h ⊢
        exact h
      · rw [if_neg hid] at h ⊢
        exact ih (Nat.le_of_succ_le_succ hle) h

/-- Where no commit descends from itself without end, the search ends, with what the pending ids lead to. -/
theorem search_ends (hparents : WellFounded fun parent child => ParentIn commits child parent)
    (ancestor : ObjectId) (pending : List ObjectId) :
    ∃ rounds found, search ancestor commits rounds pending = some found ∧
      (found = true ↔ FoundFrom commits ancestor pending) := by
  -- a round replaces one pending id by some of its parents, as in the game of the hydra
  induction hp : (pending : Multiset ObjectId) using hparents.cutExpand.induction generalizing pending with
  | _ heads ih =>
    subst hp
    induction pending using List.reverseRecOn with
    | nil => exact ⟨1, false, search_nil 0, by simp [FoundFrom]⟩
    | append_singleton rest id =>
      by_cases hid : id = ancestor
      · subst hid
        exact ⟨1, true, search_concat_of_eq 0 rest, iff_of_true rfl ⟨id, by simp, .refl⟩⟩
      · have hcut : CutExpand (fun parent child => ParentIn commits child parent)
            ((rest ++ parentsOf commits id : List ObjectId) : Multiset ObjectId) (rest ++ [id] : List ObjectId) := by
          refine ⟨parentsOf commits id, id, fun parent hparent => mem_parentsOf_iff.1 hparent, ?_⟩
          rw [← Multiset.coe_add, ← Multiset.coe_add, Multiset.coe_singleton]
          exact add_right_comm _ _ _
        obtain ⟨rounds, found, hsearch, hfound⟩ := ih _ hcut _ rfl
        have hlast : FoundFrom commits ancestor [id] ↔ ReflTransGen (ParentIn commits) id ancestor := by
          simp [FoundFrom]
        refine ⟨rounds + 1, found, (search_concat_of_ne hid rounds rest).trans hsearch, hfound.trans ?_⟩
        rw [foundFrom_append_iff, foundFrom_append_iff, hlast, foundFrom_parentsOf_iff hid]

/-- In a repository whose commits come after their parents, no way through parents goes on without end. -/
theorem wellFounded_parents {r : Repository} (hr : Integrity r) (h : Numbered r) :
    WellFounded fun parent child => ParentIn r.commits child parent := by
  have hissued : ∀ n < r.issued, Acc (fun parent child => ParentIn r.commits child parent) (freshId n) := by
    intro n
    induction n using Nat.strong_induction_on with
    | _ n ih =>
      intro hn
      refine .intro _ fun parent hparent => ?_
      obtain ⟨commit, hcommit, hmem⟩ := hparent
      obtain ⟨m, hm, rfl⟩ := h.older hn hcommit hmem
      exact ih m hm (Nat.lt_trans hm hn)
  -- an id that was not issued has no parents
  refine ⟨fun id => .intro id fun parent hparent => ?_⟩
  obtain ⟨commit, hcommit, hmem⟩ := hparent
  obtain ⟨n, hn, rfl⟩ := hr.issued (.inl (Table.contains_eq_true_iff.2 ⟨commit, hcommit⟩))
  exact (hissued n hn).inv ⟨commit, hcommit, hmem⟩

/-- The search ends, and finds what the other one does. -/
theorem search_eq {r : Repository} (hr : Integrity r) (h : Numbered r) (ancestor descendant : ObjectId) :
    ∃ rounds, ∀ more ≥ rounds,
      search ancestor r.commits more [descendant] = some (isAncestor r.commits ancestor descendant) := by
  obtain ⟨rounds, found, hsearch, hfound⟩ := search_ends (wellFounded_parents hr h) ancestor [descendant]
  have heq : found = isAncestor r.commits ancestor descendant := by
    rw [isAncestor, Bool.eq_iff_iff, hfound, reaches_eq_true_iff]
  exact ⟨rounds, fun more hle => heq ▸ search_mono hle hsearch⟩

/-! ## Updates -/

variable {r r' : Repository} {name : String} {target : ObjectId}

/-- The commit can be reached from the reference. -/
def LeadsTo (r : Repository) (name : String) (id : ObjectId) : Prop :=
  ∃ tip, r.refs.get? name = some tip ∧ r.Descends tip id

/-- The reference is there, the target is stored, and the commit that the reference points at is the target or an
ancestor of it. -/
def GoesForward (r : Repository) (name : String) (target : ObjectId) : Prop :=
  ∃ current commit, r.refs.get? name = some current ∧ r.commits.get? target = some commit ∧
    r.Descends target current

theorem updateRef_unforced_iff : (∃ answer r', r.updateRef name target false = .ok (answer, r')) ↔
    r.GoesForward ("refs/" ++ name) target := by
  simp only [updateRef_eq_ok, GoesForward, Bool.false_or, isAncestor_eq_true_iff, Table.contains_eq_true_iff]
  constructor
  · rintro ⟨answer, r', current, hcurrent, ⟨commit, hcommit⟩, hdescends, -⟩
    exact ⟨current, commit, hcurrent, hcommit, hdescends⟩
  · rintro ⟨current, commit, hcurrent, hcommit, hdescends⟩
    exact ⟨_, _, current, hcurrent, ⟨commit, hcommit⟩, hdescends, rfl, rfl⟩

/-- An update that is not forced is granted exactly if it goes forward and was not made to fail. -/
theorem exists_answer_updateRef_iff : (∃ answer, (apply (.updateRef name target false) r).1 = .ok answer) ↔
    r.failures.get? .updateRef = none ∧ r.GoesForward ("refs/" ++ name) target := by
  have hgranted : (∃ answer r', (r.logged (.updateRef name target false)).change (.updateRef name target false) =
      .ok (answer, r')) ↔ r.GoesForward ("refs/" ++ name) target :=
    updateRef_unforced_iff (r := r.logged (.updateRef name target false))
  rw [← hgranted]
  constructor
  · rintro ⟨answer, hanswer⟩
    rcases apply_cases (.updateRef name target false) r with ⟨e, hfailed⟩ | ⟨answer', r', hnone, hchange, -⟩
    · rw [hfailed] at hanswer
      cases hanswer
    · exact ⟨hnone, answer', r', hchange⟩
  · rintro ⟨hnone, answer, r', hchange⟩
    exact ⟨answer, by rw [apply_of_ok hnone hchange]⟩

/-- Storing more commits keeps what descends from what. -/
theorem Descends.keeps {id ancestor : ObjectId} (h : Keeps r r') (hd : r.Descends id ancestor) :
    r'.Descends id ancestor := by
  have hmore : r.HasParent ≤ r'.HasParent := by
    rintro child parent ⟨commit, hcommit, hparent⟩
    exact ⟨commit, h.commits hcommit, hparent⟩
  exact ReflTransGen.mono hmore id ancestor hd

/-- The effect updates a reference by force. -/
def Forces : Effect → Prop
  | .updateRef _ _ force => force = true
  | _ => False

/-- What an effect that does not force anything does to a reference: it points it where its old target can be
reached from, or leaves it alone. -/
theorem refs_forward {effect : Effect} (heffect : ¬ Forces effect) {tip : ObjectId}
    (h : r.refs.get? name = some tip) :
    ∃ tip', (apply effect r).2.refs.get? name = some tip' ∧ r.Descends tip' tip := by
  have hstep := refsStep_apply effect r
  obtain ⟨answer, hanswer⟩ : ∃ answer, (apply effect r).1 = answer := ⟨_, rfl⟩
  rw [hanswer] at hstep
  generalize (apply effect r).2 = r' at hstep ⊢
  cases hstep with
  | @created name' target free refs =>
    have hname : name ≠ name' := by
      rintro rfl
      cases h.symm.trans free
    exact ⟨tip, by rw [refs, Table.get?_insert_of_ne _ hname, h], .refl⟩
  | @moved name' target force current there refs =>
    obtain rfl : force = false := Bool.eq_false_iff.2 heffect
    obtain ⟨-, current', -, hcurrent', -, hdescends⟩ := exists_answer_updateRef_iff.1 ⟨_, hanswer⟩
    rw [refs]
    by_cases hname : name = "refs/" ++ name'
    · subst hname
      obtain rfl := Option.some.inj (hcurrent'.symm.trans h)
      exact ⟨target, Table.get?_insert_self _ _ _, hdescends⟩
    · exact ⟨tip, (Table.get?_insert_of_ne _ hname _).trans h, .refl⟩
  | same refs idle => exact ⟨tip, by rw [refs, h], .refl⟩

/-- As long as nothing is forced, what can be reached from a reference stays so, over any effects. -/
theorem leadsTo_after {effects : List Effect} (hr : Integrity r)
    (hlasts : ∀ n < (r.after effects).issued, CounterLasts n) (heffects : ∀ effect ∈ effects, ¬ Forces effect)
    {id : ObjectId} (h : r.LeadsTo name id) : (r.after effects).LeadsTo name id := by
  induction effects generalizing r with
  | nil => exact h
  | cons effect rest ih =>
    obtain ⟨hfirst, hrest⟩ := List.forall_mem_cons.1 heffects
    obtain ⟨tip, htip, hdescends⟩ := h
    obtain ⟨tip', htip', hforward⟩ := refs_forward hfirst htip
    have hissued := issued_le_after (apply effect r).2 rest
    have hkeeps : Keeps r (apply effect r).2 := (stores_apply effect r).keeps hr fun n hn => hlasts n (by
      rw [after_cons]
      omega)
    exact ih (hr.apply effect) hlasts hrest ⟨tip', htip', Descends.keeps hkeeps (hforward.trans hdescends)⟩

/-- To update a reference leaves all objects alone. -/
theorem keeps_updateRef (r : Repository) (name : String) (target : ObjectId) (force : Bool) :
    Keeps r (apply (.updateRef name target force) r).2 := by
  rcases apply_cases (.updateRef name target force) r with ⟨e, hfailed⟩ | ⟨answer, r', -, hchange, hdone⟩
  · rw [hfailed]
    exact ⟨fun h => h, fun h => h⟩
  · obtain ⟨current, -, -, -, -, rfl⟩ := updateRef_eq_ok.1 hchange
    rw [hdone]
    exact ⟨fun h => h, fun h => h⟩

/-- **Updates that are not forced go forward.** In every repository that comes about, an id is found to be an ancestor
of another one exactly if it can be reached from it through parents. The search that keeps no record of where it has
been ends after some rounds, with the same outcome, as long as the ids that were issued fit into 64 bits.

So an update that is not forced, and was not made to fail, is granted exactly if the reference is there, the new commit
is stored, and the old one is the new one or an ancestor of it. Once it is granted, everything that could be reached
from a reference still can. -/
theorem updates_go_forward {r : Repository} (h : Reachable r) :
    (∀ ancestor descendant,
      (isAncestor r.commits ancestor descendant = true ↔ r.Descends descendant ancestor) ∧
      ((∀ n < r.issued, CounterLasts n) →
        ∃ rounds, ∀ more ≥ rounds,
          search ancestor r.commits more [descendant] = some (isAncestor r.commits ancestor descendant))) ∧
    (∀ name target, r.failures.get? .updateRef = none →
      ((∃ answer, (apply (.updateRef name target false) r).1 = .ok answer) ↔
        r.GoesForward ("refs/" ++ name) target)) ∧
    ∀ name target answer, (apply (.updateRef name target false) r).1 = .ok answer →
      (apply (.updateRef name target false) r).2.refs.get? ("refs/" ++ name) = some target ∧
      ∀ name' id, r.LeadsTo name' id → (apply (.updateRef name target false) r).2.LeadsTo name' id := by
  refine ⟨fun ancestor descendant => ⟨isAncestor_eq_true_iff, fun hlasts => ?_⟩, fun name target hnone => ?_,
    fun name target answer hanswer => ⟨?_, fun name' id hleads => ?_⟩⟩
  · exact search_eq h.integrity (h.numbered hlasts) ancestor descendant
  · rw [exists_answer_updateRef_iff]
    exact and_iff_right hnone
  · rw [get?_refs_apply, hanswer]
    simp [written?]
  · obtain ⟨tip, htip, hdescends⟩ := hleads
    have hunforced : ¬ Forces (.updateRef name target false) := Bool.false_ne_true
    obtain ⟨tip', htip', hforward⟩ := refs_forward hunforced htip
    exact ⟨tip', htip', Descends.keeps (keeps_updateRef r name target false) (hforward.trans hdescends)⟩

/-- Effects that create two children of the first commit, and a commit that merges them and names one of them twice. -/
def mergeEffects : List Effect :=
  [.createCommit "Left" founder (freshId 0) [freshId 1], .createCommit "Right" founder (freshId 0) [freshId 1],
    .createCommit "Merge" founder (freshId 0) [freshId 2, freshId 3, freshId 2]]

theorem merge_goes_forward :
    let r := (Repository.withBranch "main").after mergeEffects
    Reachable r ∧ (∀ n < r.issued, CounterLasts n) ∧ r.failures.get? .updateRef = none ∧
      (∃ rounds, search (freshId 1) r.commits rounds [freshId 4] = some true) ∧
      (∃ rounds, search (freshId 3) r.commits rounds [freshId 2] = some false) ∧
      (∃ answer, (apply (.updateRef "heads/main" (freshId 4) false) r).1 = .ok answer) ∧
      (apply (.updateRef "heads/main" (freshId 4) false) r).2.LeadsTo "refs/heads/main" (freshId 1) := by
  intro r
  have hreachable : Reachable r := (Reachable.withBranch "main").after mergeEffects
  have hissued : r.issued = 5 := by decide +kernel
  have hlasts : ∀ n < r.issued, CounterLasts n := by
    intro n hn
    unfold CounterLasts
    omega
  have hroot : r.commits.get? (freshId 1) = some ⟨freshId 1, "Initial commit", founder, freshId 0, []⟩ := by
    decide +kernel
  have hleft : r.commits.get? (freshId 2) = some ⟨freshId 2, "Left", founder, freshId 0, [freshId 1]⟩ := by
    decide +kernel
  have hmerge : r.commits.get? (freshId 4) =
      some ⟨freshId 4, "Merge", founder, freshId 0, [freshId 2, freshId 3, freshId 2]⟩ := by decide +kernel
  have hmain : r.refs.get? ("refs/" ++ "heads/main") = some (freshId 1) := by decide +kernel
  have hdescends : r.Descends (freshId 4) (freshId 1) :=
    .head ⟨_, hmerge, List.mem_cons_self⟩ (.single ⟨_, hleft, List.mem_cons_self⟩)
  have hnot : ¬ r.Descends (freshId 2) (freshId 3) := by
    intro h
    obtain heq | ⟨parent, ⟨commit, hcommit, hparent⟩, hrest⟩ := ReflTransGen.cases_head_iff.1 h
    · exact absurd heq (by decide)
    · obtain rfl := Option.some.inj (hleft.symm.trans hcommit)
      obtain rfl := List.mem_singleton.1 hparent
      obtain heq | ⟨_, ⟨commit', hcommit', hparent'⟩, -⟩ := ReflTransGen.cases_head_iff.1 hrest
      · exact absurd heq (by decide)
      · obtain rfl := Option.some.inj (hroot.symm.trans hcommit')
        cases hparent'
  obtain ⟨hsearch, hupdate, hafter⟩ := updates_go_forward hreachable
  have hgranted := (hupdate "heads/main" (freshId 4) rfl).2 ⟨_, _, hmain, hmerge, hdescends⟩
  refine ⟨hreachable, hlasts, rfl, ?_, ?_, hgranted, ?_⟩
  · obtain ⟨rounds, hrounds⟩ := (hsearch (freshId 1) (freshId 4)).2 hlasts
    exact ⟨rounds, by rw [hrounds rounds le_rfl, (hsearch _ _).1.2 hdescends]⟩
  · obtain ⟨rounds, hrounds⟩ := (hsearch (freshId 3) (freshId 2)).2 hlasts
    exact ⟨rounds, by rw [hrounds rounds le_rfl, Bool.eq_false_iff.2 fun h => hnot ((hsearch _ _).1.1 h)]⟩
  · obtain ⟨answer, hanswer⟩ := hgranted
    exact (hafter _ _ _ hanswer).2 _ _ ⟨_, hmain, .refl⟩

end CommentBot.Repository
