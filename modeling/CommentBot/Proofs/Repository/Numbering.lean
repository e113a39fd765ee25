import CommentBot.Proofs.Repository.Integrity
import Mathlib.Data.List.Nodup
import Mathlib.Logic.Relation

/-!
# The numbers of objects

Ids are issued in the order of their numbers, so the number of an object tells when it was stored.

1. `stores_apply`: an effect stores one new object or none (`Stores`), and a new one gets the next id.
2. `Numbered`: no id names two objects, and the parents of a commit have smaller numbers than the commit. Storing
   keeps this (`Numbered.stores`), as long as the ids that are issued fit into 64 bits (`CounterLasts`).
3. `storedBefore_of_ancestor`: so ancestors were stored before their descendants.
4. `references_resolve`: what this and integrity say of every repository that comes about.
-/

namespace CommentBot.Table

/-! ## Keys -/

variable {κ α : Type} [DecidableEq κ]

/-- The keys, in the order in which they first came. -/
def keys (t : Table κ α) : List κ := t.entries.map (·.1)

theorem lookup_isSome_iff {entries : List (κ × α)} {k : κ} :
    (entries.lookup k).isSome = true ↔ k ∈ entries.map (·.1) := by
  induction entries with
  | nil => simp
  | cons entry rest ih =>
    obtain ⟨k', a'⟩ := entry
    by_cases h : k = k'
    · simp [h]
    · have hk : (k == k') = false := by simpa using h
      rw [List.lookup_cons, hk, List.map_cons, List.mem_cons, ih]
      simp [h]

theorem mem_keys_iff {t : Table κ α} {k : κ} : k ∈ t.keys ↔ t.contains k = true :=
  lookup_isSome_iff.symm

theorem insertEntry_of_new {k : κ} {entries : List (κ × α)} (h : entries.lookup k = none) (a : α) :
    insertEntry k a entries = entries ++ [(k, a)] := by
  induction entries with
  | nil => rfl
  | cons entry rest ih =>
    obtain ⟨k', a'⟩ := entry
    by_cases hk : k' = k
    · simp [hk] at h
    · have hk' : (k == k') = false := by simpa using fun e => hk e.symm
      rw [List.lookup_cons, hk'] at h
      rw [insertEntry, if_neg hk, ih h, List.cons_append]

/-- A new key comes behind the others. -/
theorem keys_insert_of_new {t : Table κ α} {k : κ} (h : t.get? k = none) (a : α) :
    (t.insert k a).keys = t.keys ++ [k] := by
  unfold keys insert
  rw [insertEntry_of_new h, List.map_append]
  rfl

end CommentBot.Table

namespace CommentBot.Git.ObjectId

/-! ## The texts of ids -/

theorem lastDigits_zero (width : Nat) : lastDigits width 0 = List.replicate width '0' := by
  induction width with
  | zero => rfl
  | succ width ih => rw [lastDigits, Nat.zero_div, ih, List.replicate_succ']; rfl

/-- A number that fits is written with zeros in front of its hexadecimal digits. -/
theorem lastDigits_eq_padded {width n : Nat} (h : n < 16 ^ (width + 1)) : lastDigits (width + 1) n =
    List.replicate (width + 1 - (Nat.toDigits 16 n).length) '0' ++ Nat.toDigits 16 n := by
  induction width generalizing n with
  | zero => rw [Nat.toDigits_of_lt_base (by simpa using h), lastDigits, Nat.mod_eq_of_lt (by simpa using h)]; rfl
  | succ width ih =>
    rw [lastDigits]
    by_cases hsmall : n < 16
    · rw [Nat.div_eq_of_lt hsmall, lastDigits_zero, Nat.mod_eq_of_lt hsmall, Nat.toDigits_of_lt_base hsmall]
      rfl
    · have hquotient : n / 16 < 16 ^ (width + 1) := by
        rw [Nat.pow_succ] at h
        omega
      have hdigits : Nat.toDigits 16 n = Nat.toDigits 16 (n / 16) ++ [Nat.digitChar (n % 16)] := by
        rw [Nat.toDigits_eq_if (by decide), if_neg hsmall]
      rw [ih hquotient, hdigits, List.length_append, List.length_singleton, List.append_assoc, Nat.add_sub_add_right]

end CommentBot.Git.ObjectId

namespace CommentBot.Repository

open Forge Git

/-! ## Storing objects -/

/-- The ids of all objects that are stored, trees before commits. -/
def storedIds (r : Repository) : List ObjectId := r.trees.keys ++ r.commits.keys

theorem mem_storedIds_iff {r : Repository} {id : ObjectId} :
    id ∈ r.storedIds ↔ r.commits.contains id = true ∨ r.trees.contains id = true := by
  rw [storedIds, List.mem_append, Table.mem_keys_iff, Table.mem_keys_iff, or_comm]

/-- The number of the id that is issued after `issued` others fits into 64 bits. -/
def CounterLasts (issued : Nat) : Prop := 0xc0ffee0000 + (issued + 1) < 2 ^ 64

theorem CounterLasts.lt {n : Nat} (h : CounterLasts n) : n < 2 ^ 64 := by
  unfold CounterLasts at h
  omega

theorem CounterLasts.mono {m n : Nat} (h : CounterLasts n) (hmn : m ≤ n) : CounterLasts m := by
  unfold CounterLasts at h ⊢
  omega

/-- Ids whose numbers fit are told apart. -/
theorem freshId_inj {m n : Nat} (hm : CounterLasts m) (hn : CounterLasts n) (h : freshId m = freshId n) : m = n := by
  unfold CounterLasts at hm hn
  have hnumbers := ObjectId.ofNat_inj (by omega) (by omega) h
  omega

/-- What a change adds to the objects of a repository: nothing, a tree or a commit. A new object is stored under
the next id, and the parents of a new commit are there already. -/
inductive Stores (r r' : Repository) : Prop
  | nothing (trees : r'.trees = r.trees) (commits : r'.commits = r.commits) (issued : r'.issued = r.issued)
  | tree {files : Files} (trees : r'.trees = r.trees.insert (freshId r.issued) files)
      (commits : r'.commits = r.commits) (issued : r'.issued = r.issued + 1)
  | commit {commit : Commit} (parents : ∀ parent ∈ commit.parents, r.commits.contains parent = true)
      (trees : r'.trees = r.trees) (commits : r'.commits = r.commits.insert (freshId r.issued) commit)
      (issued : r'.issued = r.issued + 1)

theorem Stores.issued_le {r r' : Repository} (h : Stores r r') : r.issued ≤ r'.issued := by
  cases h <;> omega

theorem stores_apply (effect : Effect) (r : Repository) : Stores r (apply effect r).2 := by
  rcases apply_cases effect r with ⟨e, h⟩ | ⟨answer, r', -, hc, h⟩
  · rw [h]
    exact .nothing rfl rfl rfl
  · rw [h]
    show Stores r r'
    cases effect with
    | getRef name =>
      obtain ⟨target, -, -, rfl⟩ := getRef_eq_ok.1 hc
      exact .nothing rfl rfl rfl
    | createRef name target =>
      obtain ⟨-, -, -, -, rfl⟩ := createRef_eq_ok.1 hc
      exact .nothing rfl rfl rfl
    | updateRef name target force =>
      obtain ⟨current, -, -, -, -, rfl⟩ := updateRef_eq_ok.1 hc
      exact .nothing rfl rfl rfl
    | createTree base entries =>
      obtain ⟨files, laid, -, -, -, rfl⟩ := createTree_eq_ok.1 hc
      exact .tree rfl rfl rfl
    | getCommit id =>
      obtain ⟨commit, -, -, rfl⟩ := getCommit_eq_ok.1 hc
      exact .nothing rfl rfl rfl
    | createCommit message author tree parents =>
      obtain ⟨-, hparents, -, rfl⟩ := createCommit_eq_ok.1 hc
      exact .commit (List.all_eq_true.1 hparents) rfl rfl rfl
    | createPullRequest request =>
      obtain ⟨-, -, -, rfl⟩ := createPullRequest_eq_ok.1 hc
      exact .nothing rfl rfl rfl
    | postComment issue body =>
      obtain ⟨-, rfl⟩ := postComment_eq_ok.1 hc
      exact .nothing rfl rfl rfl

/-! ## Order -/

/-- The next id is that of no object. -/
theorem Integrity.fresh_not_stored {r : Repository} (h : Integrity r) (hlasts : CounterLasts r.issued) :
    freshId r.issued ∉ r.storedIds := by
  obtain ⟨hcommit, htree⟩ := h.fresh (Nat.le_refl _) hlasts.lt
  rw [mem_storedIds_iff, Table.contains_eq_false_iff.2 hcommit, Table.contains_eq_false_iff.2 htree]
  decide

/-- No id names two objects, and a commit comes after its parents. -/
structure Numbered (r : Repository) : Prop where
  distinct : r.storedIds.Nodup
  older : ∀ {n commit parent}, n < r.issued → r.commits.get? (freshId n) = some commit →
    parent ∈ commit.parents → ∃ m < n, parent = freshId m

namespace Numbered

variable {r r' : Repository}

theorem empty : Numbered .empty where
  distinct := .nil
  older hn := absurd hn (Nat.not_lt_zero _)

/-- Storing an object keeps the order, as long as its id is new. -/
theorem stores (h : Numbered r) (hr : Integrity r) (hs : Stores r r')
    (hlasts : ∀ n < r'.issued, CounterLasts n) : Numbered r' := by
  cases hs with
  | nothing htrees hcommits hissued =>
    refine ⟨?_, fun hn hcommit hparent => ?_⟩
    · rw [storedIds, htrees, hcommits]
      exact h.distinct
    · rw [hissued] at hn
      rw [hcommits] at hcommit
      exact h.older hn hcommit hparent
  | tree htrees hcommits hissued =>
    have hfresh := hr.fresh_not_stored (hlasts r.issued (by omega))
    obtain ⟨hnew, hnewTree⟩ := hr.fresh (Nat.le_refl _) (hlasts r.issued (by omega)).lt
    refine ⟨?_, fun {n commit parent} hn hcommit hparent => ?_⟩
    · rw [storedIds, htrees, hcommits, Table.keys_insert_of_new hnewTree, List.append_assoc]
      exact List.nodup_middle.2 (List.nodup_cons.2 ⟨hfresh, h.distinct⟩)
    · rw [hcommits] at hcommit
      refine h.older (Nat.lt_of_le_of_ne (by omega) ?_) hcommit hparent
      rintro rfl
      cases hnew.symm.trans hcommit
  | commit hparents htrees hcommits hissued =>
    have hfresh := hr.fresh_not_stored (hlasts r.issued (by omega))
    obtain ⟨hnew, -⟩ := hr.fresh (Nat.le_refl _) (hlasts r.issued (by omega)).lt
    refine ⟨?_, fun {n commit parent} hn hcommit hparent => ?_⟩
    · rw [storedIds, htrees, hcommits, Table.keys_insert_of_new hnew, ← List.append_assoc]
      exact List.nodup_append_comm.1 (List.nodup_cons.2 ⟨hfresh, h.distinct⟩)
    · rw [hcommits] at hcommit
      rcases Table.get?_insert_eq_some_iff.1 hcommit with ⟨hid, rfl⟩ | ⟨hid, hcommit⟩
      · -- the new commit has the largest number, and its parents have been issued before it
        obtain ⟨m, hm, rfl⟩ := hr.issued (.inl (hparents parent hparent))
        have hnumber := freshId_inj (hlasts n hn) (hlasts r.issued (by omega)) hid
        exact ⟨m, by omega, rfl⟩
      · refine h.older (Nat.lt_of_le_of_ne (by omega) ?_) hcommit hparent
        rintro rfl
        exact hid rfl

theorem addTree (h : Numbered r) (hr : Integrity r) (files : Files)
    (hlasts : ∀ n < r.issued + 1, CounterLasts n) : Numbered (r.addTree files).2 :=
  h.stores hr (.tree rfl rfl rfl) hlasts

theorem addCommit (h : Numbered r) (hr : Integrity r) (message : String) (author : Signature) (tree : ObjectId)
    {parents : List ObjectId} (hparents : ∀ parent ∈ parents, r.commits.contains parent = true)
    (hlasts : ∀ n < r.issued + 1, CounterLasts n) : Numbered (r.addCommit message author tree parents).2 :=
  h.stores hr (.commit hparents rfl rfl rfl) hlasts

theorem withBranch (branch : String) : Numbered (.withBranch branch) := by
  have hlasts : ∀ n < 2, CounterLasts n := by
    intro n hn
    unfold CounterLasts
    omega
  have hstart := Integrity.empty.addTree (Table.empty.insert "README.md" "# widgets\n")
  have htree := empty.addTree .empty (Table.empty.insert "README.md" "# widgets\n") fun n hn =>
    hlasts n (Nat.lt_succ_of_lt hn)
  have hcommit := htree.addCommit hstart "Initial commit" founder (freshId 0) (List.forall_mem_nil _) hlasts
  exact ⟨hcommit.distinct, hcommit.older⟩

end Numbered

/-- Every repository that comes about is in order as long as its ids fit. -/
theorem Reachable.numbered {r : Repository} (h : Reachable r) (hlasts : ∀ n < r.issued, CounterLasts n) :
    Numbered r := by
  induction h with
  | empty => exact .empty
  | withBranch branch => exact .withBranch branch
  | @apply r h effect ih =>
    have hstores := stores_apply effect r
    have hle := hstores.issued_le
    exact (ih fun n hn => hlasts n (by omega)).stores h.integrity hstores hlasts
  | addBranch h hr' ih =>
    obtain ⟨root, -, rfl⟩ := Option.map_eq_some_iff.1 hr'
    exact ⟨(ih hlasts).distinct, (ih hlasts).older⟩
  | failOn h kind e ih => exact ⟨(ih hlasts).distinct, (ih hlasts).older⟩
  | client h installation repo ih => exact ⟨(ih hlasts).distinct, (ih hlasts).older⟩

/-! ## Descent -/

/-- The stored commit `child` names `parent` among its parents. -/
def HasParent (r : Repository) (child parent : ObjectId) : Prop :=
  ∃ commit, r.commits.get? child = some commit ∧ parent ∈ commit.parents

/-- The object `id` was stored before `id'`: both ids were issued, and that of `id` first. -/
def StoredBefore (r : Repository) (id id' : ObjectId) : Prop :=
  ∃ m n, m < n ∧ n < r.issued ∧ id = freshId m ∧ id' = freshId n

theorem storedBefore_of_hasParent {r : Repository} (hr : Integrity r) (h : Numbered r) {child parent : ObjectId}
    (hp : r.HasParent child parent) : r.StoredBefore parent child := by
  obtain ⟨commit, hcommit, hparent⟩ := hp
  obtain ⟨n, hn, rfl⟩ := hr.issued (.inl (Table.contains_eq_true_iff.2 ⟨commit, hcommit⟩))
  obtain ⟨m, hm, rfl⟩ := h.older hn hcommit hparent
  exact ⟨m, n, hm, hn, rfl, rfl⟩

theorem StoredBefore.trans {r : Repository} (hlasts : ∀ n < r.issued, CounterLasts n) {a b c : ObjectId}
    (hab : r.StoredBefore a b) (hbc : r.StoredBefore b c) : r.StoredBefore a c := by
  obtain ⟨l, m, hlm, hm, rfl, rfl⟩ := hab
  obtain ⟨m', n, hmn, hn, heq, rfl⟩ := hbc
  have hnumber := freshId_inj (hlasts m hm) (hlasts m' (by omega)) heq
  exact ⟨l, n, by omega, hn, rfl, rfl⟩

theorem StoredBefore.irrefl {r : Repository} (hlasts : ∀ n < r.issued, CounterLasts n) (id : ObjectId) :
    ¬ r.StoredBefore id id := by
  rintro ⟨m, n, hmn, hn, rfl, heq⟩
  have hnumber := freshId_inj (hlasts m (by omega)) (hlasts n hn) heq
  omega

/-- Ancestors were stored before their descendants. -/
theorem storedBefore_of_ancestor {r : Repository} (hr : Integrity r) (h : Numbered r)
    (hlasts : ∀ n < r.issued, CounterLasts n) {child ancestor : ObjectId}
    (ha : Relation.TransGen r.HasParent child ancestor) : r.StoredBefore ancestor child := by
  induction ha with
  | single hp => exact storedBefore_of_hasParent hr h hp
  | tail _ hp ih => exact (storedBefore_of_hasParent hr h hp).trans hlasts ih

/-! ## Repositories that come about -/

/-- The text of the id that is issued after some others: its number in small hexadecimal digits, with leading zeros
up to forty. -/
theorem text_freshId {n : Nat} (h : CounterLasts n) : (freshId n).text = String.ofList
    (List.replicate (40 - (Nat.toDigits 16 (0xc0ffee0000 + (n + 1))).length) '0' ++
      Nat.toDigits 16 (0xc0ffee0000 + (n + 1))) := by
  unfold CounterLasts at h
  rw [freshId, ObjectId.text_ofNat, @ObjectId.lastDigits_eq_padded 39 _ (by omega)]

/-- **What is referred to is stored.** In every repository that comes about, references and the root are stored
commits; a commit is stored under its own id, with its tree and with all its parents; and all ids have been issued.
As long as the ids that were issued fit into 64 bits, parents were stored before their children, so that no commit
descends from itself; no id names two objects, be they trees or commits; each id is forty small hexadecimal digits
that write its number; and the next id is new while it fits. -/
theorem references_resolve {r : Repository} (h : Reachable r) :
    (∀ name target, r.refs.get? name = some target → ∃ commit, r.commits.get? target = some commit) ∧
    (∀ id, r.root = some id → ∃ commit, r.commits.get? id = some commit) ∧
    (∀ id commit, r.commits.get? id = some commit → commit.id = id ∧
      (∃ files, r.trees.get? commit.tree = some files) ∧
      ∀ parent ∈ commit.parents, ∃ stored, r.commits.get? parent = some stored) ∧
    (∀ id ∈ r.storedIds, ∃ n < r.issued, id = freshId n) ∧
    ((∀ n < r.issued, CounterLasts n) →
      (∀ child parent, r.HasParent child parent → r.StoredBefore parent child) ∧
      (∀ id, ¬ Relation.TransGen r.HasParent id id) ∧
      r.storedIds.Nodup ∧
      (∀ n < r.issued, (freshId n).text = String.ofList
        (List.replicate (40 - (Nat.toDigits 16 (0xc0ffee0000 + (n + 1))).length) '0' ++
          Nat.toDigits 16 (0xc0ffee0000 + (n + 1)))) ∧
      (CounterLasts r.issued → freshId r.issued ∉ r.storedIds)) := by
  have hr := h.integrity
  refine ⟨fun name target href => ?_, fun id hroot => ?_, fun id commit hcommit => ⟨?_, ?_, fun parent hparent => ?_⟩,
    fun id hid => ?_, fun hlasts => ?_⟩
  · exact Table.contains_eq_true_iff.1 (hr.refs href)
  · exact Table.contains_eq_true_iff.1 (hr.root hroot)
  · exact hr.own hcommit
  · exact Table.contains_eq_true_iff.1 (hr.tree hcommit)
  · exact Table.contains_eq_true_iff.1 (hr.parents hcommit hparent)
  · exact hr.issued (mem_storedIds_iff.1 hid)
  · have hnumbered := h.numbered hlasts
    refine ⟨fun child parent hparent => ?_, fun id hcycle => ?_, hnumbered.distinct, fun n hn => ?_, fun hnext => ?_⟩
    · exact storedBefore_of_hasParent hr hnumbered hparent
    · exact StoredBefore.irrefl hlasts id (storedBefore_of_ancestor hr hnumbered hlasts hcycle)
    · exact text_freshId (hlasts n hn)
    · exact hr.fresh_not_stored hnext

/-- A repository whose second commit is a child of its first one. -/
def grown : Repository :=
  (apply (.createCommit "Add" founder (freshId 0) [freshId 1]) (.withBranch "main")).2

theorem grown_resolves : Reachable grown ∧ (∀ n < grown.issued, CounterLasts n) ∧
    grown.StoredBefore (freshId 1) (freshId 2) ∧ ¬ Relation.TransGen grown.HasParent (freshId 2) (freshId 2) ∧
    freshId 3 ∉ grown.storedIds := by
  have hreachable : Reachable grown := (Reachable.withBranch "main").apply _
  have hissued : grown.issued = 3 := by decide +kernel
  have hlasts : ∀ n < grown.issued, CounterLasts n := by
    intro n hn
    unfold CounterLasts
    omega
  have hchild : grown.commits.get? (freshId 2) =
      some ⟨freshId 2, "Add", founder, freshId 0, [freshId 1]⟩ := by decide +kernel
  obtain ⟨-, -, -, -, hordered⟩ := references_resolve hreachable
  obtain ⟨hbefore, hacyclic, -, -, hnext⟩ := hordered hlasts
  rw [hissued] at hnext
  exact ⟨hreachable, hlasts, hbefore _ _ ⟨_, hchild, List.mem_cons_self⟩, hacyclic _,
    hnext (by unfold CounterLasts; omega)⟩

end CommentBot.Repository
