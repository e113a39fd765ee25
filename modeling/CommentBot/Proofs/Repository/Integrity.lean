import CommentBot.Proofs.Repository.Change
import Mathlib.Algebra.Group.Nat.Defs

/-!
# Integrity of a repository

1. `Reachable`: the repositories that come about, from an empty one or from one with a branch.
2. `Integrity`: what is referred to is stored. References point at commits, and commits lead to trees and parents.
   Each change that an effect can make keeps it (`Integrity.setRef`, `Integrity.addTree`, `Integrity.addCommit`).
3. `Reachable.integrity`: so every repository that comes about has it. Its next ids are new as long as the count of
   ids fits into 64 bits (`Integrity.fresh`), since ids tell numbers apart (`ObjectId.ofNat_inj`).
-/

namespace CommentBot.Git.ObjectId

/-! ## Ids of numbers -/

/-- Numbers that the digits hold are told apart by them. -/
theorem lastDigits_inj {width m n : Nat} (hm : m < 16 ^ width) (hn : n < 16 ^ width)
    (h : lastDigits width m = lastDigits width n) : m = n := by
  have digit : ∀ a < 16, ∀ b < 16, Nat.digitChar a = Nat.digitChar b → a = b := by decide
  induction width generalizing m n with
  | zero => omega
  | succ width ih =>
    rw [Nat.pow_succ] at hm hn
    obtain ⟨hfirst, hlast⟩ := List.append_inj' h rfl
    have hquotient : m / 16 = n / 16 := ih (by omega) (by omega) hfirst
    have hremainder : m % 16 = n % 16 :=
      digit _ (Nat.mod_lt m (by decide)) _ (Nat.mod_lt n (by decide)) (List.cons.inj hlast).1
    omega

theorem ofNat_inj {m n : Nat} (hm : m < 16 ^ 40) (hn : n < 16 ^ 40) (h : ofNat m = ofNat n) : m = n := by
  have htext : String.ofList (lastDigits 40 m) = String.ofList (lastDigits 40 n) := by
    rw [← text_ofNat, ← text_ofNat, h]
  exact @lastDigits_inj 40 m n hm hn (String.ofList_injective htext)

end CommentBot.Git.ObjectId

namespace CommentBot.Repository

open Forge Git

/-- The repositories that come about: effects are asked, branches added, effects made to fail and clients handed
out, in any order. -/
inductive Reachable : Repository → Prop
  | empty : Reachable .empty
  | withBranch (branch : String) : Reachable (.withBranch branch)
  | apply {r} (h : Reachable r) (effect : Effect) : Reachable (apply effect r).2
  | addBranch {r r' branch} (h : Reachable r) (hr' : r.addBranch? branch = some r') : Reachable r'
  | failOn {r} (h : Reachable r) (kind : EffectKind) (e : ApiError) : Reachable (r.failOn kind e)
  | client {r} (h : Reachable r) (installation : Option InstallationId) (repo : RepoId) :
      Reachable { r with clients := r.clients ++ [(installation, repo)] }

/-- What is referred to is stored, commits under their own ids, and all ids have been issued. -/
structure Integrity (r : Repository) : Prop where
  refs : ∀ {name target}, r.refs.get? name = some target → r.commits.contains target = true
  root : ∀ {id}, r.root = some id → r.commits.contains id = true
  own : ∀ {id commit}, r.commits.get? id = some commit → commit.id = id
  tree : ∀ {id commit}, r.commits.get? id = some commit → r.trees.contains commit.tree = true
  parents : ∀ {id commit parent}, r.commits.get? id = some commit → parent ∈ commit.parents →
    r.commits.contains parent = true
  issued : ∀ {id}, r.commits.contains id = true ∨ r.trees.contains id = true → ∃ n < r.issued, id = freshId n

/-! ## Changes -/

namespace Integrity

variable {r : Repository}

theorem empty : Integrity .empty where
  refs h := by cases h
  root h := by cases h
  own h := by cases h
  tree h := by cases h
  parents h := by cases h
  issued h := by rcases h with h | h <;> cases h

theorem logged (h : Integrity r) (effect : Effect) : Integrity (r.logged effect) :=
  ⟨h.refs, h.root, h.own, h.tree, h.parents, h.issued⟩

theorem setRef (h : Integrity r) {name : String} {target : ObjectId} (htarget : r.commits.contains target = true) :
    Integrity (r.setRef name target) where
  refs hname := by
    rcases Table.get?_insert_eq_some_iff.1 hname with ⟨rfl, rfl⟩ | ⟨-, hname⟩
    · exact htarget
    · exact h.refs hname
  root := h.root
  own := h.own
  tree := h.tree
  parents := h.parents
  issued := h.issued

/-- Storing something under the next id leaves all ids issued. -/
theorem issued_succ (h : Integrity r) {id : ObjectId}
    (hid : id = freshId r.issued ∨ r.commits.contains id = true ∨ r.trees.contains id = true) :
    ∃ n < r.issued + 1, id = freshId n := by
  rcases hid with rfl | hid
  · exact ⟨r.issued, Nat.lt_succ_self _, rfl⟩
  · obtain ⟨n, hn, rfl⟩ := h.issued hid
    exact ⟨n, Nat.lt_succ_of_lt hn, rfl⟩

theorem addTree (h : Integrity r) (files : Files) : Integrity (r.addTree files).2 where
  refs := h.refs
  root := h.root
  own := h.own
  tree hcommit := Table.contains_insert_iff.2 (.inr (h.tree hcommit))
  parents := h.parents
  issued hid := by
    refine h.issued_succ ?_
    rcases hid with hid | hid
    · exact .inr (.inl hid)
    · exact (Table.contains_insert_iff.1 hid).imp_right .inr

theorem addCommit (h : Integrity r) {message : String} {author : Signature} {tree : ObjectId}
    {parents : List ObjectId} (htree : r.trees.contains tree = true)
    (hparents : ∀ parent ∈ parents, r.commits.contains parent = true) :
    Integrity (r.addCommit message author tree parents).2 where
  refs hname := Table.contains_insert_iff.2 (.inr (h.refs hname))
  root hid := Table.contains_insert_iff.2 (.inr (h.root hid))
  own hcommit := by
    rcases Table.get?_insert_eq_some_iff.1 hcommit with ⟨rfl, rfl⟩ | ⟨-, hcommit⟩
    · rfl
    · exact h.own hcommit
  tree hcommit := by
    rcases Table.get?_insert_eq_some_iff.1 hcommit with ⟨rfl, rfl⟩ | ⟨-, hcommit⟩
    · exact htree
    · exact h.tree hcommit
  parents hcommit hparent := by
    refine Table.contains_insert_iff.2 (.inr ?_)
    rcases Table.get?_insert_eq_some_iff.1 hcommit with ⟨rfl, rfl⟩ | ⟨-, hcommit⟩
    · exact hparents _ hparent
    · exact h.parents hcommit hparent
  issued hid := by
    refine h.issued_succ ?_
    rcases hid with hid | hid
    · exact (Table.contains_insert_iff.1 hid).imp_right .inl
    · exact .inr (.inr hid)

/-- An effect keeps integrity, whether it fails or not. -/
theorem apply (h : Integrity r) (effect : Effect) : Integrity (apply effect r).2 := by
  rcases apply_cases effect r with ⟨e, hfailed⟩ | ⟨answer, r', -, hchange, hdone⟩
  · rw [hfailed]
    exact h.logged effect
  · rw [hdone]
    have hlogged := h.logged effect
    show Integrity r'
    cases effect with
    | getRef name =>
      obtain ⟨target, -, -, rfl⟩ := getRef_eq_ok.1 hchange
      exact hlogged
    | createRef name target =>
      obtain ⟨-, -, htarget, -, rfl⟩ := createRef_eq_ok.1 hchange
      exact hlogged.setRef htarget
    | updateRef name target force =>
      obtain ⟨current, -, htarget, -, -, rfl⟩ := updateRef_eq_ok.1 hchange
      exact hlogged.setRef htarget
    | createTree base entries =>
      obtain ⟨files, laid, -, -, -, rfl⟩ := createTree_eq_ok.1 hchange
      exact hlogged.addTree laid
    | getCommit id =>
      obtain ⟨commit, -, -, rfl⟩ := getCommit_eq_ok.1 hchange
      exact hlogged
    | createCommit message author tree parents =>
      obtain ⟨htree, hparents, -, rfl⟩ := createCommit_eq_ok.1 hchange
      exact hlogged.addCommit htree (List.all_eq_true.1 hparents)
    | createPullRequest request =>
      obtain ⟨-, -, -, rfl⟩ := createPullRequest_eq_ok.1 hchange
      exact ⟨hlogged.refs, hlogged.root, hlogged.own, hlogged.tree, hlogged.parents, hlogged.issued⟩
    | postComment issue body =>
      obtain ⟨-, rfl⟩ := postComment_eq_ok.1 hchange
      exact ⟨hlogged.refs, hlogged.root, hlogged.own, hlogged.tree, hlogged.parents, hlogged.issued⟩

theorem setRoot (h : Integrity r) {id : ObjectId} (hid : r.commits.contains id = true) :
    Integrity { r with root := some id } where
  refs := h.refs
  root hroot := by
    obtain rfl := Option.some.inj hroot
    exact hid
  own := h.own
  tree := h.tree
  parents := h.parents
  issued := h.issued

theorem withBranch (branch : String) : Integrity (.withBranch branch) := by
  have htree := empty.addTree (Table.empty.insert "README.md" "# widgets\n")
  have hcommit : Integrity (Repository.addCommit _ "Initial commit" founder (freshId 0) []).2 :=
    htree.addCommit (Table.contains_insert_iff.2 (.inl rfl)) nofun
  have hroot := hcommit.setRoot (Table.contains_insert_iff.2 (.inl rfl))
  exact hroot.setRef (Table.contains_insert_iff.2 (.inl rfl))

/-- The branch is added at the root. -/
theorem addBranch (h : Integrity r) {r' : Repository} {branch : String} (hr' : r.addBranch? branch = some r') :
    Integrity r' := by
  obtain ⟨root, hroot, rfl⟩ := Option.map_eq_some_iff.1 hr'
  exact h.setRef (h.root hroot)

/-- As long as the count of ids fits into 64 bits, the id that is issued after some others names nothing yet. -/
theorem fresh (h : Integrity r) {n : Nat} (hn : r.issued ≤ n) (hfits : n < 2 ^ 64) :
    r.commits.get? (freshId n) = none ∧ r.trees.get? (freshId n) = none := by
  have hnew : ¬ (r.commits.contains (freshId n) = true ∨ r.trees.contains (freshId n) = true) := by
    intro hstored
    obtain ⟨m, hm, heq⟩ := h.issued hstored
    have := ObjectId.ofNat_inj (by omega) (by omega) heq
    omega
  rw [not_or, Bool.not_eq_true, Bool.not_eq_true] at hnew
  exact ⟨Table.contains_eq_false_iff.1 hnew.1, Table.contains_eq_false_iff.1 hnew.2⟩

end Integrity

/-- Every repository that comes about has integrity. -/
theorem Reachable.integrity {r : Repository} (h : Reachable r) : Integrity r := by
  induction h with
  | empty => exact .empty
  | withBranch branch => exact .withBranch branch
  | apply h effect ih => exact ih.apply effect
  | addBranch h hr' ih => exact ih.addBranch hr'
  | failOn h kind e ih => exact ⟨ih.refs, ih.root, ih.own, ih.tree, ih.parents, ih.issued⟩
  | client h installation repo ih => exact ⟨ih.refs, ih.root, ih.own, ih.tree, ih.parents, ih.issued⟩

end CommentBot.Repository
