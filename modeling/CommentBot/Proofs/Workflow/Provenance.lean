import CommentBot.Proofs.Workflow.Conformance
import Mathlib.Data.List.Nodup

/-!
# Where the arguments of effects come from

What a run asks depends on nothing but its settings, the thread and the answers to its own earlier effects.
`Sourced` says for each effect which of these its arguments are; `plan_sourced` that a plan asks nothing else,
whatever objects it is told of.

`arguments_sourced` is what follows for whole runs: no answer is taken for another one, since none is given
twice.
-/

namespace CommentBot.Workflow

open Forge Git

variable (settings : Settings) (now : Time.Instant) (issue : IssueNumber) (w : Workflow)

/-- The branch from which a workflow opens its pull request: its own, if it has created one. -/
def pullRequestHead : String :=
  if w = createBranchAndOpenPullRequest then settings.botBranch else settings.headBranch

/-- The base branch was found to point at `target`. -/
def ReadBase (past : List Exchange) (target : ObjectId) : Prop :=
  ∃ base : Reference, ⟨.getRef settings.baseRef, .ok (.ref base)⟩ ∈ past ∧ base.target = target

/-- A commit was created, and its id is `id`. -/
def MadeCommit (past : List Exchange) (id : ObjectId) : Prop :=
  ∃ message author tree parents created,
    ⟨.createCommit message author tree parents, .ok (.commit created)⟩ ∈ past ∧ created.id = id

/-- The arguments of an effect come from the settings, the thread and the answers in `past`. -/
def Sourced (past : List Exchange) : Effect → Prop
  | .getRef name => name = settings.baseRef
  | .createRef name target => name = settings.fullBotRef ∧ ReadBase settings past target
  | .createTree base entries => ReadBase settings past base ∧ entries = settings.treeEntries
  | .getCommit id => ReadBase settings past id
  | .createCommit message author tree parents =>
    message = settings.commitMessage ∧ author = ⟨settings.authorName, settings.authorEmail, now⟩ ∧
      (∃ base entries, ⟨.createTree base entries, .ok (.tree tree)⟩ ∈ past) ∧
      ∃ id parent, ⟨.getCommit id, .ok (.commit parent)⟩ ∈ past ∧ parents = [parent.id]
  | .updateRef name target force =>
    name = settings.botRef ∧ force = true ∧ MadeCommit past target ∧
      ∃ base made, ⟨.createRef settings.fullBotRef base, .ok (.ref made)⟩ ∈ past
  | .createPullRequest request =>
    request = ⟨settings.pullRequestTitle, pullRequestHead settings w, settings.baseBranch,
      settings.pullRequestBody⟩
  | .postComment thread body =>
    thread = issue ∧
      ∃ request opened, ⟨.createPullRequest request, .ok (.pullRequest opened)⟩ ∈ past ∧ body = linkText opened

theorem fullBotRef_congr {s s' : Settings} (h : s.botBranch = s'.botBranch) : s.fullBotRef = s'.fullBotRef := by
  rw [Settings.fullBotRef, h, Settings.fullBotRef]

theorem fullBotRef_eq : settings.fullBotRef = "refs/" ++ settings.botRef := by
  rw [Settings.fullBotRef, Settings.botRef, ← String.append_assoc]
  rfl

/-- Creating the branch asks nothing unsourced, if what follows asks nothing unsourced after any exchanges. -/
theorem branchPlan_sourced {α : Type} (f : ObjectId → Plan α)
    (hf : ∀ id past, (f id).Keeps (Sourced settings now issue w) past) :
    ((branchPlan settings now).bind f).Keeps (Sourced settings now issue w) [] := by
  refine ⟨rfl, fun base => ⟨⟨rfl, base, ?_, rfl⟩, fun made => ⟨⟨⟨base, ?_, rfl⟩, rfl⟩, fun tree =>
    ⟨⟨base, ?_, rfl⟩, fun parent => ⟨⟨rfl, rfl, ⟨base.target, settings.treeEntries, ?_⟩,
      base.target, parent, ?_, rfl⟩, fun created => ⟨⟨rfl, rfl, ?_, base.target, made, ?_⟩,
        fun moved => hf _ _⟩⟩⟩⟩⟩⟩
  -- each answer is found at the place of its step
  · exact List.mem_of_getElem? (i := 0) rfl
  · exact List.mem_of_getElem? (i := 0) rfl
  · exact List.mem_of_getElem? (i := 0) rfl
  · exact List.mem_of_getElem? (i := 2) rfl
  · exact List.mem_of_getElem? (i := 3) rfl
  · exact ⟨_, _, _, _, created, List.mem_of_getElem? (i := 4) rfl, rfl⟩
  · exact List.mem_of_getElem? (i := 1) rfl

theorem plan_sourced : (plan settings now issue w).Keeps (Sourced settings now issue w) [] := by
  cases w with
  | createBranch => exact branchPlan_sourced settings now issue _ _ fun _ _ => trivial
  | openPullRequest => exact ⟨rfl, fun opened => trivial⟩
  | createBranchAndOpenPullRequest =>
    refine branchPlan_sourced settings now issue _ _ fun id past => ⟨rfl, fun opened =>
      ⟨⟨rfl, ?_⟩, fun _ => trivial⟩⟩
    exact ⟨_, opened, List.mem_append_right past (List.mem_singleton.2 rfl), rfl⟩

/-! ## Whole runs -/

/-- Each kind of effect is asked at most once, so an answer is told by the effect that it belongs to. -/
theorem eq_of_kind_eq {steps : List Step} {past : List Exchange} {completed : List Completed}
    {failure : Option Failure} (h : Conforms steps past completed failure)
    (hsteps : (steps.map (·.kind)).Nodup) {x y : Exchange} (hx : x ∈ past) (hy : y ∈ past)
    (hkind : x.effect.kind = y.effect.kind) : x = y := by
  have hnodup : (past.map (·.effect.kind)).Nodup := by
    rw [h.kinds_eq, List.map_take]
    exact hsteps.sublist (List.take_sublist _ _)
  exact List.inj_on_of_nodup_map hnodup hx hy hkind

/-- **Where arguments come from.** With any gateway, every effect that a run asks takes its arguments from the
settings, the thread and the answers that the same run got before: references are created and moved only under
the name of the bot's branch, at the tip of the base branch or at the commit that the run has created; a commit
has the tree that was created and one parent, the commit that was fetched; the pull request comes from the
branch that the run has created, if there is one; the link names the pull request that was opened. An answer is
the only one to its kind of effect. -/
theorem arguments_sourced {σ : Type} (gateway : Gateway σ) (s : σ) :
    let calls := (w.run settings now issue).exchanges gateway s
    (∀ x ∈ calls, ∀ y ∈ calls, x.effect.kind = y.effect.kind → x = y) ∧
      settings.fullBotRef = "refs/" ++ settings.botRef ∧
      ∀ before x after, calls = before ++ x :: after → Sourced settings now issue w before x.effect := by
  intro calls
  have hstart := Interaction.Underway.start (run_meets settings now issue w (plan_sourced settings now issue w))
  have hrun := hstart.run gateway s
  rw [List.nil_append] at hrun
  obtain ⟨-, hconforms⟩ := hrun.meets
  refine ⟨fun x hx y hy hkind => ?_, fullBotRef_eq settings, fun before x after hcalls => ?_⟩
  · exact eq_of_kind_eq hconforms (nodup_kinds w) hx hy hkind
  · exact (hrun.asked hcalls).2

end CommentBot.Workflow
