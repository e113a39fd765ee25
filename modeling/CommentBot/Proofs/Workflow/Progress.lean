import CommentBot.Proofs.Workflow.Provenance
import Mathlib.Data.List.Induction

/-!
# Runs underway

What the exchanges so far tell of a run that is not at its end, whoever answers it. The run is where its contract
has it be (`Underway`), so the effects it has asked are the first ones of its workflow (`kinds_before`), an
answer that does not do is the last one (`ended_of_not_answered`), and the branch of the run points where the
run has last pointed it: at the tip of the base branch, or at its own commit (`branchTip?_sourced`).
-/

namespace CommentBot.Workflow

open Forge Git

/-- A run to be done: a workflow that was asked for on a thread, with the settings for it. -/
structure Job where
  settings : Settings
  /-- The date of the commit. -/
  now : Time.Instant
  issue : IssueNumber
  workflow : Workflow

namespace Job

/-- The program of the run. -/
def program (j : Job) : Interaction Report := j.workflow.run j.settings j.now j.issue

/-- What the run keeps to. -/
def contract (j : Job) : Contract Report :=
  runContract j.workflow (Sourced j.settings j.now j.issue j.workflow)

theorem program_underway (j : Job) : j.program.Underway j.contract [] :=
  .start (run_meets _ _ _ _ (plan_sourced _ _ _ _))

end Job

/-! ## Steps so far -/

/-- The effect of the step was asked. -/
def Reached (past : List Exchange) (step : Step) : Prop := ∃ x ∈ past, x.effect.kind = step.kind

/-- The step was completed. -/
def Passed (past : List Exchange) (step : Step) : Prop :=
  ∃ x ∈ past, x.effect.kind = step.kind ∧ x.Answered

/-- The run is at its end: it failed to create its branch, and has asked nothing since. -/
def StoppedAtBranch (past : List Exchange) (p : Interaction Report) : Prop :=
  past.map (·.effect.kind) = [.getRef, .createRef] ∧ ∃ report, p = .done report ∧
    report.steps = [.getBaseRef] ∧ report.failedStep? = some .createBranchRef

/-- In a list without repetitions an entry tells what stands before it. -/
theorem eq_takeWhile_of_nodup {α : Type} [DecidableEq α] {l before after : List α} {a : α}
    (h : l.Nodup) (hl : l = before ++ a :: after) : before = l.takeWhile (· ≠ a) := by
  subst hl
  have hmem : ∀ b ∈ before, decide (b ≠ a) = true := fun b hb => by
    simpa using (List.nodup_append.1 h).2.2 b hb a (List.mem_cons_self ..)
  rw [List.takeWhile_append_of_pos hmem, List.takeWhile_cons_of_neg (by simp), List.append_nil]

/-- The effects asked before an effect are those of the steps before its own. -/
theorem kinds_before {w : Workflow} {past : List Exchange} {effect : Effect}
    (h : AtStep w.steps past effect) :
    past.map (·.effect.kind) = (w.steps.map (·.kind)).takeWhile (· ≠ effect.kind) := by
  obtain ⟨completed, step, rest, passed, hsteps, hkind⟩ := h
  have hkinds : w.steps.map (·.kind) = past.map (·.effect.kind) ++ effect.kind :: rest.map (·.kind) := by
    rw [kinds_of_passed passed, hsteps, List.map_append, hkind]
    rfl
  exact eq_takeWhile_of_nodup (nodup_kinds w) hkinds

/-- All exchanges before an effect was asked were answered in their shapes. -/
theorem AtStep.answered {steps : List Step} {past : List Exchange} {effect : Effect}
    (h : AtStep steps past effect) {x : Exchange} (hx : x ∈ past) : x.Answered := by
  obtain ⟨completed, step, rest, passed, -⟩ := h
  exact answered_of_passed passed hx

theorem AtStep.kind_mem {steps : List Step} {past : List Exchange} {effect : Effect}
    (h : AtStep steps past effect) : effect.kind ∈ steps.map (·.kind) := by
  obtain ⟨completed, step, rest, -, hsteps, hkind⟩ := h
  rw [hsteps, hkind]
  exact List.mem_map_of_mem (List.mem_append_right _ List.mem_cons_self)

/-- A workflow that creates a branch finds the base branch first. -/
theorem branch_first {w : Workflow} (h : .createRef ∈ w.steps.map (·.kind)) :
    (w.steps.map (·.kind)).takeWhile (· ≠ .createRef) = [.getRef] ∧ w.steps.take 1 = [.getBaseRef] ∧
      w.steps[1]? = some .createBranchRef := by
  cases w with
  | createBranch => decide
  | openPullRequest => exact absurd h (by decide)
  | createBranchAndOpenPullRequest => decide

/-- Before a branch is created nothing but the base branch was asked for. -/
theorem kinds_before_createRef {w : Workflow} {past : List Exchange} {name : String} {target : ObjectId}
    (h : AtStep w.steps past (.createRef name target)) : past.map (·.effect.kind) = [.getRef] := by
  rw [kinds_before h]
  exact (branch_first h.kind_mem).1

section Underway

variable {j : Job} {past : List Exchange} {p : Interaction Report}

/-- An answer that does not do is the last one: the run has ended. -/
theorem ended_of_not_answered (h : p.Underway j.contract past) {before after : List Exchange} {x : Exchange}
    (hpast : past = before ++ x :: after) (hx : ¬ x.Answered) : after = [] ∧ ∃ report, p = .done report := by
  constructor
  · cases after with
    | nil => rfl
    | cons y after =>
      have hy : past = (before ++ [x]) ++ y :: after := by rw [hpast, List.append_assoc]; rfl
      exact absurd ((h.asked hy).1.answered (List.mem_append_right _ (List.mem_singleton.2 rfl))) hx
  · cases p with
    | done report => exact ⟨report, rfl⟩
    | ask effect next =>
      refine absurd (h.meets.1.1.answered ?_) hx
      rw [hpast]
      exact List.mem_append_right _ List.mem_cons_self

/-- A run that reached the creation of its branch without completing it has failed there. -/
theorem stopped_of_reached (h : p.Underway j.contract past) (hreached : Reached past .createBranchRef)
    (hpassed : ¬ Passed past .createBranchRef) : StoppedAtBranch past p := by
  obtain ⟨x, hx, hkind⟩ := hreached
  obtain ⟨before, after, hpast⟩ := List.append_of_mem hx
  have hnot : ¬ x.Answered := fun ha => hpassed ⟨x, hx, hkind, ha⟩
  obtain ⟨rfl, report, rfl⟩ := ended_of_not_answered h hpast hnot
  have hstep := (h.asked hpast).1
  obtain ⟨hfirst, htake, hnext⟩ := branch_first (hkind ▸ hstep.kind_mem)
  have hkinds : past.map (·.effect.kind) = [.getRef, .createRef] := by
    rw [hpast, List.map_append, kinds_before hstep, List.map_singleton, hkind]
    rw [show Step.createBranchRef.kind = .createRef from rfl, hfirst]
    rfl
  have hc : Conforms j.workflow.steps past report.completed report.failure := h.meets.2
  have hlength := hc.length_eq
  have htwo : past.length = 2 := by simpa using congrArg List.length hkinds
  refine ⟨hkinds, report, rfl, ?_⟩
  cases hfailure : report.failure with
  | none =>
    rw [hfailure] at hlength
    have hpassedAll := hc.take_passed
    rw [← show past.length = report.completed.length from hlength, List.take_length] at hpassedAll
    exact absurd (answered_of_passed hpassedAll hx) hnot
  | some f =>
    rw [hfailure, htwo] at hlength
    have hone : report.completed.length = 1 := (Nat.succ.inj hlength).symm
    constructor
    · rw [Report.steps, hc.steps_eq, hone, htake]
    · rw [Report.failedStep?, hc.failed_eq, hone, hnext]

end Underway

/-! ## Where the branch points -/

/-- Where the exchange pointed a reference, if it did. -/
def pointed? (x : Exchange) : Option ObjectId :=
  match x.effect, x.answer with
  | .createRef _ target, .ok (.ref _) => some target
  | .updateRef _ target _, .ok (.ref _) => some target
  | _, _ => none

/-- Where a run has last pointed its branch, if it has created it. -/
def branchTip? (past : List Exchange) : Option ObjectId := (past.filterMap pointed?).getLast?

theorem branchTip?_concat (past : List Exchange) (x : Exchange) :
    branchTip? (past ++ [x]) = (pointed? x).or (branchTip? past) := by
  rw [branchTip?, List.filterMap_append, List.getLast?_append]
  cases hx : pointed? x <;> simp [hx, branchTip?]

theorem pointed?_eq_some {x : Exchange} {target : ObjectId} (h : pointed? x = some target) :
    (∃ name r, x = ⟨.createRef name target, .ok (.ref r)⟩) ∨
      ∃ name force r, x = ⟨.updateRef name target force, .ok (.ref r)⟩ := by
  obtain ⟨effect, answer⟩ := x
  unfold pointed? at h
  split at h
  next heffect hanswer =>
    cases h
    exact .inl ⟨_, _, by rw [← heffect, ← hanswer]⟩
  next heffect hanswer =>
    cases h
    exact .inr ⟨_, _, _, by rw [← heffect, ← hanswer]⟩
  next => cases h

/-- An effect that failed, or that is not on references, points none anywhere. -/
theorem pointed?_eq_none {x : Exchange} (h : ∀ response, x.answer = .ok response →
    x.effect.kind ≠ .createRef ∧ x.effect.kind ≠ .updateRef) : pointed? x = none := by
  cases hx : pointed? x with
  | none => rfl
  | some target =>
    rcases pointed?_eq_some hx with ⟨name, r, rfl⟩ | ⟨name, force, r, rfl⟩
    · exact absurd rfl (h _ rfl).1
    · exact absurd rfl (h _ rfl).2

theorem exists_mem_of_branchTip? {past : List Exchange} {target : ObjectId}
    (h : branchTip? past = some target) : ∃ x ∈ past, pointed? x = some target :=
  List.mem_filterMap.1 (List.mem_of_getLast? h)

theorem branchTip?_isSome {past : List Exchange} {x : Exchange} {target : ObjectId} (hx : x ∈ past)
    (h : pointed? x = some target) : (branchTip? past).isSome := by
  rw [branchTip?, List.getLast?_isSome]
  exact List.ne_nil_of_mem (List.mem_filterMap.2 ⟨x, hx, h⟩)

/-- Effects on references point them somewhere if they are answered as they should be. -/
theorem pointed?_isSome {x : Exchange} (hx : x.Answered)
    (hkind : x.effect.kind = .createRef ∨ x.effect.kind = .updateRef) : (pointed? x).isSome := by
  obtain ⟨effect, answer⟩ := x
  obtain ⟨response, rfl, hshape⟩ := hx
  rcases hkind with hkind | hkind <;> cases effect <;> cases hkind <;> cases response <;>
    first | rfl | cases hshape

section Tip

variable {j : Job} {past : List Exchange} {p : Interaction Report} {target : ObjectId}

/-- A branch that points somewhere has been created. -/
theorem passed_of_branchTip? (h : p.Underway j.contract past) (htip : branchTip? past = some target) :
    Passed past .createBranchRef := by
  obtain ⟨x, hx, hpointed⟩ := exists_mem_of_branchTip? htip
  rcases pointed?_eq_some hpointed with ⟨name, r, rfl⟩ | ⟨name, force, r, rfl⟩
  · exact ⟨_, hx, rfl, .ref r, rfl, rfl⟩
  · obtain ⟨before, after, hpast⟩ := List.append_of_mem hx
    obtain ⟨-, -, -, base, made, hmade⟩ := (h.asked hpast).2
    refine ⟨⟨.createRef j.settings.fullBotRef base, .ok (.ref made)⟩, ?_, rfl, .ref made, rfl, rfl⟩
    rw [hpast]
    exact List.mem_append_left _ hmade

theorem branchTip?_of_passed (h : Passed past .createBranchRef) : (branchTip? past).isSome := by
  obtain ⟨x, hx, hkind, hanswered⟩ := h
  obtain ⟨target, htarget⟩ := Option.isSome_iff_exists.1 (pointed?_isSome hanswered (.inl hkind))
  exact branchTip?_isSome hx htarget

theorem ReadBase.append {settings : Settings} (h : ReadBase settings past target) (more : List Exchange) :
    ReadBase settings (past ++ more) target := by
  obtain ⟨base, hbase, htarget⟩ := h
  exact ⟨base, List.mem_append_left more hbase, htarget⟩

theorem MadeCommit.append (h : MadeCommit past target) (more : List Exchange) :
    MadeCommit (past ++ more) target := by
  obtain ⟨message, author, tree, parents, created, hcreated, htarget⟩ := h
  exact ⟨message, author, tree, parents, created, List.mem_append_left more hcreated, htarget⟩

/-- An exchange that points no reference anywhere completes no effect on references. -/
theorem passed_concat_iff {x : Exchange} {step : Step} (hx : pointed? x = none)
    (hstep : step.kind = .createRef ∨ step.kind = .updateRef) :
    Passed (past ++ [x]) step ↔ Passed past step := by
  constructor
  · rintro ⟨y, hy, hkind, hanswered⟩
    rcases List.mem_append.1 hy with hy | hy
    · exact ⟨y, hy, hkind, hanswered⟩
    · obtain rfl := List.mem_singleton.1 hy
      have := pointed?_isSome hanswered (hkind ▸ hstep)
      rw [hx] at this
      cases this
  · rintro ⟨y, hy, hkind, hanswered⟩
    exact ⟨y, List.mem_append_left _ hy, hkind, hanswered⟩

/-- The branch points at the tip of the base branch, or, once it has been moved, at the commit that the run has
created. -/
theorem branchTip?_sourced (h : p.Underway j.contract past) (htip : branchTip? past = some target) :
    (¬ Passed past .updateBranchRef ∧ ReadBase j.settings past target) ∨
      (Passed past .updateBranchRef ∧ MadeCommit past target) := by
  have asked := @h.asked
  clear h
  induction past using List.reverseRecOn with
  | nil => cases htip
  | append_singleton past x ih =>
    obtain ⟨hstep, hsourced⟩ := @asked past x [] rfl
    rw [branchTip?_concat] at htip
    cases hx : pointed? x with
    | none =>
      rw [hx] at htip
      have hpast := ih htip fun {before y after} heq => @asked before y (after ++ [x]) (by rw [heq]; simp)
      rw [passed_concat_iff hx (.inr rfl)]
      exact hpast.imp (And.imp_right (·.append [x])) (And.imp_right (·.append [x]))
    | some t =>
      rw [hx] at htip
      obtain rfl := Option.some.inj htip
      rcases pointed?_eq_some hx with ⟨name, r, rfl⟩ | ⟨name, force, r, rfl⟩
      · refine .inl ⟨?_, hsourced.2.append _⟩
        rintro ⟨y, hy, hkind, -⟩
        have hmem := List.mem_map_of_mem (f := fun y : Exchange => y.effect.kind) hy
        rw [List.map_append, kinds_before_createRef hstep, hkind] at hmem
        simp [Step.kind, Effect.kind] at hmem
      · refine .inr ⟨⟨_, List.mem_append_right past (List.mem_singleton.2 rfl), rfl, .ref r, rfl, rfl⟩, ?_⟩
        exact hsourced.2.2.1.append _

end Tip

end CommentBot.Workflow
