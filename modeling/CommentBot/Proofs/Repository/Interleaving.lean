import CommentBot.Proofs.Repository.Change
import CommentBot.Proofs.Workflow.Progress

/-!
# Runs that share a repository

Any number of runs, each with its own settings, share one repository; a schedule says whose effect comes next.

1. `Owned` is the invariant: references from before stay where they are, and every other one is the branch of
   the one run that created it, where that run has last pointed it.
2. `Owned.same` and `Owned.point`: the two things that an effect can do to the references keep it.
3. `Owned.advance`: whoever asks, one effect keeps it. `owned_play`: so does every schedule.
4. `branches_have_one_owner` says what this comes to for the references and for the runs.
-/

namespace CommentBot.Repository

open Forge Git Workflow

/-! ## Schedules -/

/-- A run with what it has asked and what it has yet to do. -/
structure LiveRun where
  past : List Exchange
  rest : Interaction Report

/-- Runs that share a repository. -/
structure Shared (ι : Type) where
  repository : Repository
  runs : ι → LiveRun

namespace Shared

variable {ι : Type}

/-- Before anything was asked. -/
def start (jobs : ι → Job) (r : Repository) : Shared ι := ⟨r, fun i => ⟨[], (jobs i).program⟩⟩

/-- Where a run has last pointed its branch, if it has created it. -/
def tip? (s : Shared ι) (i : ι) : Option ObjectId := branchTip? (s.runs i).past

variable [DecidableEq ι]

/-- The run has asked an effect, and goes on with the rest. -/
def exchange (s : Shared ι) (i : ι) (effect : Effect) (next : Answer → Interaction Report) : Shared ι :=
  let (answer, repository) := apply effect s.repository
  ⟨repository, Function.update s.runs i ⟨(s.runs i).past ++ [⟨effect, answer⟩], next answer⟩⟩

/-- Lets a run ask its next effect, if it has one. -/
def advance (s : Shared ι) (i : ι) : Shared ι :=
  match (s.runs i).rest with
  | .done _ => s
  | .ask effect next => s.exchange i effect next

/-- Lets the runs ask in the order of the schedule. -/
def play (s : Shared ι) (schedule : List ι) : Shared ι := schedule.foldl advance s

variable (s : Shared ι) (i : ι) (effect : Effect) (next : Answer → Interaction Report)

@[simp] theorem exchange_repository : (s.exchange i effect next).repository = (apply effect s.repository).2 := rfl

@[simp] theorem exchange_runs_self : (s.exchange i effect next).runs i =
    ⟨(s.runs i).past ++ [⟨effect, (apply effect s.repository).1⟩], next (apply effect s.repository).1⟩ :=
  Function.update_self ..

theorem exchange_runs_of_ne {j : ι} (h : j ≠ i) : (s.exchange i effect next).runs j = s.runs j :=
  Function.update_of_ne h ..

theorem exchange_tip?_self : (s.exchange i effect next).tip? i =
    (pointed? ⟨effect, (apply effect s.repository).1⟩).or (s.tip? i) := by
  rw [tip?, exchange_runs_self]
  exact branchTip?_concat _ _

theorem exchange_tip?_of_ne {j : ι} (h : j ≠ i) : (s.exchange i effect next).tip? j = s.tip? j := by
  rw [tip?, exchange_runs_of_ne s i effect next h, tip?]

/-- What every exchange keeps, every schedule keeps. -/
theorem play_induction {P : Shared ι → Prop} {s : Shared ι} (hs : P s)
    (hstep : ∀ s i effect next, P s → (s.runs i).rest = .ask effect next → P (s.exchange i effect next))
    (schedule : List ι) : P (s.play schedule) := by
  induction schedule generalizing s with
  | nil => exact hs
  | cons i schedule ih =>
    refine ih (s := s.advance i) ?_
    unfold advance
    cases hrest : (s.runs i).rest with
    | done report => exact hs
    | ask effect next => exact hstep s i effect next hs hrest

/-- Scheduled without interruption, a run comes to the end that it has alone. -/
theorem play_to_end (s : Shared ι) (i : ι) : ∃ n, s.play (List.replicate n i) =
    ⟨((s.runs i).rest.run apply s.repository).2, Function.update s.runs i
      ⟨(s.runs i).past ++ (s.runs i).rest.exchanges apply s.repository,
        .done ((s.runs i).rest.run apply s.repository).1⟩⟩ := by
  generalize hp : (s.runs i).rest = p
  induction p generalizing s with
  | done report =>
    refine ⟨0, ?_⟩
    have hrun : s.runs i = ⟨(s.runs i).past, .done report⟩ := by rw [← hp]
    rw [Interaction.exchanges_done, List.append_nil, Interaction.run_done, ← hrun, Function.update_eq_self]
    rfl
  | ask effect next ih =>
    have hadvance : s.advance i = s.exchange i effect next := by rw [advance, hp]
    obtain ⟨n, hn⟩ := ih (apply effect s.repository).1 (s.exchange i effect next)
      (by rw [exchange_runs_self])
    refine ⟨n + 1, ?_⟩
    rw [List.replicate_succ, play, List.foldl_cons, hadvance]
    refine hn.trans ?_
    rw [exchange_runs_self, exchange_repository, Interaction.exchanges_ask, Interaction.run_ask, exchange,
      Function.update_idem, List.append_assoc]
    rfl

end Shared

/-! ## The invariant -/

section

variable {ι : Type} {jobs : ι → Job} {r : Repository} {s s' : Shared ι}

/-- Every run keeps to its contract. -/
def Sound (jobs : ι → Job) (s : Shared ι) : Prop :=
  ∀ i, (s.runs i).rest.Underway (jobs i).contract (s.runs i).past

/-- The references of a repository that runs share since it was `r`. -/
structure Owned (jobs : ι → Job) (r : Repository) (s : Shared ι) : Prop where
  kept : ∀ {name target}, r.refs.get? name = some target → s.repository.refs.get? name = some target
  /-- The branch that a run has created is new, and points where the run has last pointed it. -/
  held : ∀ {i target}, s.tip? i = some target → r.refs.get? (jobs i).settings.fullBotRef = none ∧
    s.repository.refs.get? (jobs i).settings.fullBotRef = some target
  single : ∀ {i j}, (s.tip? i).isSome → (s.tip? j).isSome →
    (jobs i).settings.fullBotRef = (jobs j).settings.fullBotRef → i = j
  made : ∀ {name target}, s.repository.refs.get? name = some target → r.refs.get? name = some target ∨
    ∃ i, name = (jobs i).settings.fullBotRef ∧ s.tip? i = some target

theorem sound_start (jobs : ι → Job) (r : Repository) : Sound jobs (.start jobs r) :=
  fun i => (jobs i).program_underway

theorem Sound.sourced {i : ι} {effect : Effect} {next : Answer → Interaction Report} (h : Sound jobs s)
    (hrest : (s.runs i).rest = .ask effect next) :
    Sourced (jobs i).settings (jobs i).now (jobs i).issue (jobs i).workflow (s.runs i).past effect := by
  have hi := (h i).meets
  rw [hrest] at hi
  exact hi.1.2

/-- A run that has completed the creation of its branch has a tip. -/
theorem Sound.passed_iff (h : Sound jobs s) (i : ι) :
    Passed (s.runs i).past .createBranchRef ↔ (s.tip? i).isSome := by
  refine ⟨branchTip?_of_passed, fun htip => ?_⟩
  obtain ⟨target, htarget⟩ := Option.isSome_iff_exists.1 htip
  exact passed_of_branchTip? (h i) htarget

theorem owned_start (jobs : ι → Job) (r : Repository) : Owned jobs r (.start jobs r) where
  kept h := h
  held h := by cases h
  single h := by cases h
  made h := .inl h

namespace Owned

/-- An effect that leaves the references and the tips of all runs alone keeps the invariant. -/
theorem same (h : Owned jobs r s) (hrefs : s'.repository.refs = s.repository.refs)
    (htip : ∀ i, s'.tip? i = s.tip? i) : Owned jobs r s' where
  kept hname := by
    rw [hrefs]
    exact h.kept hname
  held hi := by
    rw [htip] at hi
    rw [hrefs]
    exact h.held hi
  single hi hj heq := by
    rw [htip] at hi hj
    exact h.single hi hj heq
  made hname := by
    rw [hrefs] at hname
    simp only [htip]
    exact h.made hname

/-- A run that points its branch keeps the invariant if the branch is new and no other run has created it. -/
theorem point (h : Owned jobs r s) {i : ι} {target : ObjectId}
    (hrefs : s'.repository.refs = s.repository.refs.insert (jobs i).settings.fullBotRef target)
    (hself : s'.tip? i = some target) (htip : ∀ j, j ≠ i → s'.tip? j = s.tip? j)
    (hnew : r.refs.get? (jobs i).settings.fullBotRef = none)
    (halone : ∀ j, (s.tip? j).isSome → (jobs j).settings.fullBotRef = (jobs i).settings.fullBotRef → j = i) :
    Owned jobs r s' where
  kept {name t} hname := by
    have hne : name ≠ (jobs i).settings.fullBotRef := by
      rintro rfl
      rw [hnew] at hname
      cases hname
    rw [hrefs, Table.get?_insert_of_ne _ hne]
    exact h.kept hname
  held {j t} hj := by
    by_cases hji : j = i
    · subst hji
      rw [hself] at hj
      rw [hrefs, Table.get?_insert_self]
      exact ⟨hnew, hj⟩
    · rw [htip j hji] at hj
      have hne : (jobs j).settings.fullBotRef ≠ (jobs i).settings.fullBotRef := fun heq =>
        hji (halone j (by rw [hj]; rfl) heq)
      rw [hrefs, Table.get?_insert_of_ne _ hne]
      exact h.held hj
  single {j k} hj hk heq := by
    by_cases hji : j = i
    · subst hji
      by_cases hkj : k = j
      · exact hkj.symm
      · rw [htip k hkj] at hk
        exact (halone k hk heq.symm).symm
    · rw [htip j hji] at hj
      by_cases hki : k = i
      · subst hki
        exact halone j hj heq
      · rw [htip k hki] at hk
        exact h.single hj hk heq
  made {name t} hname := by
    by_cases hi : name = (jobs i).settings.fullBotRef
    · subst hi
      rw [hrefs, Table.get?_insert_self] at hname
      exact .inr ⟨i, rfl, hself.trans hname⟩
    · rw [hrefs, Table.get?_insert_of_ne _ hi] at hname
      rcases h.made hname with hold | ⟨j, rfl, hj⟩
      · exact .inl hold
      · refine .inr ⟨j, rfl, ?_⟩
        rw [htip j fun e => hi (e ▸ rfl)]
        exact hj

end Owned

end

/-! ## Schedules keep it -/

variable {ι : Type} [DecidableEq ι] {jobs : ι → Job} {r : Repository} {s : Shared ι} {i : ι} {effect : Effect}
  {next : Answer → Interaction Report}

theorem Sound.exchange (h : Sound jobs s) (hrest : (s.runs i).rest = .ask effect next) :
    Sound jobs (s.exchange i effect next) := by
  intro j
  by_cases hj : j = i
  · subst hj
    have hi := h j
    rw [hrest] at hi
    rw [Shared.exchange_runs_self]
    exact hi.step _
  · rw [Shared.exchange_runs_of_ne s i effect next hj]
    exact h j

/-- Whoever asks, one effect keeps the invariant: a created branch has a free name, and only a run that has created
its branch moves it. -/
theorem Owned.exchange (h : Owned jobs r s) (hs : Sound jobs s) (hrest : (s.runs i).rest = .ask effect next) :
    Owned jobs r (s.exchange i effect next) := by
  have hsourced := hs.sourced hrest
  have hstep := refsStep_apply effect s.repository
  have hself := s.exchange_tip?_self i effect next
  have hother : ∀ j, j ≠ i → (s.exchange i effect next).tip? j = s.tip? j :=
    fun j hj => s.exchange_tip?_of_ne i effect next hj
  have hrepository := s.exchange_repository i effect next
  generalize s.exchange i effect next = s' at *
  rw [← hrepository] at hstep
  generalize (apply effect s.repository).1 = answer at *
  cases hstep with
  | @created name target free refs =>
    -- a free name is neither one from before nor one that a run holds
    obtain rfl : name = (jobs i).settings.fullBotRef := hsourced.1
    refine h.point refs hself hother ?_ fun j hj heq => ?_
    · cases hr : r.refs.get? (jobs i).settings.fullBotRef with
      | none => rfl
      | some t =>
        rw [h.kept hr] at free
        cases free
    · obtain ⟨t, ht⟩ := Option.isSome_iff_exists.1 hj
      have := (h.held ht).2
      rw [heq, free] at this
      cases this
  | @moved name target force current there refs =>
    -- the run has created its branch before, so it holds the name already
    obtain ⟨rfl, -, -, base, made, hmade⟩ := hsourced
    have htip : (s.tip? i).isSome := branchTip?_isSome hmade rfl
    obtain ⟨t, ht⟩ := Option.isSome_iff_exists.1 htip
    rw [← fullBotRef_eq] at refs
    exact h.point refs hself hother (h.held ht).1 fun j hj heq => h.single hj htip heq
  | same refs idle =>
    refine h.same refs fun j => ?_
    by_cases hj : j = i
    · subst hj
      have hnone : pointed? ⟨effect, answer⟩ = none := pointed?_eq_none fun response he => idle response he
      rw [hself, hnone, Option.none_or]
    · exact hother j hj

theorem sound_play (jobs : ι → Job) (r : Repository) (schedule : List ι) :
    Sound jobs ((Shared.start jobs r).play schedule) :=
  Shared.play_induction (sound_start jobs r) (fun _ _ _ _ hs hrest => hs.exchange hrest) schedule

theorem owned_play (jobs : ι → Job) (r : Repository) (schedule : List ι) :
    Owned jobs r ((Shared.start jobs r).play schedule) :=
  (Shared.play_induction (P := fun s => Sound jobs s ∧ Owned jobs r s) ⟨sound_start jobs r, owned_start jobs r⟩
    (fun _ _ _ _ h hrest => ⟨h.1.exchange hrest, h.2.exchange h.1 hrest⟩) schedule).2

/-! ## Who owns a branch -/

/-- **Branches of runs that share a repository.** At every moment of every schedule, whatever was there before and
whatever is made to fail: references from before are where they were; of the runs with one name for their branch
at most one has created it, and any run that tried and did not is at its end; and every other reference is the
branch of the one run that created it, at the tip that run read or, once moved, at the commit that run made. -/
theorem branches_have_one_owner (jobs : ι → Job) (r : Repository) (schedule : List ι) :
    let s := (Shared.start jobs r).play schedule
    (∀ name target, r.refs.get? name = some target → s.repository.refs.get? name = some target) ∧
    (∀ i j, (jobs i).settings.botBranch = (jobs j).settings.botBranch → Passed (s.runs i).past .createBranchRef →
      Passed (s.runs j).past .createBranchRef → i = j) ∧
    (∀ i, Reached (s.runs i).past .createBranchRef → ¬ Passed (s.runs i).past .createBranchRef →
      StoppedAtBranch (s.runs i).past (s.runs i).rest) ∧
    (∀ name target, r.refs.get? name = none → s.repository.refs.get? name = some target →
      ∃ i, name = (jobs i).settings.fullBotRef ∧ Passed (s.runs i).past .createBranchRef ∧
        (∀ j, name = (jobs j).settings.fullBotRef → Passed (s.runs j).past .createBranchRef → j = i) ∧
        ((¬ Passed (s.runs i).past .updateBranchRef ∧ ReadBase (jobs i).settings (s.runs i).past target) ∨
          (Passed (s.runs i).past .updateBranchRef ∧ MadeCommit (s.runs i).past target))) := by
  intro s
  have hsound : Sound jobs s := sound_play jobs r schedule
  have howned : Owned jobs r s := owned_play jobs r schedule
  refine ⟨fun name target h => howned.kept h, fun i j hname hi hj => ?_, fun i hreached hpassed => ?_,
    fun name target hnew hname => ?_⟩
  · exact howned.single ((hsound.passed_iff i).1 hi) ((hsound.passed_iff j).1 hj) (fullBotRef_congr hname)
  · exact stopped_of_reached (hsound i) hreached hpassed
  · rcases howned.made hname with hold | ⟨i, hi, htip⟩
    · rw [hnew] at hold
      cases hold
    · have hsome : (s.tip? i).isSome := by rw [htip]; rfl
      refine ⟨i, hi, (hsound.passed_iff i).2 hsome, fun j hj hpassed => ?_, branchTip?_sourced (hsound i) htip⟩
      exact howned.single ((hsound.passed_iff j).1 hpassed) hsome (hj ▸ hi)

end CommentBot.Repository
