import CommentBot.Proofs.Repository.Integrity
import CommentBot.Proofs.Repository.Script
import CommentBot.Proofs.Workflow.Progress

/-!
# Runs on a repository

What a run comes to on a repository that is alone with it.

1. `laid`: files with the files of a manifest over them, the later ones over the earlier ones.
2. `script`: what the steps of a run ask, what they are answered, why they fail and what they leave, told from the
   repository before the run.
3. `holds_branchSteps` and its neighbours: a repository with integrity does what the script says.
4. `run_determined`: so the report of a run, and the repository after it, are those of the script.
-/

namespace CommentBot.Repository

open Forge Git Workflow

/-! ## Files -/

/-- The files with those of a manifest over them. -/
def laid (files : Files) (manifest : List File) : Files :=
  manifest.foldl (fun files f => files.insert f.path f.text) files

theorem overlay_entries (files : Files) (manifest : List File) :
    overlay files (manifest.map File.entry) = .ok (laid files manifest) := by
  induction manifest generalizing files with
  | nil => rfl
  | cons f rest ih => exact ih _

/-- The text of a file is the one that the manifest has last for it, or the one from before. -/
theorem get?_laid (files : Files) (manifest : List File) (path : String) : (laid files manifest).get? path =
    ((manifest.reverse.find? fun f => f.path = path).map (·.text)).or (files.get? path) := by
  induction manifest generalizing files with
  | nil => rfl
  | cons f rest ih =>
    show (laid (files.insert f.path f.text) rest).get? path = _
    rw [ih, List.reverse_cons, List.find?_append]
    by_cases hpath : f.path = path
    · subst hpath
      cases rest.reverse.find? fun g => g.path = f.path <;> simp
    · rw [Table.get?_insert_of_ne _ (Ne.symm hpath)]
      cases rest.reverse.find? fun g => g.path = path <;> simp [hpath]

/-! ## Sites -/

/-- Where a branch starts: the commit at the tip of the base branch, with the files there. -/
structure Site where
  commit : Commit
  files : Files

/-- The tip of the base branch. -/
def Site.tip (site : Site) : ObjectId := site.commit.id

/-- The site is that of a branch. -/
structure Site.At (site : Site) (r : Repository) (branch : String) : Prop where
  tip : r.refs.get? (branchRef branch) = some site.tip
  commit : r.commits.get? site.tip = some site.commit
  files : r.trees.get? site.commit.tree = some site.files

/-- Integrity gives every branch a site. -/
theorem Integrity.site {r : Repository} (h : Integrity r) (branch : String) :
    ∃ site : Site, r.refs.contains (branchRef branch) = true → site.At r branch := by
  by_cases hbranch : r.refs.contains (branchRef branch) = true
  · obtain ⟨tip, htip⟩ := Table.contains_eq_true_iff.1 hbranch
    obtain ⟨commit, hcommit⟩ := Table.contains_eq_true_iff.1 (h.refs htip)
    obtain ⟨files, hfiles⟩ := Table.contains_eq_true_iff.1 (h.tree hcommit)
    obtain rfl := h.own hcommit
    exact ⟨⟨commit, files⟩, fun _ => ⟨htip, hcommit, hfiles⟩⟩
  -- without the branch nothing is asked of the site, so any will do
  · exact ⟨⟨⟨freshId 0, "", founder, freshId 0, []⟩, .empty⟩, fun h => absurd h hbranch⟩

/-! ## The script of a run -/

section Script

variable (r : Repository) (j : Job) (site : Site)

/-- The commit that a run creates. Its tree is the first object of the run. -/
def newCommit : Commit :=
  ⟨freshId (r.issued + 1), j.settings.commitMessage, ⟨j.settings.authorName, j.settings.authorEmail, j.now⟩,
    freshId r.issued, [site.tip]⟩

/-- The pull request that a run opens. -/
def newPullRequest : NewPullRequest :=
  ⟨j.settings.pullRequestTitle, pullRequestHead j.settings j.workflow, j.settings.baseBranch,
    j.settings.pullRequestBody⟩

theorem newPullRequest_of_open (hw : j.workflow = openPullRequest) : newPullRequest j =
    ⟨j.settings.pullRequestTitle, j.settings.headBranch, j.settings.baseBranch, j.settings.pullRequestBody⟩ := by
  rw [newPullRequest, hw]
  rfl

theorem newPullRequest_of_branch (hw : j.workflow = createBranchAndOpenPullRequest) : newPullRequest j =
    ⟨j.settings.pullRequestTitle, j.settings.botBranch, j.settings.baseBranch, j.settings.pullRequestBody⟩ := by
  rw [newPullRequest, hw]
  rfl

/-- The pull request once it is opened. -/
def openedPullRequest : PullRequest :=
  ⟨⟨UInt64.ofNat (r.pullRequests.length + 1)⟩, j.settings.pullRequestTitle,
    pullRequestUrl (r.pullRequests.length + 1)⟩

/-- Why a branch cannot be one of a pull request, for the first one of some that is not there. -/
def missingBranch? (branches : List String) : Option ApiError :=
  (branches.find? fun branch => !r.refs.contains (branchRef branch)).map fun branch =>
    .ofStatus 422 s!"Validation Failed: branch {branch} not found"

theorem missingBranch?_eq_none_iff {branches : List String} : missingBranch? r branches = none ↔
    ∀ branch ∈ branches, r.refs.contains (branchRef branch) = true := by
  rw [missingBranch?, Option.map_eq_none_iff, List.find?_eq_none]
  simp

/-- What stands in the way of a step that is not made to fail: the base branch is not there, the bot's branch is
there already, or a branch of the pull request is not there. -/
def obstacle? : Step → Option ApiError
  | .getBaseRef =>
    if r.refs.contains (branchRef j.settings.baseBranch) then none
    else some ⟨.notFound, some 404, "Not Found", false⟩
  | .createBranchRef =>
    if r.refs.contains (branchRef j.settings.botBranch) then
      some ⟨.conflict, some 422, "Reference already exists", false⟩
    else none
  | .createPullRequest =>
    if j.workflow = openPullRequest then missingBranch? r [j.settings.headBranch, j.settings.baseBranch] else none
  | _ => none

/-- The effect of a step. -/
def effectOf : Step → Effect
  | .getBaseRef => .getRef j.settings.baseRef
  | .createBranchRef => .createRef j.settings.fullBotRef site.tip
  | .createTree => .createTree site.tip j.settings.treeEntries
  | .getBaseCommit => .getCommit site.tip
  | .createCommit =>
    .createCommit (newCommit r j site).message (newCommit r j site).author (newCommit r j site).tree [site.tip]
  | .updateBranchRef => .updateRef j.settings.botRef (newCommit r j site).id true
  | .createPullRequest => .createPullRequest (newPullRequest j)
  | .postPullRequestLink | .postAcknowledgement => .postComment j.issue (linkText (openedPullRequest r j))

/-- The answer to a step that is completed. -/
def answerOf : Step → Response
  | .getBaseRef => .ref ⟨branchRef j.settings.baseBranch, site.tip⟩
  | .createBranchRef => .ref ⟨branchRef j.settings.botBranch, site.tip⟩
  | .createTree => .tree (newCommit r j site).tree
  | .getBaseCommit => .commit site.commit
  | .createCommit => .commit (newCommit r j site)
  | .updateBranchRef => .ref ⟨branchRef j.settings.botBranch, (newCommit r j site).id⟩
  | .createPullRequest => .pullRequest (openedPullRequest r j)
  | .postPullRequestLink | .postAcknowledgement => .commentPosted ⟨UInt64.ofNat (1000 + (r.comments.length + 1))⟩

/-- The repository with what the steps `completed` have left, when the steps `asked` have been asked. -/
def aftermath (completed asked : List Step) : Repository :=
  { r with
    refs :=
      if .createBranchRef ∈ completed then
        r.refs.insert (branchRef j.settings.botBranch)
          (if .updateBranchRef ∈ completed then (newCommit r j site).id else site.tip)
      else r.refs
    trees :=
      if .createTree ∈ completed then r.trees.insert (newCommit r j site).tree (laid site.files j.settings.files)
      else r.trees
    commits :=
      if .createCommit ∈ completed then r.commits.insert (newCommit r j site).id (newCommit r j site)
      else r.commits
    pullRequests :=
      if .createPullRequest ∈ completed then r.pullRequests ++ [newPullRequest j] else r.pullRequests
    comments :=
      if .postPullRequestLink ∈ completed then r.comments ++ [(j.issue, linkText (openedPullRequest r j))]
      else r.comments
    issued := r.issued + (if .createTree ∈ completed then 1 else 0) + (if .createCommit ∈ completed then 1 else 0)
    log := r.log ++ asked.map (effectOf r j site) }

/-- What is told of the steps of a run. -/
def script : Script where
  fault? step := (r.failures.get? step.kind).or (obstacle? r j step)
  effect := effectOf r j site
  answer := answerOf r j site
  state := aftermath r j site

end Script

/-! ## The script holds -/

section Holds

variable {r : Repository} {j : Job} {site : Site} {before rest : List Step} {step : Step}

theorem kind_effectOf (step : Step) : (effectOf r j site step).kind = step.kind := by
  cases step <;> rfl

theorem logged_aftermath (completed asked : List Step) (step : Step) :
    (aftermath r j site completed asked).logged (effectOf r j site step) =
      aftermath r j site completed (asked ++ [step]) := by
  unfold logged aftermath
  rw [List.map_append, ← List.append_assoc]
  rfl

/-- The script holds if the repository does what it says of the next step, unless that is made to fail, and of the
others. -/
theorem holds_cons
    (herror : ∀ e, obstacle? r j step = some e →
      (aftermath r j site before (before ++ [step])).change (effectOf r j site step) = .error e)
    (hok : obstacle? r j step = none →
      (aftermath r j site before (before ++ [step])).change (effectOf r j site step) =
        .ok (answerOf r j site step, aftermath r j site (before ++ [step]) (before ++ [step])) ∧
      (script r j site).Holds (before ++ [step]) rest) :
    (script r j site).Holds before (step :: rest) := by
  rw [← logged_aftermath] at herror hok
  have hfailures : (aftermath r j site before before).failures.get? (effectOf r j site step).kind =
      r.failures.get? step.kind := by
    rw [kind_effectOf]
    rfl
  constructor
  · intro e he
    refine Eq.trans ?_ (congrArg (Prod.mk _) (logged_aftermath before before step))
    rcases Option.or_eq_some_iff.1 he with he | ⟨hnone, he⟩
    · exact apply_of_failure (hfailures.trans he)
    · exact apply_of_error (hfailures.trans hnone) (herror e he)
  · intro hnone
    obtain ⟨hnone, hobstacle⟩ := Option.or_eq_none_iff.1 hnone
    obtain ⟨hchange, hrest⟩ := hok hobstacle
    exact ⟨apply_of_ok (hfailures.trans hnone) hchange, hrest⟩

theorem refs_baseRef (settings : Workflow.Settings) :
    "refs/" ++ settings.baseRef = branchRef settings.baseBranch := by
  rw [Settings.baseRef, branchRef, ← String.append_assoc]
  rfl

theorem holds_getBaseRef (h : r.refs.contains (branchRef j.settings.baseBranch) = true →
      site.At r j.settings.baseBranch ∧ (script r j site).Holds [.getBaseRef] rest) :
    (script r j site).Holds [] (.getBaseRef :: rest) := by
  by_cases hbase : r.refs.contains (branchRef j.settings.baseBranch) = true
  · obtain ⟨hsite, hrest⟩ := h hbase
    refine holds_cons (fun e he => ?_) fun _ => ⟨getRef_eq_ok.2 ⟨site.tip, ?_, ?_, rfl⟩, hrest⟩
    · rw [obstacle?, if_pos hbase] at he
      cases he
    · rw [refs_baseRef]
      exact hsite.tip
    · rw [refs_baseRef]
      rfl
  · refine holds_cons (fun e he => ?_) fun hnone => ?_
    · rw [obstacle?, if_neg hbase] at he
      obtain rfl := Option.some.inj he
      refine getRef_of_missing ?_
      rw [refs_baseRef]
      exact Table.contains_eq_false_iff.1 (Bool.not_eq_true _ ▸ hbase)
    · rw [obstacle?, if_neg hbase] at hnone
      cases hnone

theorem isPrefixOf_branchRef (branch : String) : "refs/".toList.isPrefixOf (branchRef branch).toList = true := by
  rw [branchRef, String.toList_append]
  rfl

section Site

variable (hsite : site.At r j.settings.baseBranch)

include hsite

theorem holds_createBranchRef (h : r.refs.contains (branchRef j.settings.botBranch) = false →
      (script r j site).Holds [.getBaseRef, .createBranchRef] rest) :
    (script r j site).Holds [.getBaseRef] (.createBranchRef :: rest) := by
  cases hbot : r.refs.contains (branchRef j.settings.botBranch) with
  | true =>
    refine holds_cons (fun e he => ?_) fun hnone => ?_
    · rw [obstacle?, if_pos hbot] at he
      obtain rfl := Option.some.inj he
      exact createRef_of_taken (isPrefixOf_branchRef _) hbot
    · rw [obstacle?, if_pos hbot] at hnone
      cases hnone
  | false =>
    refine holds_cons (fun e he => ?_) fun _ =>
      ⟨createRef_eq_ok.2 ⟨isPrefixOf_branchRef _, hbot, ?_, rfl, rfl⟩, h hbot⟩
    · rw [obstacle?, hbot] at he
      cases he
    · exact Table.contains_eq_true_iff.2 ⟨_, hsite.commit⟩

theorem holds_createTree (h : (script r j site).Holds [.getBaseRef, .createBranchRef, .createTree] rest) :
    (script r j site).Holds [.getBaseRef, .createBranchRef] (.createTree :: rest) := by
  refine holds_cons nofun fun _ =>
    ⟨createTree_eq_ok.2 ⟨site.files, laid site.files j.settings.files, ?_, overlay_entries _ _, rfl, rfl⟩, h⟩
  refine (baseFiles?_of_commit ?_).trans hsite.files
  exact hsite.commit

theorem holds_getBaseCommit
    (h : (script r j site).Holds [.getBaseRef, .createBranchRef, .createTree, .getBaseCommit] rest) :
    (script r j site).Holds [.getBaseRef, .createBranchRef, .createTree] (.getBaseCommit :: rest) :=
  holds_cons nofun fun _ => ⟨getCommit_eq_ok.2 ⟨site.commit, hsite.commit, rfl, rfl⟩, h⟩

theorem holds_createCommit
    (h : (script r j site).Holds
      [.getBaseRef, .createBranchRef, .createTree, .getBaseCommit, .createCommit] rest) :
    (script r j site).Holds [.getBaseRef, .createBranchRef, .createTree, .getBaseCommit]
      (.createCommit :: rest) := by
  refine holds_cons nofun fun _ => ⟨createCommit_eq_ok.2 ⟨?_, ?_, rfl, rfl⟩, h⟩
  · exact Table.contains_insert_iff.2 (.inl rfl)
  · rw [List.all_cons, List.all_nil, Bool.and_true]
    exact Table.contains_eq_true_iff.2 ⟨_, hsite.commit⟩

end Site

/-- To move the branch leaves nothing of where it was. -/
theorem setRef_aftermath (asked : List Step) :
    (aftermath r j site [.getBaseRef, .createBranchRef, .createTree, .getBaseCommit, .createCommit] asked).setRef
      j.settings.fullBotRef (newCommit r j site).id = aftermath r j site branchSteps asked :=
  congrArg (fun refs => { aftermath r j site branchSteps asked with refs }) (Table.insert_insert ..)

theorem holds_updateBranchRef (h : (script r j site).Holds branchSteps rest) :
    (script r j site).Holds [.getBaseRef, .createBranchRef, .createTree, .getBaseCommit, .createCommit]
      (.updateBranchRef :: rest) := by
  refine holds_cons nofun fun _ => ⟨updateRef_eq_ok.2 ⟨site.tip, ?_, ?_, rfl, ?_, ?_⟩, h⟩
  · rw [← fullBotRef_eq]
    exact Table.get?_insert_self ..
  · exact Table.contains_insert_iff.2 (.inl rfl)
  · rw [← fullBotRef_eq]
    rfl
  · rw [← fullBotRef_eq]
    exact (setRef_aftermath _).symm

/-- The script holds of the steps that create a branch and of more steps, if it holds of these once the branch is
there. -/
theorem holds_branchSteps
    (hsite : r.refs.contains (branchRef j.settings.baseBranch) = true → site.At r j.settings.baseBranch)
    (hrest : r.refs.contains (branchRef j.settings.baseBranch) = true →
      (script r j site).Holds branchSteps rest) :
    (script r j site).Holds [] (branchSteps ++ rest) := by
  refine holds_getBaseRef fun hbase => ⟨hsite hbase, ?_⟩
  refine holds_createBranchRef (hsite hbase) fun _ => ?_
  refine holds_createTree (hsite hbase) ?_
  refine holds_getBaseCommit (hsite hbase) ?_
  refine holds_createCommit (hsite hbase) ?_
  exact holds_updateBranchRef (hrest hbase)

/-- A pull request from a branch that is there already goes by the branches that are there. -/
theorem holds_createPullRequest (hw : j.workflow = openPullRequest) :
    (script r j site).Holds [] [.createPullRequest] := by
  have hobstacle : obstacle? r j .createPullRequest =
      missingBranch? r [(newPullRequest j).head, (newPullRequest j).base] := by
    rw [obstacle?, if_pos hw, newPullRequest_of_open j hw]
  refine holds_cons (fun e he => ?_) fun hnone => ⟨createPullRequest_eq_ok.2 ⟨?_, ?_, rfl, rfl⟩, trivial⟩
  · rw [hobstacle] at he
    obtain ⟨branch, hbranch, rfl⟩ := Option.map_eq_some_iff.1 he
    exact createPullRequest_of_missing hbranch
  · exact (missingBranch?_eq_none_iff r).1 (hobstacle ▸ hnone) _ List.mem_cons_self
  · exact (missingBranch?_eq_none_iff r).1 (hobstacle ▸ hnone) _ (List.mem_cons_of_mem _ List.mem_cons_self)

/-- A pull request from the branch that was created finds its branches. -/
theorem holds_createPullRequest_of_branch (hw : j.workflow = createBranchAndOpenPullRequest)
    (hbase : r.refs.contains (branchRef j.settings.baseBranch) = true)
    (h : (script r j site).Holds (branchSteps ++ [.createPullRequest]) rest) :
    (script r j site).Holds branchSteps (.createPullRequest :: rest) := by
  refine holds_cons (fun e he => ?_) fun _ => ⟨createPullRequest_eq_ok.2 ⟨?_, ?_, rfl, rfl⟩, h⟩
  · rw [obstacle?, hw] at he
    cases he
  · rw [newPullRequest_of_branch j hw]
    exact Table.contains_insert_iff.2 (.inl rfl)
  · exact Table.contains_insert_iff.2 (.inr hbase)

theorem holds_postPullRequestLink :
    (script r j site).Holds (branchSteps ++ [.createPullRequest]) [.postPullRequestLink] :=
  holds_cons nofun fun _ => ⟨postComment_eq_ok.2 ⟨rfl, rfl⟩, trivial⟩

theorem script_holds
    (hsite : r.refs.contains (branchRef j.settings.baseBranch) = true → site.At r j.settings.baseBranch) :
    (script r j site).Holds [] j.workflow.steps := by
  cases hw : j.workflow with
  | createBranch => exact holds_branchSteps hsite fun _ => trivial
  | openPullRequest => exact holds_createPullRequest hw
  | createBranchAndOpenPullRequest =>
    refine holds_branchSteps hsite fun hbase => ?_
    exact holds_createPullRequest_of_branch hw hbase holds_postPullRequestLink

end Holds

/-! ## Runs -/

section Runs

variable {r : Repository} {j : Job} {site : Site}

theorem branchPlan_plays {α : Type} {f : ObjectId → Plan α} {rest : List Step}
    (hf : (f (newCommit r j site).id).Plays (script r j site) rest) :
    ((branchPlan j.settings j.now).bind f).Plays (script r j site) (branchSteps ++ rest) := by
  refine ⟨⟨branchRef j.settings.baseBranch, site.tip⟩, _, rfl, rfl, rfl, ?_⟩
  refine ⟨⟨branchRef j.settings.botBranch, site.tip⟩, _, rfl, rfl, rfl, ?_⟩
  refine ⟨(newCommit r j site).tree, _, rfl, rfl, rfl, ?_⟩
  refine ⟨site.commit, _, rfl, rfl, rfl, ?_⟩
  refine ⟨newCommit r j site, _, rfl, rfl, rfl, ?_⟩
  exact ⟨⟨branchRef j.settings.botBranch, (newCommit r j site).id⟩, rest, rfl, rfl, rfl, hf⟩

theorem plan_plays : (plan j.settings j.now j.issue j.workflow).Plays (script r j site) j.workflow.steps := by
  cases hw : j.workflow with
  | createBranch => exact branchPlan_plays rfl
  | openPullRequest =>
    exact ⟨openedPullRequest r j, [], rfl, congrArg _ (newPullRequest_of_open j hw).symm, rfl, rfl⟩
  | createBranchAndOpenPullRequest =>
    refine branchPlan_plays
      ⟨openedPullRequest r j, _, rfl, congrArg _ (newPullRequest_of_branch j hw).symm, rfl, ?_⟩
    exact ⟨⟨UInt64.ofNat (1000 + (r.comments.length + 1))⟩, [], rfl, rfl, rfl, rfl⟩

theorem aftermath_nil : aftermath r j site [] [] = r := by
  unfold aftermath
  simp

/-- A run goes as its script says. -/
theorem program_run (hsite : r.refs.contains (branchRef j.settings.baseBranch) = true →
      site.At r j.settings.baseBranch) :
    let c := script r j site
    let passed := c.passed j.workflow.steps
    j.program.run apply r = (⟨j.workflow, passed.map c.completes, c.failure? j.workflow.steps⟩,
      aftermath r j site passed (j.workflow.steps.take (passed.length + 1))) := by
  have hrun := Script.carryOut_run plan_plays (script_holds hsite) []
  rw [show (script r j site).state [] [] = r from aftermath_nil] at hrun
  show ((Plan.carryOut [] _).bind _).run apply r = _
  rw [Interaction.run_bind, hrun]
  rfl

/-- Nothing stands in the way of a workflow: none of its effects is made to fail, and it finds the branches that it
needs and a free name for its own. -/
def Unhindered (r : Repository) (settings : Workflow.Settings) (w : Workflow) : Prop :=
  (∀ step ∈ w.steps, r.failures.get? step.kind = none) ∧
    match w with
    | openPullRequest =>
      r.refs.contains (branchRef settings.headBranch) = true ∧
        r.refs.contains (branchRef settings.baseBranch) = true
    | createBranch | createBranchAndOpenPullRequest =>
      r.refs.contains (branchRef settings.baseBranch) = true ∧
        r.refs.contains (branchRef settings.botBranch) = false

theorem obstacle?_getBaseRef :
    obstacle? r j .getBaseRef = none ↔ r.refs.contains (branchRef j.settings.baseBranch) = true := by
  rw [obstacle?]
  split <;> simp [*]

theorem obstacle?_createBranchRef :
    obstacle? r j .createBranchRef = none ↔ r.refs.contains (branchRef j.settings.botBranch) = false := by
  rw [obstacle?]
  split <;> simp [*]

theorem obstacles_of_branch (hw : j.workflow ≠ openPullRequest) :
    (∀ step ∈ j.workflow.steps, obstacle? r j step = none) ↔
      r.refs.contains (branchRef j.settings.baseBranch) = true ∧
        r.refs.contains (branchRef j.settings.botBranch) = false := by
  constructor
  · intro h
    have hsteps : .getBaseRef ∈ j.workflow.steps ∧ .createBranchRef ∈ j.workflow.steps := by
      cases hj : j.workflow with
      | createBranch => decide
      | openPullRequest => exact absurd hj hw
      | createBranchAndOpenPullRequest => decide
    exact ⟨obstacle?_getBaseRef.1 (h _ hsteps.1), obstacle?_createBranchRef.1 (h _ hsteps.2)⟩
  · rintro ⟨hbase, hbot⟩ step -
    cases step with
    | getBaseRef => exact obstacle?_getBaseRef.2 hbase
    | createBranchRef => exact obstacle?_createBranchRef.2 hbot
    | createPullRequest => rw [obstacle?, if_neg hw]
    | _ => rfl

theorem obstacles_of_pullRequest (hw : j.workflow = openPullRequest) :
    (∀ step ∈ j.workflow.steps, obstacle? r j step = none) ↔
      r.refs.contains (branchRef j.settings.headBranch) = true ∧
        r.refs.contains (branchRef j.settings.baseBranch) = true := by
  rw [hw]
  show (∀ step ∈ [Step.createPullRequest], obstacle? r j step = none) ↔ _
  rw [List.forall_mem_singleton, obstacle?, if_pos hw, missingBranch?_eq_none_iff, List.forall_mem_cons,
    List.forall_mem_singleton]

theorem failure?_eq_none_iff_unhindered :
    (script r j site).failure? j.workflow.steps = none ↔ Unhindered r j.settings j.workflow := by
  have hsplit : (script r j site).failure? j.workflow.steps = none ↔
      (∀ step ∈ j.workflow.steps, r.failures.get? step.kind = none) ∧
        ∀ step ∈ j.workflow.steps, obstacle? r j step = none := by
    rw [Script.failure?_eq_none_iff, ← forall₂_and]
    exact forall₂_congr fun step _ => Option.or_eq_none_iff
  rw [hsplit]
  unfold Unhindered
  refine and_congr_right fun _ => ?_
  by_cases hw : j.workflow = openPullRequest
  · rw [obstacles_of_pullRequest hw, hw]
  · rw [obstacles_of_branch hw]
    cases hj : j.workflow with
    | createBranch => rfl
    | openPullRequest => exact absurd hj hw
    | createBranchAndOpenPullRequest => rfl

end Runs

/-- **What a run comes to.** On a repository that comes about in any way, whatever is made to fail there, the
report of a run and the repository after it are told from the repository before it. The run succeeds exactly if
nothing stands in its way, else it stops at the first step that is made to fail or has an obstacle; and nothing
changes but what the completed steps leave. Files of the manifest go over those of the base branch, the later ones
over the earlier ones, and the tree and the commit are new. -/
theorem run_determined {r : Repository} (h : Reachable r) (j : Job) : ∃ site : Site,
    (r.refs.contains (branchRef j.settings.baseBranch) = true → site.At r j.settings.baseBranch) ∧
    let c := script r j site
    let report := (j.program.run apply r).1
    let passed := c.passed j.workflow.steps
    report = ⟨j.workflow, passed.map c.completes, c.failure? j.workflow.steps⟩ ∧
    (j.program.run apply r).2 = aftermath r j site passed (j.workflow.steps.take (passed.length + 1)) ∧
    (report.failure = none ↔ Unhindered r j.settings j.workflow) ∧
    (∀ path, (laid site.files j.settings.files).get? path =
      ((j.settings.files.reverse.find? fun f => f.path = path).map (·.text)).or (site.files.get? path)) ∧
    (r.issued + 2 ≤ 2 ^ 64 → ∀ id ∈ [(newCommit r j site).tree, (newCommit r j site).id],
      r.commits.get? id = none ∧ r.trees.get? id = none) := by
  obtain ⟨site, hsite⟩ := h.integrity.site j.settings.baseBranch
  have hrun := program_run hsite
  refine ⟨site, hsite, congrArg Prod.fst hrun, congrArg Prod.snd hrun, ?_, get?_laid _ _, fun hfits id hid => ?_⟩
  · rw [hrun]
    exact failure?_eq_none_iff_unhindered
  · rcases List.mem_pair.1 hid with rfl | rfl
    · exact h.integrity.fresh (Nat.le_refl _) (by omega)
    · exact h.integrity.fresh (Nat.le_succ _) (by omega)

/-- With the settings that nobody changed, on a repository with a branch `main`, nothing stands in the way. -/
theorem run_on_main : Reachable (.withBranch "main") ∧
    ((Job.mk {} .epoch ⟨1⟩ createBranchAndOpenPullRequest).program.run apply (.withBranch "main")).1.failure =
      none := by
  refine ⟨.withBranch "main", ?_⟩
  obtain ⟨site, -, -, -, hsucceeds, -⟩ :=
    run_determined (.withBranch "main") (Job.mk {} .epoch ⟨1⟩ createBranchAndOpenPullRequest)
  exact hsucceeds.2 ⟨by decide, by decide, by decide⟩

end CommentBot.Repository
