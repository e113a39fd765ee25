import CommentBot.Proofs.Workflow.Provenance

/-!
# Runs whose answers suit

1. `Suits`: which responses suit which effects. A gateway is `Suited` if it never succeeds with another one.
2. `failure_of_suited`: over such a gateway a run fails only with an error of the gateway.
3. `Sourced.told`: the ids in an effect were given in answers before. `suitedRun_of_suited` puts this together.
-/

namespace CommentBot

namespace Git

/-- The text consists of forty hexadecimal digits in small letters. -/
def IsIdText (text : String) : Prop := text.toList.length = 40 ∧ ∀ c ∈ text.toList, c ∈ "0123456789abcdef".toList

theorem ObjectId.isIdText (id : ObjectId) : IsIdText id.text := by
  have hcanonical := id.canonical
  simp only [isCanonical, Bool.and_eq_true, decide_eq_true_eq, List.all_eq_true] at hcanonical
  refine ⟨hcanonical.1, fun c hc => ?_⟩
  have hdigit := hcanonical.2 c hc
  have hlt : c.toNat < 128 := toNat_lt_of_isHexDigit (by rw [isHexDigit, hdigit, Bool.true_or])
  revert hdigit
  exact Text.of_forall_ofNat hlt (by decide)

end Git

namespace Forge

open Git

/-! ## Answers that suit -/

/-- The response is what the effect asks for. -/
inductive Suits : Effect → Response → Prop
  | getRef {name r} : Suits (.getRef name) (.ref r)
  | createRef {name target r} : Suits (.createRef name target) (.ref r)
  | updateRef {name target force r} : Suits (.updateRef name target force) (.ref r)
  | createTree {base entries id} : Suits (.createTree base entries) (.tree id)
  | getCommit {id c} : Suits (.getCommit id) (.commit c)
  | createCommit {message author tree parents c} : Suits (.createCommit message author tree parents) (.commit c)
  | createPullRequest {request p} : Suits (.createPullRequest request) (.pullRequest p)
  | postComment {issue body id} : Suits (.postComment issue body) (.commentPosted id)

theorem suits_iff {effect : Effect} {response : Response} :
    Suits effect response ↔ response.shape = effect.kind.shape := by
  constructor
  · rintro ⟨⟩ <;> rfl
  · intro h
    cases effect <;> cases response <;> first | constructor | cases h

/-- The gateway succeeds only with responses that suit. -/
def Suited {σ : Type} (gateway : Gateway σ) : Prop :=
  ∀ effect s response, (gateway effect s).1 = .ok response → Suits effect response

/-- The ids in a response. -/
def Response.ids : Response → List ObjectId
  | ref r => [r.target]
  | tree id => [id]
  | commit c => c.id :: c.tree :: c.parents
  | pullRequest _ => []
  | commentPosted _ => []

/-- The id of a file that is stored already. -/
def contentId? : Content → Option ObjectId
  | .inline _ => none
  | .blob id => some id

/-- The ids in an effect. -/
def Effect.ids : Effect → List ObjectId
  | getRef _ => []
  | createRef _ target => [target]
  | updateRef _ target _ => [target]
  | createTree base entries => base :: entries.filterMap fun entry => contentId? entry.content
  | getCommit id => [id]
  | createCommit _ _ tree parents => tree :: parents
  | createPullRequest _ => []
  | postComment .. => []

namespace Interaction

variable {α σ : Type}

/-- The answers of a run are given in states that the run has led to. -/
theorem answered_in_state {gateway : Gateway σ} (Inv : σ → Prop) (hstep : ∀ effect s, Inv s → Inv (gateway effect s).2)
    (p : Interaction α) {s : σ} (hs : Inv s) {x : Exchange} (hx : x ∈ p.exchanges gateway s) :
    ∃ s', Inv s' ∧ x.answer = (gateway x.effect s').1 := by
  induction p generalizing s with
  | done a => cases hx
  | ask effect next ih =>
    rcases List.mem_cons.1 hx with rfl | hx
    · exact ⟨s, hs, rfl⟩
    · exact ih _ (hstep effect s hs) hx

end Interaction

theorem Suited.suits {α σ : Type} {gateway : Gateway σ} (h : Suited gateway) (p : Interaction α) {s : σ} {x : Exchange}
    (hx : x ∈ p.exchanges gateway s) {response : Response} (hresponse : x.answer = .ok response) :
    Suits x.effect response := by
  obtain ⟨s', -, hanswer⟩ := Interaction.answered_in_state (fun _ => True) (fun _ _ _ => trivial) p trivial hx
  exact h _ s' _ (hanswer.symm.trans hresponse)

end Forge

namespace Workflow

open Forge Git

/-! ## Runs -/

theorem Conforms.blamed {steps : List Step} {past : List Exchange} {completed : List Completed} {f : Failure}
    (h : Conforms steps past completed (some f)) : ∃ before x, past = before ++ [x] ∧ x.Blames f := by
  cases h with
  | stopped passed blames cut => exact ⟨_, _, rfl, blames⟩

section Runs

variable {σ : Type} {settings : Settings} {now : Time.Instant} {issue : IssueNumber} {w : Workflow}

/-- A run that fails got an error at last, and the failure is this error. -/
theorem failure_of_suited {gateway : Gateway σ} (h : Suited gateway) {s : σ} {f : Failure}
    (hf : ((w.run settings now issue).run gateway s).1.failure = some f) :
    ∃ before x e, (w.run settings now issue).exchanges gateway s = before ++ [x] ∧ x.answer = .error e ∧
      f = .ofError f.step e := by
  have hstart := Interaction.Underway.start (run_meets settings now issue w (Plan.keeps_true _ _))
  have hconforms := (hstart.run gateway s).meets.2
  rw [List.nil_append, hf] at hconforms
  obtain ⟨before, x, hcalls, hblames⟩ := hconforms.blamed
  refine ⟨before, x, ?_⟩
  rcases hblames.reason with ⟨e, he, hfe⟩ | ⟨response, hresponse, hshape, -⟩
  · exact ⟨e, hcalls, he, hfe⟩
  · have hx : x ∈ (w.run settings now issue).exchanges gateway s := hcalls ▸ List.mem_concat_self
    exact absurd (suits_iff.1 (h.suits _ hx hresponse)) hshape

/-- The id was given in an answer. -/
def Told (past : List Exchange) (id : ObjectId) : Prop :=
  ∃ x ∈ past, ∃ response, x.answer = .ok response ∧ id ∈ response.ids

theorem ReadBase.told {past : List Exchange} {id : ObjectId} (h : ReadBase settings past id) : Told past id := by
  obtain ⟨base, hbase, rfl⟩ := h
  exact ⟨_, hbase, _, rfl, List.mem_singleton.2 rfl⟩

/-- The ids in an effect were given in the answers from which its arguments come. -/
theorem Sourced.told {past : List Exchange} {effect : Effect} (h : Sourced settings now issue w past effect) :
    ∀ id ∈ effect.ids, Told past id := by
  intro id hid
  cases effect with
  | getRef name => cases hid
  | createRef name target =>
    obtain rfl := List.mem_singleton.1 hid
    exact h.2.told
  | updateRef name target force =>
    obtain rfl := List.mem_singleton.1 hid
    obtain ⟨-, -, ⟨message, author, tree, parents, created, hcreated, rfl⟩, -⟩ := h
    exact ⟨_, hcreated, _, rfl, List.mem_cons_self⟩
  | createTree base entries =>
    obtain ⟨hbase, rfl⟩ := h
    rcases List.mem_cons.1 hid with rfl | hid
    · exact hbase.told
    · -- the files of the bot are sent as texts
      obtain ⟨entry, hentry, hcontent⟩ := List.mem_filterMap.1 hid
      obtain ⟨file, -, rfl⟩ := List.mem_map.1 hentry
      cases hcontent
  | getCommit id' =>
    obtain rfl := List.mem_singleton.1 hid
    exact ReadBase.told h
  | createCommit message author tree parents =>
    obtain ⟨-, -, ⟨base, entries, htree⟩, parentId, parent, hparent, rfl⟩ := h
    rcases List.mem_cons.1 hid with rfl | hid
    · exact ⟨_, htree, _, rfl, List.mem_singleton.2 rfl⟩
    · obtain rfl := List.mem_singleton.1 hid
      exact ⟨_, hparent, _, rfl, List.mem_cons_self⟩
  | createPullRequest request => cases hid
  | postComment thread body => cases hid

/-- What a run comes to if all answers suit: they are what was asked for, a failure is the last answer, and all ids in
the report and in the effects are written as they should be and were given in answers. -/
structure SuitedRun (calls : List Exchange) (report : Report) : Prop where
  answers : ∀ x ∈ calls, ∀ response, x.answer = .ok response →
    Suits x.effect response ∧ ∀ id ∈ response.ids, IsIdText id.text
  failure : ∀ f, report.failure = some f →
    ∃ before x e, calls = before ++ [x] ∧ x.answer = .error e ∧ f = .ofError f.step e
  outputs : ∀ c ∈ report.completed, ∀ id ∈ c.output.ids, IsIdText id.text ∧ Told calls id
  effects : ∀ before x after, calls = before ++ x :: after → ∀ id ∈ x.effect.ids, IsIdText id.text ∧ Told before id

theorem suitedRun_of_suited {gateway : Gateway σ} (h : Suited gateway) (settings : Settings) (now : Time.Instant)
    (issue : IssueNumber) (w : Workflow) (s : σ) :
    SuitedRun ((w.run settings now issue).exchanges gateway s) ((w.run settings now issue).run gateway s).1 := by
  have hstart := Interaction.Underway.start (run_meets settings now issue w (plan_sourced settings now issue w))
  have hrun := hstart.run gateway s
  rw [List.nil_append] at hrun
  refine ⟨fun x hx response hresponse => ⟨h.suits _ hx hresponse, fun id _ => id.isIdText⟩,
    fun f hf => failure_of_suited h hf, fun c hc id hid => ⟨id.isIdText, ?_⟩,
    fun before x after hcalls id hid => ⟨id.isIdText, (hrun.asked hcalls).2.told id hid⟩⟩
  have hmem := List.mem_map_of_mem (f := fun c : Completed => (.ok c.output : Answer)) hc
  rw [← answers_of_passed hrun.meets.2.take_passed] at hmem
  obtain ⟨x, hx, hanswer⟩ := List.mem_map.1 hmem
  exact ⟨x, List.mem_of_mem_take hx, c.output, hanswer, hid⟩

end Runs

end Workflow

end CommentBot
