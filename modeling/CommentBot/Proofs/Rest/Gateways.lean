import CommentBot.Proofs.Repository.History
import CommentBot.Proofs.Rest.Sending
import CommentBot.Proofs.Workflow.Suited

/-!
# Both gateways answer as they are asked

A run takes an answer of another shape than its own for a failure. Neither gateway ever gives one: neither a repository
in memory (`Repository.suited`) nor a client, whatever arrives over its wire (`Client.suited`).

1. `FailsAs`: how computations fail. A repository fails as it was made to or with a status; a client that finds an
   answer useless complains about a member of it (`complaints`). A report of an answer of another shape reads otherwise.
2. `ids_of_response`: a client takes ids from the body of an answer, in small letters.
3. `answers_suit` puts this together for runs.
-/

namespace CommentBot

open Forge Git Workflow

/-- If the computation fails, then with such an error. -/
def FailsAs {α : Type} (P : ApiError → Prop) (x : Except ApiError α) : Prop := ∀ e, x = .error e → P e

namespace FailsAs

variable {α β : Type} {P : ApiError → Prop}

theorem ok (a : α) : FailsAs P (.ok a) := fun _ h => nomatch h

theorem error {e : ApiError} (h : P e) : FailsAs P (.error e : Except ApiError α) := fun _ he => Except.error.inj he ▸ h

theorem bind {x : Except ApiError α} {f : α → Except ApiError β} (hx : FailsAs P x) (hf : ∀ a, FailsAs P (f a)) :
    FailsAs P (x >>= f) := by
  cases x with
  | ok a => exact hf a
  | error e => exact error (hx e rfl)

theorem mapM {f : α → Except ApiError β} (hf : ∀ a, FailsAs P (f a)) (l : List α) : FailsAs P (l.mapM f) := by
  induction l with
  | nil => exact ok []
  | cons a l ih =>
    rw [List.mapM_cons]
    exact (hf a).bind fun b => ih.bind fun bs => ok (b :: bs)

end FailsAs

/-! ## The repository -/

namespace Repository

variable {r : Repository} {effect : Effect}

/-- The error has a status. -/
def HasStatus (e : ApiError) : Prop := e.status.isSome = true

theorem refuse_failsAs {α : Type} (message : String) : FailsAs HasStatus (refuse message : Except ApiError α) :=
  .error rfl

theorem notFound_failsAs {α : Type} : FailsAs HasStatus (notFound : Except ApiError α) := .error rfl

theorem found_failsAs {α : Type} (value : Option α) {otherwise : Except ApiError α} (h : FailsAs HasStatus otherwise) :
    FailsAs HasStatus (found value otherwise) := by
  cases value with
  | none => exact h
  | some a => exact .ok a

theorem require_failsAs (condition : Bool) (message : String) : FailsAs HasStatus (require condition message) := by
  cases condition with
  | false => exact refuse_failsAs message
  | true => exact .ok ()

theorem overlay_failsAs (files : Files) (entries : List TreeEntry) : FailsAs HasStatus (overlay files entries) := by
  induction entries generalizing files with
  | nil => exact .ok files
  | cons entry entries ih =>
    rw [overlay]
    split
    · exact ih _
    · exact refuse_failsAs _

/-- An effect is refused with a status. -/
theorem change_failsAs (r : Repository) (effect : Effect) : FailsAs HasStatus (r.change effect) := by
  cases effect with
  | getRef name => exact (found_failsAs _ notFound_failsAs).bind fun _ => .ok _
  | createRef name target =>
    exact (require_failsAs _ _).bind fun _ => (require_failsAs _ _).bind fun _ =>
      (require_failsAs _ _).bind fun _ => .ok _
  | updateRef name target force =>
    exact (found_failsAs _ (refuse_failsAs _)).bind fun _ => (require_failsAs _ _).bind fun _ =>
      (require_failsAs _ _).bind fun _ => .ok _
  | createTree base entries =>
    exact (found_failsAs _ (refuse_failsAs _)).bind fun files => (overlay_failsAs files entries).bind fun _ => .ok _
  | getCommit id => exact (found_failsAs _ notFound_failsAs).bind fun _ => .ok _
  | createCommit message author tree parents =>
    exact (require_failsAs _ _).bind fun _ => (require_failsAs _ _).bind fun _ => .ok _
  | createPullRequest request =>
    exact (require_failsAs _ _).bind fun _ => (require_failsAs _ _).bind fun _ => .ok _
  | postComment issue body => exact .ok _

/-- An effect fails as it was made to, or is refused with a status. -/
theorem apply_failsAs (effect : Effect) (r : Repository) :
    FailsAs (fun e => r.failures.get? effect.kind = some e ∨ HasStatus e) (apply effect r).1 := by
  intro e he
  cases hf : r.failures.get? effect.kind with
  | some e' =>
    rw [apply_of_failure hf] at he
    exact .inl (congrArg some (Except.error.inj he))
  | none =>
    cases hc : (r.logged effect).change effect with
    | ok result =>
      rw [apply_of_ok hf hc] at he
      cases he
    | error e' =>
      rw [apply_of_error hf hc] at he
      exact .inr (Except.error.inj he ▸ change_failsAs _ _ e' hc)

theorem suited : Suited apply := by
  intro effect r response h
  rcases apply_cases effect r with ⟨e, he⟩ | ⟨answer, r', -, hc, hok⟩
  · rw [he] at h
    cases h
  · rw [hok] at h
    obtain rfl := Except.ok.inj h
    cases effect with
    | getRef name =>
      obtain ⟨target, -, rfl, -⟩ := getRef_eq_ok.1 hc
      exact .getRef
    | createRef name target =>
      obtain ⟨-, -, -, rfl, -⟩ := createRef_eq_ok.1 hc
      exact .createRef
    | updateRef name target force =>
      obtain ⟨current, -, -, -, rfl, -⟩ := updateRef_eq_ok.1 hc
      exact .updateRef
    | createTree base entries =>
      obtain ⟨files, laid, -, -, rfl, -⟩ := createTree_eq_ok.1 hc
      exact .createTree
    | getCommit id =>
      obtain ⟨commit, -, rfl, -⟩ := getCommit_eq_ok.1 hc
      exact .getCommit
    | createCommit message author tree parents =>
      obtain ⟨-, -, rfl, -⟩ := createCommit_eq_ok.1 hc
      exact .createCommit
    | createPullRequest request =>
      obtain ⟨-, -, rfl, -⟩ := createPullRequest_eq_ok.1 hc
      exact .createPullRequest
    | postComment issue body =>
      obtain ⟨rfl, -⟩ := postComment_eq_ok.1 hc
      exact .postComment

end Repository

/-! ## The client -/

namespace Rest

/-- How the body of an answer spells the ids that are taken from it. -/
def spelledIds : (e : Effect) → (reading e).α → List String
  | .getRef _ => fun (b : RefBody) => [b.target]
  | .createRef .. => fun (b : RefBody) => [b.target]
  | .updateRef .. => fun (b : RefBody) => [b.target]
  | .createTree .. => fun (text : String) => [text]
  | .getCommit _ => fun (b : CommitBody) => b.id :: b.tree :: b.parents
  | .createCommit .. => fun (b : CommitBody) => b.id :: b.tree :: b.parents
  | .createPullRequest _ => fun _ => []
  | .postComment .. => fun _ => []

theorem texts_of_objectIds {member : String} {texts : List String} {ids : List ObjectId}
    (h : texts.mapM (objectId member) = .ok ids) : ids.map (·.text) = texts.map String.toLower := by
  rw [mapM_eq_ok_iff] at h
  induction h with
  | nil => rfl
  | cons hid _ ih => rw [List.map_cons, List.map_cons, text_of_objectId hid, ih]

/-- The ids in a response are those in the body, in small letters. -/
theorem ids_of_response {e : Effect} {a : (reading e).α} {response : Response}
    (h : (reading e).response a = .ok response) : response.ids.map (·.text) = (spelledIds e a).map String.toLower := by
  have href : ∀ b : RefBody, b.response = .ok response → response.ids.map (·.text) = [b.target.toLower] := by
    intro b hb
    obtain ⟨id, hid, hresponse⟩ := bind_eq_ok.1 hb
    rw [pure_eq_ok.1 hresponse, Response.ids, List.map_singleton, text_of_objectId hid]
  have hcommit : ∀ b : CommitBody, b.response = .ok response →
      response.ids.map (·.text) = (b.id :: b.tree :: b.parents).map String.toLower := by
    intro b hb
    obtain ⟨parents, hparents, hb⟩ := bind_eq_ok.1 hb
    obtain ⟨id, hid, hb⟩ := bind_eq_ok.1 hb
    obtain ⟨tree, htree, hresponse⟩ := bind_eq_ok.1 hb
    rw [pure_eq_ok.1 hresponse, Response.ids, List.map_cons, List.map_cons, List.map_cons, List.map_cons,
      text_of_objectId hid, text_of_objectId htree, texts_of_objectIds hparents]
  cases e with
  | getRef name => exact href a h
  | createRef name target => exact href a h
  | updateRef name target force => exact href a h
  | createTree base entries =>
    obtain ⟨id, hid, hresponse⟩ := bind_eq_ok.1 h
    rw [pure_eq_ok.1 hresponse, Response.ids, List.map_singleton, text_of_objectId hid]
    rfl
  | getCommit id => exact hcommit a h
  | createCommit message author tree parents => exact hcommit a h
  | createPullRequest request =>
    obtain ⟨number, title, url⟩ := a
    cases url with
    | none => cases h
    | some url =>
      rw [← Except.ok.inj h]
      rfl
  | postComment issue body =>
    rw [← Except.ok.inj h]
    rfl

/-- What the messages about useless answers begin with: the member, or the pull request. -/
def complaints : List String := ["object.sha", "sha", "parents[].sha", "tree.sha", "pull request #"]

/-- The error is a complaint about a useless answer. -/
def IsComplaint (e : ApiError) : Prop := ∃ start ∈ complaints, ∃ rest, e = .invalidResponse (start ++ rest)

theorem objectId_failsAs {member : String} (h : member ∈ complaints) (text : String) :
    FailsAs IsComplaint (objectId member text) := by
  unfold objectId
  cases ObjectId.parse text with
  | ok id => exact .ok id
  | error e =>
    refine .error ⟨member, h, " in response: " ++ e.message, ?_⟩
    rw [← String.append_assoc]
    rfl

theorem response_failsAs (e : Effect) (a : (reading e).α) : FailsAs IsComplaint ((reading e).response a) := by
  have href : ∀ b : RefBody, FailsAs IsComplaint b.response := fun b =>
    (objectId_failsAs (by decide) b.target).bind fun _ => .ok _
  have hcommit : ∀ b : CommitBody, FailsAs IsComplaint b.response := fun b =>
    (FailsAs.mapM (objectId_failsAs (by decide)) b.parents).bind fun _ =>
      (objectId_failsAs (by decide) b.id).bind fun _ => (objectId_failsAs (by decide) b.tree).bind fun _ => .ok _
  cases e with
  | getRef name => exact href a
  | createRef name target => exact href a
  | updateRef name target force => exact href a
  | createTree base entries => exact (objectId_failsAs (by decide) a).bind fun _ => .ok _
  | getCommit id => exact hcommit a
  | createCommit message author tree parents => exact hcommit a
  | createPullRequest request =>
    obtain ⟨number, title, url⟩ := a
    cases url with
    | some url => exact .ok _
    | none =>
      refine .error ⟨"pull request #", by decide, toString number.toNat ++ " has no html_url", ?_⟩
      rw [← String.append_assoc]
      rfl
  | postComment issue body => exact .ok _

/-- A complaint is no report of an answer of another shape, which begins with the name of a step. -/
theorem IsComplaint.ne_unexpected {e : ApiError} (h : IsComplaint e) (step : Step) (response : Response) :
    Failure.ofError step e ≠ .ofUnexpected step response := by
  obtain ⟨start, hstart, rest, rfl⟩ := h
  intro heq
  obtain ⟨more, hmore⟩ : ∃ more, (Failure.ofUnexpected step response).message = step.name ++ more := by
    refine ⟨" got an unexpected " ++ response.name ++ " response", ?_⟩
    rw [← String.append_assoc, ← String.append_assoc]
    rfl
  have hmessage : start ++ rest = step.name ++ more := (congrArg Failure.message heq).trans hmore
  have hlong : ∀ start ∈ complaints, 2 ≤ start.toList.length := by decide
  have hstep : 2 ≤ step.name.toList.length := by cases step <;> decide
  have hother : ∀ start ∈ complaints, start.toList.take 2 ≠ step.name.toList.take 2 := by cases step <;> decide
  refine hother start hstart ?_
  have htwo := congrArg (fun text => text.toList.take 2) hmessage
  simp only [String.toList_append] at htwo
  rwa [List.take_append_of_le_length (hlong start hstart), List.take_append_of_le_length hstep] at htwo

theorem kind_exchange_ne (status : Option UInt16) (message : String) :
    (ApiError.exchange status message).kind ≠ .invalidResponse := by
  cases status with
  | none => exact categorize_none_ne message
  | some code => exact (categorize_some_ne code message).2

namespace Client

variable {σ : Type} (c : Client) (transport : Transport σ)

theorem gateway_eq_ok_iff {effect : Effect} {s : σ} {response : Response} :
    (c.gateway transport effect s).1 = .ok response ↔
      ∃ request, c.request? effect = some request ∧ readReply effect (transport request s).1 = .ok response := by
  unfold gateway
  cases c.request? effect with
  | none => exact iff_of_false nofun nofun
  | some request => simp

theorem suited : Suited (c.gateway transport) := by
  intro effect s response h
  obtain ⟨request, -, hreply⟩ := (c.gateway_eq_ok_iff transport).1 h
  obtain ⟨status, body, -, -, a, -, hresponse⟩ := readReply_eq_ok_iff.1 hreply
  exact suits_iff.2 (of_response hresponse).1

/-- An error of a client has another kind than a useless answer, or it is a complaint about one. -/
theorem gateway_failsAs (effect : Effect) (s : σ) :
    FailsAs (fun e => e.kind ≠ .invalidResponse ∨ IsComplaint e) (c.gateway transport effect s).1 := by
  intro e he
  unfold gateway at he
  cases hrequest : c.request? effect with
  | none =>
    rw [hrequest] at he
    obtain rfl := Except.error.inj he
    exact .inl (kind_exchange_ne _ _)
  | some request =>
    rw [hrequest] at he
    cases hreply : (transport request s).1 with
    | lost reason =>
      simp only [hreply] at he
      obtain rfl := Except.error.inj he
      exact .inl (kind_exchange_ne _ _)
    | arrived status body =>
      simp only [hreply] at he
      rcases readReply_cases effect status body with ⟨text, htext⟩ | ⟨-, a, -, hresponse⟩ | ⟨message, hmessage⟩
      · obtain rfl := Except.error.inj (he.symm.trans (readReply_of_unreadable htext))
        exact .inl (kind_exchange_ne _ _)
      · exact .inr (response_failsAs effect a e (hresponse.symm.trans he))
      · obtain rfl := Except.error.inj (he.symm.trans hmessage)
        exact .inl (kind_exchange_ne _ _)

end Client

end Rest

/-! ## Runs -/

namespace Workflow

variable (settings : Settings) (now : Time.Instant) (issue : IssueNumber) (w : Workflow)

/-- Over a client no failure reads like a report of an answer of another shape. -/
theorem client_failure_ne_unexpected {σ : Type} (c : Rest.Client) (transport : Rest.Transport σ) (s : σ) (step : Step)
    (response : Response) :
    ((w.run settings now issue).run (c.gateway transport) s).1.failure ≠ some (.ofUnexpected step response) := by
  intro hf
  obtain ⟨before, x, e, hcalls, hanswer, he⟩ := failure_of_suited (c.suited transport) hf
  have hx : x ∈ (w.run settings now issue).exchanges (c.gateway transport) s := hcalls ▸ List.mem_concat_self
  obtain ⟨s', -, hs'⟩ := Interaction.answered_in_state (fun _ => True) (fun _ _ _ => trivial) _ trivial hx
  rcases c.gateway_failsAs transport x.effect s' e (hs'.symm.trans hanswer) with hkind | hcomplaint
  · exact hkind (congrArg Failure.kind he).symm
  · exact hcomplaint.ne_unexpected step response he.symm

/-- Over a repository a failure reads like a report of an answer of another shape only if it was made to. -/
theorem repository_failure_of_unexpected {r : Repository} {step : Step} {response : Response}
    (hf : ((w.run settings now issue).run Repository.apply r).1.failure = some (.ofUnexpected step response)) :
    ∃ kind e, r.failures.get? kind = some e ∧ Failure.ofError step e = .ofUnexpected step response := by
  obtain ⟨before, x, e, hcalls, hanswer, he⟩ := failure_of_suited Repository.suited hf
  have hx : x ∈ (w.run settings now issue).exchanges Repository.apply r := hcalls ▸ List.mem_concat_self
  obtain ⟨r', hfailures, hr'⟩ := Interaction.answered_in_state (fun r' => r'.failures = r.failures)
    (fun effect r' h => (Repository.threadsStep_apply effect r').2.trans h) _ rfl hx
  rcases Repository.apply_failsAs x.effect r' e (hr'.symm.trans hanswer) with hmade | hstatus
  · exact ⟨x.effect.kind, e, hfailures ▸ hmade, he.symm⟩
  · have hnone : none = e.status := congrArg Failure.status he
    rw [Repository.HasStatus, ← hnone] at hstatus
    cases hstatus

/-- **Answers suit.** A repository in memory, in any state, and a client, over any wire, succeed only with what an
effect asks for. All ids are forty digits in small letters; a client takes them from the body of the answer. So no run
over either takes an answer for one of another shape: its failure is an error that it was answered with, and reads
otherwise unless the repository was made to fail so. All ids in a report, in an effect and in a route come from answers
that the same run got before. -/
theorem answers_suit :
    (∀ (r : Repository) effect response, (Repository.apply effect r).1 = .ok response →
      Suits effect response ∧ ∀ id ∈ response.ids, IsIdText id.text) ∧
    (∀ {σ : Type} (c : Rest.Client) (transport : Rest.Transport σ) effect s response,
      (c.gateway transport effect s).1 = .ok response →
        Suits effect response ∧ (∀ id ∈ response.ids, IsIdText id.text) ∧
        ∃ request status body a, c.request? effect = some request ∧
          (transport request s).1 = .arrived status body ∧ (Rest.reading effect).decode.readFirst body = .ok a ∧
          response.ids.map (·.text) = (Rest.spelledIds effect a).map String.toLower) ∧
    (∀ settings now issue (w : Workflow) (r : Repository),
      let report := ((w.run settings now issue).run Repository.apply r).1
      SuitedRun ((w.run settings now issue).exchanges Repository.apply r) report ∧
        ∀ step response, report.failure = some (.ofUnexpected step response) →
          ∃ kind e, r.failures.get? kind = some e ∧ Failure.ofError step e = .ofUnexpected step response) ∧
    (∀ settings now issue (w : Workflow) {σ : Type} (c : Rest.Client) (transport : Rest.Transport σ) s,
      let report := ((w.run settings now issue).run (c.gateway transport) s).1
      SuitedRun ((w.run settings now issue).exchanges (c.gateway transport) s) report ∧
        ∀ step response, report.failure ≠ some (.ofUnexpected step response)) ∧
    ∀ repo id, IsIdText id.text ∧
      (Rest.Request.ofEffect repo (.getCommit id)).route = Rest.repoRoute repo ("git/commits/" ++ id.text) := by
  refine ⟨fun r effect response h => ⟨Repository.suited effect r response h, fun id _ => id.isIdText⟩,
    fun c transport effect s response h => ⟨c.suited transport effect s response h, fun id _ => id.isIdText, ?_⟩,
    fun settings now issue w r => ⟨suitedRun_of_suited Repository.suited settings now issue w r, fun step response =>
      repository_failure_of_unexpected settings now issue w⟩,
    fun settings now issue w σ c transport s => ⟨suitedRun_of_suited (c.suited transport) settings now issue w s,
      client_failure_ne_unexpected settings now issue w c transport s⟩,
    fun repo id => ⟨id.isIdText, rfl⟩⟩
  obtain ⟨request, hrequest, hreply⟩ := (c.gateway_eq_ok_iff transport).1 h
  obtain ⟨status, body, harrived, -, a, hread, hresponse⟩ := Rest.readReply_eq_ok_iff.1 hreply
  exact ⟨request, status, body, a, hrequest, harrived, hread, Rest.ids_of_response hresponse⟩

end Workflow

end CommentBot
