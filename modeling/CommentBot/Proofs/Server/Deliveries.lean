import CommentBot.Proofs.Comment.Handling
import CommentBot.Proofs.Server.Assessment
import CommentBot.Server.Clients
import CommentBot.Server.Router

/-!
# How deliveries are answered

1. A delivery that is heeded is `Unserved` or `Served`, as the source of clients has it; `respond_of_broken` and
   its neighbours give the reply to a delivery and the state it leaves in each of the four cases.
2. `status_eq_400_iff` and its neighbours: the reply tells which case it was.
3. A traced source of clients also keeps every call that is made to it or to a gateway of it. Tracing changes
   nothing else (`respond_traced`).
4. `deliveries_answered` says which reply a delivery gets, and what it makes the server call.
-/

namespace CommentBot.Server

open Comment Forge

variable {σ : Type} {settings : Settings} {r : Request} {event : Event}

/-! ## The four cases -/

/-- An event that the bot heeds was delivered, and there is no client for its repository. -/
def Unserved (settings : Settings) (clients : Clients σ) (r : Request) (s : σ) (event : Event) : Prop :=
  Heeded settings r event ∧ ∃ e s', clients event.installation event.repo s = (.error e, s')

/-- An event that the bot heeds was delivered, and there is a client for its repository. -/
def Served (settings : Settings) (clients : Clients σ) (r : Request) (s : σ) (event : Event) (gateway : Gateway σ)
    (s' : σ) : Prop :=
  Heeded settings r event ∧ clients event.installation event.repo s = (.ok gateway, s')

theorem exhaustive (settings : Settings) (clients : Clients σ) (r : Request) (s : σ) :
    Broken r ∨ Dropped settings r ∨ (∃ event, Unserved settings clients r s event) ∨
      ∃ event gateway s', Served settings clients r s event gateway s' := by
  rcases broken_or_dropped_or_heeded settings r with h | h | ⟨event, h⟩
  · exact .inl h
  · exact .inr (.inl h)
  · refine .inr (.inr ?_)
    cases hclient : clients event.installation event.repo s with
    | mk client s' =>
      cases client with
      | error e => exact .inl ⟨event, h, e, s', hclient⟩
      | ok gateway => exact .inr ⟨event, gateway, s', h, hclient⟩

theorem handleEvent_of_no_client {clients : Clients σ} {s s' : σ} {e : ApiError}
    (h : clients event.installation event.repo s = (.error e, s')) (now : Time.Instant) :
    handleEvent settings clients now event s = ((Refusal.noClient e).reply, s') := by
  rw [handleEvent, h]

theorem handleEvent_of_client {clients : Clients σ} {s s' : σ} {gateway : Gateway σ}
    (h : clients event.installation event.repo s = (.ok gateway, s')) (now : Time.Instant) :
    handleEvent settings clients now event s =
      (outcomeReply ((event.handle settings now).run gateway s').1,
        ((event.handle settings now).run gateway s').2) := by
  rw [handleEvent, h]

section Cases

variable (hmethod : r.method = "POST") (hpath : r.path = "/webhook") (hbody : r.body.length ≤ bodyLimit)

include hmethod hpath

theorem respond_eq_takeDelivery (clients : Clients σ) (now : Time.Instant) (s : σ) :
    respond settings clients now r s = takeDelivery settings clients now r s := by
  unfold respond
  rw [if_pos hpath, if_pos hmethod]

include hbody

theorem respond_of_broken (settings : Settings) (h : Broken r) : ∃ reply, reply.status = 400 ∧
    ∀ {σ : Type} (clients : Clients σ) now s, respond settings clients now r s = (reply, s) := by
  obtain ⟨refusal, hassess, hstatus⟩ := assess_of_broken hbody settings h
  refine ⟨refusal.reply, hstatus, fun clients now s => ?_⟩
  rw [respond_eq_takeDelivery hmethod hpath, takeDelivery, hassess]

theorem respond_of_dropped (h : Dropped settings r) (clients : Clients σ) (now : Time.Instant) (s : σ) :
    respond settings clients now r s = (ignoredReply, s) := by
  rw [respond_eq_takeDelivery hmethod hpath, takeDelivery, assess_of_dropped hbody h]

theorem respond_of_heeded (h : Heeded settings r event) (clients : Clients σ) (now : Time.Instant) (s : σ) :
    respond settings clients now r s = handleEvent settings clients now event s := by
  rw [respond_eq_takeDelivery hmethod hpath, takeDelivery, assess_of_heeded hbody h]

variable {clients : Clients σ} (now : Time.Instant) {s : σ}

theorem respond_of_unserved (h : Unserved settings clients r s event) :
    ∃ e s', respond settings clients now r s = ((Refusal.noClient e).reply, s') := by
  obtain ⟨hheeded, e, s', hclient⟩ := h
  refine ⟨e, s', ?_⟩
  rw [respond_of_heeded hmethod hpath hbody hheeded, handleEvent_of_no_client hclient]

theorem respond_of_served {gateway : Gateway σ} {s' : σ} (h : Served settings clients r s event gateway s') :
    respond settings clients now r s = (processedReply, ((event.handle settings now).run gateway s').2) := by
  rw [respond_of_heeded hmethod hpath hbody h.1, handleEvent_of_client h.2, Event.handle_run h.1.2]
  rfl

end Cases

/-! ## Replies -/

section Replies

variable (hmethod : r.method = "POST") (hpath : r.path = "/webhook") (hbody : r.body.length ≤ bodyLimit)
  (settings : Settings) (clients : Clients σ) (now : Time.Instant) (s : σ)

include hmethod hpath hbody

/-- The reply goes by the case. -/
theorem reply_cases :
    let reply := (respond settings clients now r s).1
    (Broken r ∧ reply.status = 400) ∨ (Dropped settings r ∧ reply = ignoredReply) ∨
      ((∃ event, Unserved settings clients r s event) ∧ reply.status = 500) ∨
      ((∃ event gateway s', Served settings clients r s event gateway s') ∧ reply = processedReply) := by
  rcases exhaustive settings clients r s with h | h | ⟨event, h⟩ | ⟨event, gateway, s', h⟩
  · obtain ⟨refused, hstatus, hreply⟩ := respond_of_broken hmethod hpath hbody settings h
    exact .inl ⟨h, by rw [hreply]; exact hstatus⟩
  · exact .inr (.inl ⟨h, by rw [respond_of_dropped hmethod hpath hbody h]⟩)
  · obtain ⟨e, s', hrespond⟩ := respond_of_unserved hmethod hpath hbody now h
    exact .inr (.inr (.inl ⟨⟨event, h⟩, by rw [hrespond]; rfl⟩))
  · exact .inr (.inr (.inr ⟨⟨event, gateway, s', h⟩, by rw [respond_of_served hmethod hpath hbody now h]⟩))

theorem status_eq_400_iff : (respond settings clients now r s).1.status = 400 ↔ Broken r := by
  constructor
  · intro hstatus
    rcases reply_cases hmethod hpath hbody settings clients now s with ⟨h, -⟩ | ⟨-, h⟩ | ⟨-, h⟩ | ⟨-, h⟩
    · exact h
    · rw [h] at hstatus
      exact absurd hstatus (by decide)
    · rw [h] at hstatus
      exact absurd hstatus (by decide)
    · rw [h] at hstatus
      exact absurd hstatus (by decide)
  · intro h
    obtain ⟨refused, hstatus, hreply⟩ := respond_of_broken hmethod hpath hbody settings h
    rw [hreply]
    exact hstatus

theorem reply_eq_ignored_iff : (respond settings clients now r s).1 = ignoredReply ↔ Dropped settings r := by
  constructor
  · intro hreply
    rcases reply_cases hmethod hpath hbody settings clients now s with ⟨-, h⟩ | ⟨h, -⟩ | ⟨-, h⟩ | ⟨-, h⟩
    · rw [hreply] at h
      exact absurd h (by decide)
    · exact h
    · rw [hreply] at h
      exact absurd h (by decide)
    · rw [hreply] at h
      exact absurd h (by decide)
  · intro h
    rw [respond_of_dropped hmethod hpath hbody h]

theorem status_eq_500_iff :
    (respond settings clients now r s).1.status = 500 ↔ ∃ event, Unserved settings clients r s event := by
  constructor
  · intro hstatus
    rcases reply_cases hmethod hpath hbody settings clients now s with ⟨-, h⟩ | ⟨-, h⟩ | ⟨h, -⟩ | ⟨-, h⟩
    · rw [h] at hstatus
      exact absurd hstatus (by decide)
    · rw [h] at hstatus
      exact absurd hstatus (by decide)
    · exact h
    · rw [h] at hstatus
      exact absurd hstatus (by decide)
  · rintro ⟨event, h⟩
    obtain ⟨e, s', hrespond⟩ := respond_of_unserved hmethod hpath hbody now h
    rw [hrespond]
    rfl

theorem reply_eq_processed_iff : (respond settings clients now r s).1 = processedReply ↔
    ∃ event gateway s', Served settings clients r s event gateway s' := by
  constructor
  · intro hreply
    rcases reply_cases hmethod hpath hbody settings clients now s with ⟨-, h⟩ | ⟨-, h⟩ | ⟨-, h⟩ | ⟨h, -⟩
    · rw [hreply] at h
      exact absurd h (by decide)
    · rw [hreply] at h
      exact absurd h (by decide)
    · rw [hreply] at h
      exact absurd h (by decide)
    · exact h
  · rintro ⟨event, gateway, s', h⟩
    rw [respond_of_served hmethod hpath hbody now h]

end Replies

/-! ## Calls -/

/-- What the server calls to answer a request. -/
inductive Call
  | client (installation : Option InstallationId) (repo : RepoId)
  | effect (effect : Effect)

/-- The calls that exchanges with a gateway come to. -/
def effectCalls (exchanges : List Exchange) : List Call := exchanges.map fun x => .effect x.effect

/-- A gateway that also keeps what it was asked. -/
def tracedGateway (gateway : Gateway σ) : Gateway (σ × List Call) := fun effect s =>
  ((gateway effect s.1).1, ((gateway effect s.1).2, s.2 ++ [.effect effect]))

/-- A source of clients that also keeps the calls to it and to its gateways. -/
def Clients.traced (clients : Clients σ) : Clients (σ × List Call) := fun installation repo s =>
  ((clients installation repo s.1).1.map tracedGateway,
    ((clients installation repo s.1).2, s.2 ++ [.client installation repo]))

theorem run_traced {α : Type} (gateway : Gateway σ) (p : Interaction α) (s : σ) (calls : List Call) :
    p.run (tracedGateway gateway) (s, calls) =
      ((p.run gateway s).1, ((p.run gateway s).2, calls ++ effectCalls (p.exchanges gateway s))) := by
  induction p generalizing s calls with
  | done a => simp [effectCalls]
  | ask effect next ih =>
    rw [Interaction.run_ask, Interaction.run_ask, Interaction.exchanges_ask]
    refine (ih _ _ _).trans ?_
    rw [List.append_assoc]
    rfl

theorem Clients.traced_of_eq {clients : Clients σ} {installation : Option InstallationId} {repo : RepoId}
    {s s' : σ} {client : Except ApiError (Gateway σ)} (h : clients installation repo s = (client, s'))
    (calls : List Call) :
    clients.traced installation repo (s, calls) =
      (client.map tracedGateway, (s', calls ++ [.client installation repo])) := by
  rw [Clients.traced, h]

theorem handleEvent_traced (clients : Clients σ) (now : Time.Instant) (s : σ) (calls : List Call) :
    let result := handleEvent settings clients.traced now event (s, calls)
    (result.1, result.2.1) = handleEvent settings clients now event s := by
  cases hclient : clients event.installation event.repo s with
  | mk client s' =>
    cases client with
    | error e =>
      rw [handleEvent_of_no_client hclient, handleEvent_of_no_client (Clients.traced_of_eq hclient calls)]
    | ok gateway =>
      rw [handleEvent_of_client hclient, handleEvent_of_client (Clients.traced_of_eq hclient calls), run_traced]

/-- To keep the calls changes neither the reply nor what becomes of the state. -/
theorem respond_traced (clients : Clients σ) (now : Time.Instant) (r : Request) (s : σ) (calls : List Call) :
    let result := respond settings clients.traced now r (s, calls)
    (result.1, result.2.1) = respond settings clients now r s := by
  unfold respond takeDelivery
  by_cases hpath : r.path = "/webhook"
  · rw [if_pos hpath, if_pos hpath]
    by_cases hmethod : r.method = "POST"
    · rw [if_pos hmethod, if_pos hmethod]
      cases assess settings r with
      | refused refusal => rfl
      | ignored => rfl
      | accepted event => exact handleEvent_traced clients now s calls
    · rw [if_neg hmethod, if_neg hmethod]
  · rw [if_neg hpath, if_neg hpath]
    by_cases hhealth : r.path = "/health"
    · rw [if_pos hhealth, if_pos hhealth]
    · rw [if_neg hhealth, if_neg hhealth]

/-- The calls that are made to answer a request. -/
def callsOf (settings : Settings) (clients : Clients σ) (now : Time.Instant) (r : Request) (s : σ) : List Call :=
  (respond settings clients.traced now r (s, [])).2.2

section Calls

variable (hmethod : r.method = "POST") (hpath : r.path = "/webhook") (hbody : r.body.length ≤ bodyLimit)
  {clients : Clients σ} (now : Time.Instant) {s : σ}

include hmethod hpath hbody

theorem callsOf_of_broken (h : Broken r) : callsOf settings clients now r s = [] := by
  obtain ⟨reply, -, hreply⟩ := respond_of_broken hmethod hpath hbody settings h
  rw [callsOf, hreply]

theorem callsOf_of_dropped (h : Dropped settings r) : callsOf settings clients now r s = [] := by
  rw [callsOf, respond_of_dropped hmethod hpath hbody h]

theorem callsOf_of_unserved (h : Unserved settings clients r s event) :
    callsOf settings clients now r s = [.client event.installation event.repo] := by
  obtain ⟨hheeded, e, s', hclient⟩ := h
  rw [callsOf, respond_of_heeded hmethod hpath hbody hheeded,
    handleEvent_of_no_client (Clients.traced_of_eq hclient [])]
  rfl

theorem callsOf_of_served {gateway : Gateway σ} {s' : σ} (h : Served settings clients r s event gateway s') :
    callsOf settings clients now r s =
      .client event.installation event.repo :: .effect (event.acknowledging settings) ::
        effectCalls ((event.workflowProgram settings now).exchanges gateway
          (gateway (event.acknowledging settings) s').2) := by
  obtain ⟨hheeded, hclient⟩ := h
  rw [callsOf, respond_of_heeded hmethod hpath hbody hheeded,
    handleEvent_of_client (Clients.traced_of_eq hclient []), run_traced, Event.handle_exchanges hheeded.2]
  rfl

end Calls

/-- **Answers to deliveries.** A delivery within the limit is answered with 400 if it is broken, with `Ignored` if
it is dropped, with 500 if there is no client for its event, and with `Processed` in all other cases, whatever the
gateway answers. A client is asked for in the last two cases only, once and with what the event says; a gateway is
asked in the last one only, for the acknowledgement and then for what the workflow asks. An event for which a
client was asked is never dropped after all. -/
theorem deliveries_answered (settings : Settings) (clients : Clients σ) (now : Time.Instant) (r : Request) (s : σ)
    (hmethod : r.method = "POST") (hpath : r.path = "/webhook") (hbody : r.body.length ≤ bodyLimit) :
    let reply := (respond settings clients now r s).1
    let traced := respond settings clients.traced now r (s, [])
    let calls := traced.2.2
    (reply.status = 400 ∨ reply = ignoredReply ∨ reply.status = 500 ∨ reply = processedReply) ∧
    (reply.status = 400 ↔ Broken r) ∧
    (reply = ignoredReply ↔ Dropped settings r) ∧
    (reply.status = 500 ↔ ∃ event, Unserved settings clients r s event) ∧
    (reply = processedReply ↔ ∃ event gateway s', Served settings clients r s event gateway s') ∧
    (traced.1, traced.2.1) = respond settings clients now r s ∧
    (Broken r ∨ Dropped settings r → calls = []) ∧
    (∀ event, Unserved settings clients r s event → calls = [.client event.installation event.repo]) ∧
    (∀ event gateway s', Served settings clients r s event gateway s' →
      calls = .client event.installation event.repo :: .effect (event.acknowledging settings) ::
        effectCalls ((event.workflowProgram settings now).exchanges gateway
          (gateway (event.acknowledging settings) s').2)) ∧
    (∀ event, Heeded settings r event → ∀ (gateway : Gateway σ) s',
      ((event.handle settings now).run gateway s').1.isIgnored = false) := by
  intro reply traced calls
  have hcases := reply_cases hmethod hpath hbody settings clients now s
  have hreply : reply.status = 400 ∨ reply = ignoredReply ∨ reply.status = 500 ∨ reply = processedReply :=
    hcases.imp And.right (.imp And.right (.imp And.right And.right))
  refine ⟨hreply, ?_, ?_, ?_, ?_, respond_traced clients now r s [], ?_, fun event h => ?_,
    fun event gateway s' h => ?_, fun event h gateway s' => ?_⟩
  · exact status_eq_400_iff hmethod hpath hbody settings clients now s
  · exact reply_eq_ignored_iff hmethod hpath hbody settings clients now s
  · exact status_eq_500_iff hmethod hpath hbody settings clients now s
  · exact reply_eq_processed_iff hmethod hpath hbody settings clients now s
  · rintro (h | h)
    · exact callsOf_of_broken hmethod hpath hbody now h
    · exact callsOf_of_dropped hmethod hpath hbody now h
  · exact callsOf_of_unserved hmethod hpath hbody now h
  · exact callsOf_of_served hmethod hpath hbody now h
  · rw [Event.handle_run h.2]
    rfl

/-- A delivery of a comment that greets the bot. -/
def greeting : Request where
  method := "POST"
  target := "/webhook"
  headers := [("X-GitHub-Event", "issue_comment"), ("X-GitHub-Delivery", "72d3162e")]
  body := Text.utf8 (Json.Value.object [
    ("action", .string "created"),
    ("comment", .object [("id", .nat 1), ("body", .string "Hello"), ("user", .object [("login", .string "ann")])]),
    ("issue", .object [("number", .nat 7)]),
    ("repository", .object [("name", .string "tools"), ("owner", .object [("login", .string "ann")])])]).text

theorem heeded_greeting : ∃ event, Heeded {} greeting event := by
  have hevent : (Event.ofPayload greeting.body).toOption = some
      { repo := ⟨"ann", "tools"⟩, action := .created, issue := ⟨7⟩, isPullRequest := false, id := ⟨1⟩,
        body := "Hello", author := "ann", installation := none } := by decide +kernel
  cases hpayload : Event.ofPayload greeting.body with
  | error e =>
    rw [hpayload] at hevent
    cases hevent
  | ok event =>
    rw [hpayload] at hevent
    obtain rfl := Option.some.inj hevent
    refine ⟨_, ⟨⟨Request.header?_eq_some_iff.1 ?_, "72d3162e", Request.header?_eq_some_iff.1 ?_⟩, hpayload⟩, ?_⟩
    · decide +kernel
    · decide +kernel
    · decide

theorem greeting_processed : greeting.method = "POST" ∧ greeting.path = "/webhook" ∧
    greeting.body.length ≤ bodyLimit ∧
    (respond {} memoryClients .epoch greeting (.withBranch "main")).1 = processedReply := by
  obtain ⟨event, hevent⟩ := heeded_greeting
  have hlength : greeting.body.length ≤ bodyLimit := by decide +kernel
  refine ⟨rfl, by decide, hlength, ?_⟩
  have h := deliveries_answered {} memoryClients .epoch greeting (.withBranch "main") rfl (by decide) hlength
  exact h.2.2.2.2.1.2 ⟨event, Repository.apply, _, hevent, rfl⟩

end CommentBot.Server
