import CommentBot.Proofs.Comment.Independence
import CommentBot.Proofs.Server.Requests

/-!
# Sessions of deliveries

Deliveries come in one after the other. Those that start no workflow leave nothing but comments behind, and so the
others are handled as if they alone had come.

1. `Delivery.record`: what the server does about a delivery, on the repository in memory. `session` does so for many.
2. `record_ahead`: on a repository that has more comments the same is done, but for the ids of comments.
   `ahead_of_idle`: an idle delivery leaves a repository that has more comments, or the same.
3. `idle_invisible`: so idle deliveries can be left out of a session.
-/

namespace CommentBot.Server

open Comment Forge Workflow

/-! ## Sessions -/

/-- A request to the path that takes deliveries, and the date that commits bear if it comes to any. -/
structure Delivery where
  now : Time.Instant
  request : Request
  method : request.method = "POST"
  path : request.path = "/webhook"

/-- How the event of a request is handled, if one is: what becomes of it, and what is exchanged with its gateway. -/
def handling? {σ : Type} (settings : Settings) (clients : Clients σ) (now : Time.Instant) (r : Request) (s : σ) :
    Option (Outcome × List Exchange) :=
  match assess settings r with
  | .accepted event =>
    match clients event.installation event.repo s with
    | (.ok gateway, s) =>
      some (((event.handle settings now).run gateway s).1, (event.handle settings now).exchanges gateway s)
    | (.error _, _) => none
  | _ => none

/-- What is done about a delivery. -/
structure Record where
  reply : Reply
  /-- The calls for clients and to gateways. -/
  calls : List Call
  report : Option Report
  exchanges : List Exchange

/-- The record with the ids of comments `k` larger. -/
def Record.later (k : Nat) (x : Record) : Record :=
  ⟨x.reply, x.calls, x.report.map (Report.later k), x.exchanges.map (Exchange.later k)⟩

namespace Delivery

variable (settings : Settings) (d : Delivery)

/-- What is done about a delivery on the repository in memory, and the repository that this leaves. -/
def record (r : Repository) : Record × Repository :=
  let answered := respond settings memoryClients d.now d.request r
  let handled := handling? settings memoryClients d.now d.request r
  (⟨answered.1, callsOf settings memoryClients d.now d.request r, handled.bind (·.1.report?),
    (handled.map (·.2)).getD []⟩, answered.2)

/-- The delivery is refused or dropped, or its comment has no command that the bot knows. -/
def Idle : Prop :=
  bodyLimit < d.request.body.length ∨ Broken d.request ∨ Dropped settings d.request ∨
    ∃ event, Reports d.request event ∧ ofCommand? (Command.classify event.body) = none

end Delivery

/-- What is done about deliveries that come in one after the other, and the repository that they leave. -/
def session (settings : Settings) : List Delivery → Repository → List Record × Repository
  | [], r => ([], r)
  | d :: rest, r =>
    let (x, r) := d.record settings r
    let (records, r) := session settings rest r
    (x :: records, r)

/-- The members of a list whose places are marked. -/
def kept {α : Type} (marks : Nat → Bool) : List α → List α
  | [] => []
  | a :: rest =>
    if marks 0 then a :: kept (fun i => marks (i + 1)) rest else kept (fun i => marks (i + 1)) rest

variable {settings : Settings} {d : Delivery} {event : Event} {r r₁ r₂ : Repository} {k : Nat}

theorem session_cons (settings : Settings) (d : Delivery) (rest : List Delivery) (r : Repository) :
    session settings (d :: rest) r =
      let handled := d.record settings r
      (handled.1 :: (session settings rest handled.2).1, (session settings rest handled.2).2) := rfl

/-! ## One delivery -/

/-- The repository after a client was handed out. -/
def handedOut (event : Event) (r : Repository) : Repository :=
  (memoryClients event.installation event.repo r).2

theorem ahead_handedOut (h : Repository.Ahead k r₁ r₂) (event : Event) :
    Repository.Ahead k (handedOut event r₁) (handedOut event r₂) :=
  ⟨h.refs, h.trees, h.commits, h.pullRequests, h.failures, h.root, h.issued, h.comments⟩

theorem callsOf_of_accepted (h : assess settings d.request = .accepted event) (r : Repository) :
    callsOf settings memoryClients d.now d.request r = .client event.installation event.repo ::
      effectCalls ((event.handle settings d.now).exchanges Repository.apply (handedOut event r)) := by
  have hclient : memoryClients.traced event.installation event.repo (r, []) = _ := Clients.traced_of_eq rfl []
  rw [callsOf, respond_eq_takeDelivery d.method d.path, takeDelivery, h]
  dsimp only
  rw [handleEvent_of_client hclient, run_traced]
  rfl

theorem record_of_accepted (h : assess settings d.request = .accepted event) (r : Repository) :
    d.record settings r =
      let handled := (event.handle settings d.now).run Repository.apply (handedOut event r)
      let exchanges := (event.handle settings d.now).exchanges Repository.apply (handedOut event r)
      (⟨outcomeReply handled.1, .client event.installation event.repo :: effectCalls exchanges, handled.1.report?,
        exchanges⟩, handled.2) := by
  unfold Delivery.record handling?
  rw [callsOf_of_accepted h, respond_eq_takeDelivery d.method d.path, takeDelivery, h]
  rfl

/-- A delivery that is answered without a look at any client. -/
theorem record_of_answered {reply : Reply} (hnone : ∀ r, handling? settings memoryClients d.now d.request r = none)
    (hanswered : ∀ {σ : Type} (clients : Clients σ) s, takeDelivery settings clients d.now d.request s = (reply, s))
    (r : Repository) : d.record settings r = (⟨reply, [], none, []⟩, r) := by
  unfold Delivery.record callsOf
  rw [respond_eq_takeDelivery d.method d.path, respond_eq_takeDelivery d.method d.path, hanswered, hanswered, hnone]
  rfl

theorem record_of_not_accepted (h : ∀ event, assess settings d.request ≠ .accepted event) :
    ∃ reply, ∀ r, d.record settings r = (⟨reply, [], none, []⟩, r) := by
  cases hassess : assess settings d.request with
  | refused refusal =>
    refine ⟨refusal.reply, record_of_answered (fun r => ?_) fun clients s => ?_⟩
    · rw [handling?, hassess]
    · rw [takeDelivery, hassess]
  | ignored =>
    refine ⟨ignoredReply, record_of_answered (fun r => ?_) fun clients s => ?_⟩
    · rw [handling?, hassess]
    · rw [takeDelivery, hassess]
  | accepted event => exact absurd hassess (h event)

theorem effectCalls_later (k : Nat) (exchanges : List Exchange) :
    effectCalls (exchanges.map (Exchange.later k)) = effectCalls exchanges := List.map_map

theorem workflowProgram_parallel (settings : Settings) (now : Time.Instant) (event : Event) (k : Nat) :
    Interaction.Parallel k (fun report₁ report₂ => report₁ = report₂.map (Report.later k))
      (event.workflowProgram settings now) (event.workflowProgram settings now) := by
  cases hw : ofCommand? (Command.classify event.body) with
  | none =>
    rw [Event.workflowProgram, Event.runWorkflow, hw]
    exact .done rfl
  | some w =>
    rw [Event.workflowProgram_of_command hw]
    exact (run_parallel settings.workflow now event.issue w k).bind fun _ _ hreport => .done (congrArg some hreport)

/-- A comment is handled in the same way whatever the ids of comments are. -/
theorem handle_parallel (settings : Settings) (now : Time.Instant) (event : Event) (k : Nat) :
    Interaction.Parallel k (fun outcome₁ outcome₂ => outcomeReply outcome₁ = outcomeReply outcome₂ ∧
      outcome₁.report? = outcome₂.report?.map (Report.later k))
      (event.handle settings now) (event.handle settings now) := by
  cases hreason : event.ignoreReason? settings with
  | some reason =>
    rw [Event.handle_of_ignored hreason]
    exact .done ⟨rfl, rfl⟩
  | none =>
    rw [Event.handle_of_heeded hreason]
    exact .ask fun answer => (workflowProgram_parallel settings now event k).bind fun _ _ hreport =>
      .done ⟨rfl, hreport⟩

/-- A repository stays as far ahead as it was, and the same is done about a delivery, but for the ids of comments. -/
theorem record_ahead (settings : Settings) (d : Delivery) (h : Repository.Ahead k r₁ r₂) :
    (d.record settings r₁).1 = (d.record settings r₂).1.later k ∧
      Repository.Ahead k (d.record settings r₁).2 (d.record settings r₂).2 := by
  by_cases haccepted : ∃ event, assess settings d.request = .accepted event
  · obtain ⟨event, hassess⟩ := haccepted
    obtain ⟨⟨hreply, hreport⟩, hstate, hexchanges⟩ :=
      (ahead_handedOut h event).run (handle_parallel settings d.now event k)
    rw [record_of_accepted hassess, record_of_accepted hassess]
    dsimp only
    rw [hreply, hreport, hexchanges, effectCalls_later]
    exact ⟨rfl, hstate⟩
  · obtain ⟨reply, hrecord⟩ := record_of_not_accepted (not_exists.1 haccepted)
    rw [hrecord, hrecord]
    exact ⟨rfl, h⟩

theorem assess_of_too_long (settings : Settings) {request : Request} (h : bodyLimit < request.body.length) :
    assess settings request = .refused .bodyTooLong := by
  unfold assess readEvent
  rw [if_pos h]
  rfl

/-- The comment of an idle delivery has no workflow, if it is looked at at all. -/
theorem Delivery.Idle.no_workflow (h : d.Idle settings) (hassess : assess settings d.request = .accepted event) :
    ofCommand? (Command.classify event.body) = none := by
  by_cases hbody : bodyLimit < d.request.body.length
  · rw [assess_of_too_long settings hbody] at hassess
    cases hassess
  have hlimit := Nat.not_lt.1 hbody
  rcases h with hlong | hbroken | hdropped | ⟨reported, hreports, hcommand⟩
  · exact absurd hlong hbody
  · obtain ⟨refusal, hrefused, -⟩ := assess_of_broken hlimit settings hbroken
    rw [hrefused] at hassess
    cases hassess
  · rw [assess_of_dropped hlimit hdropped] at hassess
    cases hassess
  · cases hreason : reported.ignoreReason? settings with
    | some reason =>
      rw [assess_of_dropped hlimit (.inr ⟨reported, hreports, reason, hreason⟩)] at hassess
      cases hassess
    | none =>
      rw [assess_of_heeded hlimit ⟨hreports, hreason⟩] at hassess
      obtain rfl := Admission.accepted.inj hassess
      exact hcommand

/-- An idle delivery leaves the repository as it was, or with one comment more. -/
theorem ahead_of_idle (h : d.Idle settings) (r : Repository) :
    ∃ k, Repository.Ahead k (d.record settings r).2 r := by
  by_cases haccepted : ∃ event, assess settings d.request = .accepted event
  · obtain ⟨event, hassess⟩ := haccepted
    rw [record_of_accepted hassess]
    have hsame : Repository.Ahead 0 (handedOut event r) r := ⟨rfl, rfl, rfl, rfl, rfl, rfl, rfl, rfl⟩
    cases hreason : event.ignoreReason? settings with
    | some reason =>
      rw [Event.handle_of_ignored hreason]
      exact ⟨0, hsame⟩
    | none =>
      rw [Event.handle_run hreason, Event.workflowProgram, Event.runWorkflow, h.no_workflow hassess]
      exact ⟨_, (Repository.ahead_postComment (handedOut event r) event.issue _).trans hsame⟩
  · obtain ⟨reply, hrecord⟩ := record_of_not_accepted (not_exists.1 haccepted)
    rw [hrecord]
    exact ⟨0, .refl r⟩

/-! ## Many deliveries -/

/-- A session on a repository that is ahead goes like one without some idle deliveries on the other repository. -/
theorem session_ahead {marks : Nat → Bool} {deliveries : List Delivery}
    (hidle : ∀ (i : Nat) (d : Delivery), deliveries[i]? = some d → marks i = false → d.Idle settings)
    (h : Repository.Ahead k r₁ r₂) :
    (∃ l, Repository.Ahead l (session settings deliveries r₁).2 (session settings (kept marks deliveries) r₂).2) ∧
      List.Forall₂ (fun x₁ x₂ => ∃ l, x₁ = Record.later l x₂) (kept marks (session settings deliveries r₁).1)
        (session settings (kept marks deliveries) r₂).1 := by
  induction deliveries generalizing marks r₁ r₂ k with
  | nil => exact ⟨⟨k, h⟩, .nil⟩
  | cons d rest ih =>
    have hrest : ∀ (i : Nat) (d : Delivery), rest[i]? = some d → marks (i + 1) = false → d.Idle settings :=
      fun i d => hidle (i + 1) d
    rw [session_cons, kept]
    dsimp only
    rw [kept]
    cases hmark : marks 0 with
    | false =>
      obtain ⟨j, hj⟩ := ahead_of_idle (hidle 0 d rfl hmark) r₁
      exact ih hrest (hj.trans h)
    | true =>
      obtain ⟨hrecord, hahead⟩ := record_ahead settings d h
      obtain ⟨hstate, hrecords⟩ := ih hrest hahead
      exact ⟨hstate, .cons ⟨k, hrecord⟩ hrecords⟩

/-- **Deliveries that start no workflow are invisible.** Leave out of a session any deliveries that are refused or
dropped, or whose comments have no command. The references, trees, commits and pull requests in the end are the same.
So are the replies to the other deliveries and the calls that they lead to, and, but for the ids of comments, the
reports on them and what is exchanged with the repository. -/
theorem idle_invisible (settings : Settings) (r : Repository) (deliveries : List Delivery) (marks : Nat → Bool)
    (hidle : ∀ (i : Nat) (d : Delivery), deliveries[i]? = some d → marks i = false → d.Idle settings) :
    let whole := session settings deliveries r
    let thinned := session settings (kept marks deliveries) r
    whole.2.contents = thinned.2.contents ∧
      List.Forall₂ (fun x y => ∃ k, x = Record.later k y) (kept marks whole.1) thinned.1 := by
  intro whole thinned
  obtain ⟨⟨k, hstate⟩, hrecords⟩ := session_ahead hidle (.refl r)
  exact ⟨hstate.contents_eq, hrecords⟩

/-- A comment without a command is delivered. -/
def greeted : Delivery := ⟨.epoch, greeting, rfl, by decide⟩

/-- A comment that asks for a branch is delivered. -/
def branchAsked : Delivery := ⟨.epoch, asking, rfl, by decide⟩

theorem greeted_idle : greeted.Idle {} := by
  obtain ⟨event, hreports, -⟩ := heeded_greeting
  have hcommand : (Event.ofPayload greeting.body).toOption.bind
      (fun event => ofCommand? (Command.classify event.body)) = none := by decide +kernel
  rw [hreports.2] at hcommand
  exact .inr (.inr (.inr ⟨event, hreports, hcommand⟩))

/-- A greeting makes no difference to the branch that is asked for behind it. -/
theorem greeting_invisible : (∃ (d : Delivery), [greeted, branchAsked][0]? = some d ∧ d.Idle {}) ∧
    let whole := session {} [greeted, branchAsked] (.withBranch "main")
    let thinned := session {} [branchAsked] (.withBranch "main")
    whole.2.contents = thinned.2.contents ∧
      List.Forall₂ (fun x y => ∃ k, x = Record.later k y) whole.1.tail thinned.1 := by
  refine ⟨⟨greeted, rfl, greeted_idle⟩, ?_⟩
  refine idle_invisible {} (.withBranch "main") [greeted, branchAsked] (fun i => i ≠ 0) fun i d hd hmark => ?_
  obtain rfl : i = 0 := by simpa using hmark
  obtain rfl := Option.some.inj hd
  exact greeted_idle

end CommentBot.Server
