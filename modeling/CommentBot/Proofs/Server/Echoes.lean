import CommentBot.Proofs.Command.Tokens
import CommentBot.Proofs.Server.Sessions

/-!
# The bot and its own comments

The comments of the bot come back to it as events, with texts of others in them. They start nothing.

1. A line feed ends a token for good, so an acknowledgement has the command of the preamble above it
   (`classify_acknowledgement`); a link has none (`classify_linkText`).
2. `classify_posted`: these are all comments that the bot posts, with any gateway.
3. `PostedAfter`: the comments that it posts after some rounds of reactions to its own. `own_comments_start_nothing`: no
   such comment starts a workflow if the preamble has no token.
-/

namespace CommentBot

open Forge

/-! ## Texts of the bot -/

namespace Command

theorem EndsToken.append_newline {text : List Char} (h : EndsToken text) (more : List Char) :
    EndsToken (text ++ '\n' :: more) := by
  cases text with
  | nil => exact ⟨fun c rest heq => (List.cons.inj heq).1 ▸ rfl, fun c rest heq => nomatch (List.cons.inj heq).1⟩
  | cons d text =>
    refine ⟨fun c rest heq => h.1 c text ?_, fun c rest heq => ?_⟩
    · rw [(List.cons.inj heq).1]
    · obtain ⟨rfl, hrest⟩ := List.cons.inj heq
      cases text with
      | nil => exact (List.cons.inj hrest).1 ▸ rfl
      | cons d text => exact h.2 c text (by rw [(List.cons.inj hrest).1])

/-- What stands behind a line feed has no influence on the token of a text. -/
theorem slashToken?_append_newline (text more : List Char) : slashToken? (text ++ '\n' :: more) = slashToken? text := by
  cases htoken : slashToken? text with
  | some token =>
    obtain ⟨hmem, rest, hends, rfl⟩ := slashToken?_eq_some_iff.1 htoken
    exact slashToken?_eq_some_iff.2 ⟨hmem, _, hends.append_newline more, List.append_assoc token rest _⟩
  | none =>
    rw [slashToken?_eq_none_iff] at htoken ⊢
    rintro ⟨c, rest, heq, hc⟩
    match text with
    | [] => cases (List.cons.inj heq).1
    | [d] =>
      obtain ⟨rfl, -⟩ := List.cons.inj (List.cons.inj heq).2
      exact absurd hc (by decide)
    | d :: e :: text =>
      obtain ⟨rfl, htail⟩ := List.cons.inj heq
      obtain ⟨rfl, -⟩ := List.cons.inj htail
      exact htoken ⟨e, text, rfl, hc⟩

end Command

namespace Comment

open Command Workflow

theorem classify_acknowledgement (preamble author body : String) (command : Command) :
    classify (acknowledgement preamble author body command) = classify preamble := by
  have htext : ∃ more, (acknowledgement preamble author body command).toList = preamble.toList ++ '\n' :: more := by
    unfold acknowledgement
    simp only [String.toList_append, List.append_assoc]
    exact ⟨_, rfl⟩
  obtain ⟨more, htext⟩ := htext
  unfold classify
  rw [htext, slashToken?_append_newline]

theorem classify_linkText (p : PullRequest) : classify (linkText p) = absent := by
  have htext : ∃ more, (linkText p).toList = 'O' :: more := by
    unfold linkText
    simp only [toString, String.toList_append, List.append_assoc]
    exact ⟨_, rfl⟩
  obtain ⟨more, htext⟩ := htext
  refine classify_of_no_token (slashToken?_eq_none_iff.2 ?_)
  rintro ⟨c, rest, heq, -⟩
  rw [htext] at heq
  cases (List.cons.inj heq).1

/-! ## Comments that are posted -/

/-- When it handles the event, the bot asks some gateway to post the comment. -/
def Posts (settings : Settings) (e : Event) (body : String) : Prop :=
  ∃ (σ : Type) (gateway : Gateway σ) (s : σ) (now : Time.Instant) (issue : IssueNumber),
    ∃ x ∈ (e.handle settings now).exchanges gateway s, x.effect = .postComment issue body

section Posted

variable {σ : Type} {settings : Settings} {e : Event} {gateway : Gateway σ} {s : σ} {now : Time.Instant}

/-- The acknowledgement is posted first, and behind it links only. -/
theorem classify_posted {before after : List Exchange} {x : Exchange} {issue : IssueNumber} {body : String}
    (hcalls : (e.handle settings now).exchanges gateway s = before ++ x :: after)
    (hx : x.effect = .postComment issue body) :
    (before = [] ∧ body = acknowledgement settings.preamble e.author e.body (classify e.body) ∧
        classify body = classify settings.preamble) ∨
      (before ≠ [] ∧ (∃ p, body = linkText p) ∧ classify body = absent) := by
  cases hreason : e.ignoreReason? settings with
  | some reason =>
    rw [Event.handle_of_ignored hreason, Interaction.exchanges_done] at hcalls
    cases before <;> cases hcalls
  | none =>
    rw [Event.handle_exchanges hreason] at hcalls
    cases before with
    | nil =>
      obtain ⟨rfl, -⟩ := List.cons.inj hcalls
      obtain ⟨-, rfl⟩ := Effect.postComment.inj hx
      exact .inl ⟨rfl, rfl, classify_acknowledgement _ _ _ _⟩
    | cons y before =>
      obtain ⟨-, hrest⟩ := List.cons.inj hcalls
      obtain ⟨-, hsourced⟩ := e.workflow_pursues settings now gateway (gateway (e.acknowledging settings) s).2
      cases hw : e.workflow? with
      | none =>
        rw [e.exchanges_of_no_workflow settings now gateway _ hw] at hrest
        cases before <;> cases hrest
      | some w =>
        have hbody := hsourced w before x after hw hrest
        rw [hx] at hbody
        obtain ⟨-, request, p, -, rfl⟩ := hbody
        exact .inr ⟨List.cons_ne_nil _ _, ⟨p, rfl⟩, classify_linkText p⟩

theorem Posts.classify_eq {body : String} (h : Posts settings e body) :
    classify body = classify settings.preamble ∨ classify body = absent := by
  obtain ⟨σ, gateway, s, now, issue, x, hx, heffect⟩ := h
  obtain ⟨before, after, hcalls⟩ := List.append_of_mem hx
  exact (classify_posted hcalls heffect).imp (·.2.2) (·.2.2)

/-- A comment without a workflow is acknowledged, if anything is done about it. -/
theorem handle_of_no_workflow (hw : e.workflow? = none) (now : Time.Instant) (gateway : Gateway σ) (s : σ) :
    ((e.handle settings now).run gateway s).1.report? = none ∧
      ∀ x ∈ (e.handle settings now).exchanges gateway s, x.effect = e.acknowledging settings := by
  cases hreason : e.ignoreReason? settings with
  | some reason =>
    rw [Event.handle_of_ignored hreason, Interaction.exchanges_done]
    exact ⟨rfl, fun x hx => absurd hx List.not_mem_nil⟩
  | none =>
    rw [Event.handle_run hreason, Event.handle_exchanges hreason, e.exchanges_of_no_workflow settings now gateway _ hw]
    refine ⟨?_, fun x hx => congrArg Exchange.effect (List.mem_singleton.1 hx)⟩
    have hprogram : e.workflowProgram settings now = .done none := by
      unfold Event.workflow? at hw
      unfold Event.workflowProgram Event.runWorkflow
      rw [hw]
      rfl
    rw [hprogram]
    rfl

end Posted

/-! ## Rounds -/

/-- The comments that the bot posts after `n` rounds: at first in reaction to any event, and then in reaction to an
event with a comment of the round before. -/
inductive PostedAfter (settings : Settings) : Nat → String → Prop
  | first {e body} (h : Posts settings e body) : PostedAfter settings 0 body
  | next {n e body} (own : PostedAfter settings n e.body) (h : Posts settings e body) :
      PostedAfter settings (n + 1) body

theorem PostedAfter.no_workflow {settings : Settings} {n : Nat} {body : String} (h : PostedAfter settings n body)
    (hpreamble : slashToken? settings.preamble.toList = none) : ofCommand? (classify body) = none := by
  have hposted : ∃ e, Posts settings e body := by
    cases h with
    | first h => exact ⟨_, h⟩
    | next own h => exact ⟨_, h⟩
  obtain ⟨e, hposts⟩ := hposted
  rcases hposts.classify_eq with hbody | hbody
  · rw [hbody, classify_of_no_token hpreamble]
    rfl
  · rw [hbody]
    rfl

end Comment

namespace Server

open Comment Command Workflow

variable {σ : Type} {settings : Settings} {r : Request} {e : Event}

/-- For a comment without a workflow the server asks for a client, and the client for the acknowledgement. -/
theorem callsOf_of_no_workflow (hmethod : r.method = "POST") (hpath : r.path = "/webhook") (hreports : Reports r e)
    (hw : e.workflow? = none) (clients : Clients σ) (now : Time.Instant) (s : σ) :
    ∀ call ∈ callsOf settings clients now r s,
      call = .client e.installation e.repo ∨ call = .effect (e.acknowledging settings) := by
  by_cases hbody : bodyLimit < r.body.length
  · rw [callsOf, respond_eq_takeDelivery hmethod hpath, takeDelivery, assess_of_too_long settings hbody]
    exact fun call hcall => absurd hcall List.not_mem_nil
  have hlimit := Nat.not_lt.1 hbody
  cases hreason : e.ignoreReason? settings with
  | some reason =>
    rw [callsOf_of_dropped hmethod hpath hlimit now (.inr ⟨e, hreports, reason, hreason⟩)]
    exact fun call hcall => absurd hcall List.not_mem_nil
  | none =>
    cases hclient : clients e.installation e.repo s with
    | mk client s' =>
      cases client with
      | error error =>
        rw [callsOf_of_unserved hmethod hpath hlimit now ⟨⟨hreports, hreason⟩, error, s', hclient⟩]
        exact fun call hcall => .inl (List.mem_singleton.1 hcall)
      | ok gateway =>
        rw [callsOf_of_served hmethod hpath hlimit now ⟨⟨hreports, hreason⟩, hclient⟩,
          e.exchanges_of_no_workflow settings now gateway _ hw]
        intro call hcall
        rcases List.mem_cons.1 hcall with rfl | hcall
        · exact .inl rfl
        · exact .inr (List.mem_singleton.1 hcall)

/-- **The bot does not set itself off.** Whatever the gateway answers, the comments that are posted for an event are
the acknowledgement, which has the command of the preamble, and behind it links, which have none. So if the preamble has
no token, then no comment of the bot starts a workflow, after any number of rounds: an event with this comment and with
anything else in it is acknowledged at most, and so is a delivery that reports such an event. -/
theorem own_comments_start_nothing (settings : Settings) :
    (∀ {σ : Type} (gateway : Gateway σ) (s : σ) now (e : Event) before x after issue body,
      (e.handle settings now).exchanges gateway s = before ++ x :: after → x.effect = .postComment issue body →
        (before = [] ∧ body = acknowledgement settings.preamble e.author e.body (classify e.body) ∧
            classify body = classify settings.preamble) ∨
          (before ≠ [] ∧ (∃ p, body = linkText p) ∧ classify body = absent)) ∧
    (slashToken? settings.preamble.toList = none → ∀ n body, PostedAfter settings n body →
      ∀ e : Event, e.body = body →
        (∀ {σ : Type} (gateway : Gateway σ) (s : σ) now, ((e.handle settings now).run gateway s).1.report? = none ∧
          ∀ x ∈ (e.handle settings now).exchanges gateway s, x.effect = e.acknowledging settings) ∧
        ∀ r, Reports r e → r.method = "POST" → r.path = "/webhook" →
          ∀ {σ : Type} (clients : Clients σ) now (s : σ), ∀ call ∈ callsOf settings clients now r s,
            call = .client e.installation e.repo ∨ call = .effect (e.acknowledging settings)) := by
  refine ⟨fun gateway s now e before x after issue body hcalls hx => classify_posted hcalls hx,
    fun hpreamble n body hposted e hbody => ?_⟩
  have hw : e.workflow? = none := by
    rw [Event.workflow?, hbody]
    exact hposted.no_workflow hpreamble
  refine ⟨fun gateway s now => handle_of_no_workflow hw now gateway s, ?_⟩
  exact fun r hreports hmethod hpath σ clients now s => callsOf_of_no_workflow hmethod hpath hreports hw clients now s

/-- What the bot posts to acknowledge the comment that asks for a branch. -/
def quoting : String := acknowledgement ({} : Settings).preamble asked.author asked.body (classify asked.body)

theorem posts_quoting : Posts {} asked quoting := by
  let r := Repository.withBranch "main"
  have hasked := Event.handle_exchanges (heeded_asking {}).2 .epoch Repository.apply r
  refine ⟨Repository, Repository.apply, r, .epoch, asked.issue, ⟨_, (Repository.apply (asked.acknowledging {}) r).1⟩, ?_,
    rfl⟩
  rw [hasked]
  exact List.mem_cons_self

/-- A command that the bot quotes is none. -/
theorem quoted_command_starts_nothing : asked.workflow?.isSome = true ∧
    slashToken? ({} : Settings).preamble.toList = none ∧ PostedAfter {} 0 quoting ∧
    let echo : Event := { asked with body := quoting }
    ((echo.handle {} .epoch).run Repository.apply (.withBranch "main")).1.report? = none := by
  have hpreamble : slashToken? ({} : Settings).preamble.toList = none := by decide
  have hposted : PostedAfter {} 0 quoting := .first posts_quoting
  refine ⟨by decide, hpreamble, hposted, ?_⟩
  exact (((own_comments_start_nothing {}).2 hpreamble 0 quoting hposted _ rfl).1 Repository.apply _ .epoch).1

end Server

end CommentBot
