import CommentBot.Comment.Handler
import CommentBot.Comment.Payload
import CommentBot.Server.Message

/-!
# Deliveries

A delivery is looked at before any client is asked for: it is answered at once, or it brings an event that the
bot heeds. What the repository answers then has no influence on the reply.
-/

namespace CommentBot.Server

open Forge

/-- The length in octets beyond which a body is not read. -/
def bodyLimit : Nat := 2097152

/-- The name of the header that says what type of event is delivered. -/
def eventHeader : String := "x-github-event"

/-- The name of the header that names the delivery. -/
def deliveryHeader : String := "x-github-delivery"

/-- Why a delivery is refused. -/
inductive Refusal
  | bodyTooLong
  | missingHeader (name : String)
  | malformedPayload (e : Comment.PayloadError)
  | noClient (e : ApiError)

/-- The reply to a refused delivery. -/
def Refusal.reply : Refusal → Reply
  | bodyTooLong =>
    { status := 413, body := "Failed to buffer the request body: length limit exceeded" }
  | missingHeader name => { status := 400, body := "missing required header: " ++ name }
  | malformedPayload e => { status := 400, body := "malformed payload: " ++ e.message }
  | noClient e => { status := 500, body := "no GitHub client available: " ++ e.text }

/-- The reply to a delivery that was dropped. -/
def ignoredReply : Reply := { status := 200, body := "Ignored" }

/-- The reply to a delivery that was handled. -/
def processedReply : Reply := { status := 200, body := "Processed" }

/-- What a delivery comes to before a client is asked for. -/
inductive Admission
  | refused (refusal : Refusal)
  | ignored
  | accepted (event : Comment.Event)

/-- The value of a header that must be there. -/
def needHeader (r : Request) (name : String) : Except Refusal String :=
  match r.header? name with
  | some value => .ok value
  | none => .error (.missingHeader name)

/-- The event of a delivery, if it is of a type that the bot heeds. -/
def readEvent (r : Request) : Except Refusal (Option Comment.Event) := do
  if bodyLimit < r.body.length then throw .bodyTooLong
  let type ← needHeader r eventHeader
  let _ ← needHeader r deliveryHeader
  (Comment.Event.ofDelivery type r.body).mapError .malformedPayload

/-- Looks at a delivery. -/
def assess (settings : Settings) (r : Request) : Admission :=
  match readEvent r with
  | .error refusal => .refused refusal
  | .ok none => .ignored
  | .ok (some event) => if (event.ignoreReason? settings).isSome then .ignored else .accepted event

/-- Hands out a gateway to a repository, with a state of its own. -/
abbrev Clients (σ : Type) := Option InstallationId → RepoId → σ → Except ApiError (Gateway σ) × σ

/-- The reply to an event that was handled. -/
def outcomeReply : Comment.Outcome → Reply
  | .ignored _ => ignoredReply
  | .processed .. => processedReply

/-- Handles the event of a delivery. -/
def handleEvent {σ : Type} (settings : Settings) (clients : Clients σ) (now : Time.Instant)
    (event : Comment.Event) (s : σ) : Reply × σ :=
  match clients event.installation event.repo s with
  | (.error e, s) => ((Refusal.noClient e).reply, s)
  | (.ok gateway, s) =>
    let (outcome, s) := (event.handle settings now).run gateway s
    (outcomeReply outcome, s)

/-- Takes a delivery. Commits bear the date `now`. -/
def takeDelivery {σ : Type} (settings : Settings) (clients : Clients σ) (now : Time.Instant) (r : Request)
    (s : σ) : Reply × σ :=
  match assess settings r with
  | .refused refusal => (refusal.reply, s)
  | .ignored => (ignoredReply, s)
  | .accepted event => handleEvent settings clients now event s

end CommentBot.Server
