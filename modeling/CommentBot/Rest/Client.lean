import CommentBot.Rest.Body
import CommentBot.Rest.Request

/-!
# The client

A client sends the request of an effect to one repository and reads the answer. Every effect is given to the transport
once, or not at all if its route cannot be sent.
-/

namespace CommentBot.Rest

open Json Forge

/-- What becomes of a request. -/
inductive Reply
  | arrived (status : UInt16) (body : List UInt8)
  /-- No answer came. -/
  | lost (reason : String)

/-- Sends requests, with a state of its own. -/
abbrev Transport (σ : Type) := Request → σ → Reply × σ

/-- The message of an error answer. What else it says is passed over, but must be readable. -/
def errorBody : Decoder String :=
  Fields.record "struct GitHubErrorBody" <|
    (fun _ _ message => message) <$> .optional "documentation_url" .string
      <*> .optional "errors" (.list .value) <*> .required "message" .string

/-- The words for a body that cannot be read. -/
def unreadableText (e : ReadError) : String := "JSON Error in " ++ e.path.text ++ ": " ++ e.message

/-- Reads an error answer. -/
def readFailure (status : UInt16) (body : List UInt8) : ApiError :=
  match errorBody.readAll body with
  | .ok message => .exchange (some status) message
  | .error e => .exchange none ("Serde Error: " ++ e.message)

/-- Reads the answer to an effect that was granted. What follows the answer is not looked at. -/
def readSuccess (e : Effect) (body : List UInt8) : Answer :=
  match (reading e).decode.readFirst body with
  | .ok a => (reading e).response a
  | .error error => .error (.exchange none (unreadableText error))

/-- Reads what became of the request of an effect. -/
def readReply (e : Effect) : Reply → Answer
  | .arrived status body =>
    if 200 ≤ status && status < 300 then readSuccess e body else .error (readFailure status body)
  | .lost reason => .error (.exchange none ("Service Error: " ++ reason))

/-- A client of one repository. -/
structure Client where
  repo : RepoId
  deriving DecidableEq, Repr

namespace Client

/-- The request of an effect, if it can be sent. -/
def request? (c : Client) (e : Effect) : Option Request := (Request.ofEffect c.repo e).sent?

/-- Answers effects through a transport. -/
def gateway {σ : Type} (c : Client) (transport : Transport σ) : Gateway σ := fun effect s =>
  match c.request? effect with
  | none => (.error (.exchange none "Uri"), s)
  | some request => (readReply effect (transport request s).1, (transport request s).2)

/-- What a log says of a client. It does not show the token. -/
def description (c : Client) : String :=
  "OctocrabClient \x7b repo: RepoId \x7b owner: " ++ Text.quote c.repo.owner ++ ", repo: " ++
    Text.quote c.repo.repo ++ " \x7d, .. \x7d"

end Client

/-- What a log says of the source of clients that all show the same token. -/
def clientsDescription : String := "StaticTokenFactory \x7b .. \x7d"

end CommentBot.Rest
