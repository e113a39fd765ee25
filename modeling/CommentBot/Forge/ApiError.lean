import CommentBot.Text.LowerCase
import CommentBot.Text.Search

/-!
# Errors of a forge

An error has a kind, so that a reader of a report can tell a name that is taken from a forge that is down. The
kind follows from the status, where there is one, and for a few statuses from words in the message; the size
of letters does not matter there.
-/

namespace CommentBot.Forge

/-- The kinds of errors. -/
inductive ErrorKind
  | unauthorized
  | notFound
  | conflict
  | validation
  | rateLimited
  | server
  | network
  | invalidResponse
  | other
  deriving DecidableEq, Repr

namespace ErrorKind

/-- All kinds. -/
def all : List ErrorKind :=
  [unauthorized, notFound, conflict, validation, rateLimited, server, network, invalidResponse, other]

/-- The name of a kind. -/
def name : ErrorKind → String
  | unauthorized => "unauthorized"
  | notFound => "not_found"
  | conflict => "conflict"
  | validation => "validation"
  | rateLimited => "rate_limited"
  | server => "server"
  | network => "network"
  | invalidResponse => "invalid_response"
  | other => "other"

/-- The words for a kind. -/
def text : ErrorKind → String
  | unauthorized => "unauthorized"
  | notFound => "not found"
  | conflict => "conflict"
  | validation => "validation failed"
  | rateLimited => "rate limited"
  | server => "server error"
  | network => "network error"
  | invalidResponse => "invalid response"
  | other => "error"

end ErrorKind

/-- Whether one of the phrases stands in the message, in letters of any size. -/
def mentions (phrases : List String) (message : String) : Bool :=
  phrases.any fun phrase => Text.occurs phrase.toList (Text.lower message.toList)

/-- The words that tell that a name is taken. -/
def collisionPhrases : List String := ["already exists"]

/-- The words that tell that too much has been asked. -/
def rateLimitPhrases : List String := ["rate limit", "api rate", "secondary rate", "abuse detection"]

/-- The words that tell that no answer came. -/
def networkPhrases : List String := ["timeout", "connection", "network", "dns", "timed out"]

/-- The kind of an error with a status, if there is one, and a message. -/
def categorize (status : Option UInt16) (message : String) : ErrorKind :=
  match status with
  | none => if mentions networkPhrases message then .network else .other
  | some code =>
    if code = 401 then .unauthorized
    else if code = 403 then if mentions rateLimitPhrases message then .rateLimited else .unauthorized
    else if code = 404 then .notFound
    else if code = 409 then .conflict
    else if code = 422 then if mentions collisionPhrases message then .conflict else .validation
    else if code = 429 then .rateLimited
    else if 500 ≤ code && code < 600 then .server
    else .other

/-- An error that a forge reports, or that a client makes of its answer. -/
structure ApiError where
  kind : ErrorKind
  status : Option UInt16
  message : String
  /-- Whether the exchange itself failed. All other errors are judgements about an answer. -/
  ofExchange : Bool
  deriving DecidableEq, Repr

namespace ApiError

/-- An error of a known kind. -/
def ofKind (kind : ErrorKind) (message : String) : ApiError := ⟨kind, none, message, false⟩

/-- An error with a status. -/
def ofStatus (status : UInt16) (message : String) : ApiError :=
  ⟨categorize (some status) message, some status, message, false⟩

/-- The error that an answer does not have the shape it should. -/
def invalidResponse (message : String) : ApiError := ofKind .invalidResponse message

/-- The error of a failed exchange. -/
def exchange (status : Option UInt16) (message : String) : ApiError :=
  ⟨categorize status message, status, message, true⟩

/-- The words for an error. -/
def text (e : ApiError) : String :=
  match e.status with
  | some code => s!"GitHub API {e.kind.text} (HTTP {code.toNat}): {e.message}"
  | none => s!"GitHub API {e.kind.text}: {e.message}"

end ApiError

end CommentBot.Forge
