import CommentBot.Server.Delivery

/-!
# The router

The server has two paths: one takes deliveries, and one tells that the server is alive.
-/

namespace CommentBot.Server

/-- The reply on a path that does not take the method of the request. -/
def wrongMethod (allow : String) : Reply := { status := 405, allow := some allow, body := "" }

/-- The reply on the path that tells that the server is alive. -/
def healthReply (method : String) : Reply :=
  if method = "GET" then { status := 200, body := "OK" }
  else if method = "HEAD" then { status := 200, body := "" }
  else wrongMethod "GET,HEAD"

/-- Answers a request. Commits bear the date `now`. -/
def respond {σ : Type} (settings : Settings) (clients : Clients σ) (now : Time.Instant) (r : Request) (s : σ) :
    Reply × σ :=
  if r.path = "/webhook" then
    if r.method = "POST" then takeDelivery settings clients now r s else (wrongMethod "POST", s)
  else if r.path = "/health" then (healthReply r.method, s)
  else ({ status := 404, body := "" }, s)

end CommentBot.Server
