import CommentBot.Net.SocketAddress
import CommentBot.Workflow.Settings

/-!
# Settings
-/

namespace CommentBot

/-- What the bot can be told before it starts. -/
structure Settings where
  /-- Where the server listens. -/
  address : Net.SocketAddress := .v4 ⟨0, 0, 0, 0⟩ 3000
  /-- The first line of every acknowledgement. -/
  preamble : String := "Hi there!"
  /-- How the logins of bots end. -/
  botSuffix : String := "[bot]"
  workflow : Workflow.Settings := {}
  deriving DecidableEq, Repr

end CommentBot
