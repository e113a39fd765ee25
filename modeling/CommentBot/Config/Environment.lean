import CommentBot.Config.Settings
import CommentBot.Text.Blank
import CommentBot.Text.Quoted

/-!
# The environment

Settings come from variables. A variable that is blank counts as absent; any other value is taken as it is.
-/

namespace CommentBot.Config

/-- The values of variables. -/
abbrev Environment := String → Option String

/-- Why the settings cannot be read. -/
inductive Error
  | missing (name : String)
  | invalid (name value reason : String)
  deriving DecidableEq, Repr

/-- The words for an error. -/
def Error.message : Error → String
  | missing name => s!"missing required environment variable {name}"
  | invalid name value reason =>
    "invalid value for " ++ name ++ ": " ++ Text.quote value ++ " (" ++ reason ++ ")"

namespace Environment

/-- The value of a variable, if it is not blank. -/
def value? (env : Environment) (name : String) : Option String :=
  (env name).filter fun value => !Text.allBlank value

/-- The value of a variable, or another one if it is blank. -/
def value (env : Environment) (name fallback : String) : String := (env.value? name).getD fallback

/-- The address to listen on. -/
def address (env : Environment) : Except Error Net.SocketAddress :=
  let name := "SLASH_BOT_LISTEN_ADDR"
  let text := env.value name "0.0.0.0:3000"
  match Net.SocketAddress.read? text with
  | some address => .ok address
  | none => .error (.invalid name text "invalid socket address syntax")

/-- The settings of the workflows. -/
def workflow (env : Environment) : Workflow.Settings :=
  let preset : Workflow.Settings := {}
  { preset with
    baseBranch := env.value "SLASH_BOT_BASE_BRANCH" preset.baseBranch
    botBranch := env.value "SLASH_BOT_BRANCH" preset.botBranch
    headBranch := env.value "SLASH_BOT_PR_HEAD" preset.headBranch
    authorName := env.value "SLASH_BOT_AUTHOR_NAME" preset.authorName
    authorEmail := env.value "SLASH_BOT_AUTHOR_EMAIL" preset.authorEmail }

/-- The settings of the bot. -/
def settings (env : Environment) : Except Error Settings := do
  let preset : Settings := {}
  return {
    address := ← env.address
    preamble := env.value "SLASH_BOT_PREAMBLE" preset.preamble
    botSuffix := env.value "SLASH_BOT_BOT_SUFFIX" preset.botSuffix
    workflow := env.workflow }

/-- The token with which the bot shows who it is. -/
def token (env : Environment) : Except Error String :=
  match env.value? "GITHUB_TOKEN" with
  | some token => .ok token
  | none => .error (.missing "GITHUB_TOKEN")

end Environment

end CommentBot.Config
