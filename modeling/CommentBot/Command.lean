/-!
# Commands

A comment gives a command by the slash token at its very start: a slash and words of letters, digits and
underscores, joined by single hyphens. Only ASCII counts, and the size of letters matters.
-/

namespace CommentBot

/-- Whether the character belongs to words. -/
def isWordChar (c : Char) : Bool := c.isAlphanum || c = '_'

/-- What a comment asks for. -/
inductive Command
  | createBranch
  | createPr
  | testPr
  /-- A slash token that means nothing to the bot. -/
  | unrecognized (token : String)
  /-- No slash token. -/
  | absent
  deriving DecidableEq, Repr

namespace Command

/-- The characters of a token behind one of its word characters. A hyphen belongs to it only if another
word follows. -/
def tokenTail : List Char → List Char
  | [] => []
  | [c] => if isWordChar c then [c] else []
  | c :: d :: rest =>
    if isWordChar c then c :: tokenTail (d :: rest)
    else if c = '-' && isWordChar d then c :: d :: tokenTail rest
    else []

/-- The slash token at the start of a text. -/
def slashToken? : List Char → Option (List Char)
  | '/' :: c :: rest => if isWordChar c then some ('/' :: c :: tokenTail rest) else none
  | _ => none

/-- The command that a token names. -/
def ofToken (token : String) : Command :=
  if token = "/create-branch" then createBranch
  else if token = "/create-pr" then createPr
  else if token = "/testpr" then testPr
  else unrecognized token

/-- The token of a command, or `None` if it has no token. -/
def token : Command → String
  | createBranch => "/create-branch"
  | createPr => "/create-pr"
  | testPr => "/testpr"
  | unrecognized token => token
  | absent => "None"

/-- The command that a comment gives. -/
def classify (text : String) : Command :=
  match slashToken? text.toList with
  | some token => ofToken (String.ofList token)
  | none => absent

@[simp] theorem token_ofToken (token : String) : (ofToken token).token = token := by
  unfold ofToken
  split
  · simp [Command.token, *]
  split
  · simp [Command.token, *]
  split <;> simp [Command.token, *]

example : classify "/create-branch please" = createBranch := by decide

example : classify "/a--b" = unrecognized "/a" := by decide

example : classify "see /testpr" = absent := by decide

end Command

end CommentBot
