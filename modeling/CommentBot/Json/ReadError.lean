import CommentBot.Json.Number
import CommentBot.Text.Quoted

/-!
# Why a value cannot be read

Either the text is no JSON, or it is and the value has the wrong shape. In both cases the error has a place, the
path to the innermost value that was being read.
-/

namespace CommentBot.Json

/-- What was found in the place of something else. -/
inductive Found
  | null
  | bool (value : Bool)
  | number (value : Number)
  | string (value : String)
  | sequence
  | map
  /-- The name of an alternative, without the value that belongs to it. -/
  | unitVariant

/-- The words for what was found. -/
def Found.text : Found → String
  | .null => "null"
  | .bool value => s!"boolean `{value}`"
  | .number (.integer value) => s!"integer `{value}`"
  | .number (.float x) => "floating point `" ++ (Number.float x).text ++ "`"
  | .string value => "string " ++ Text.quote value
  | .sequence => "sequence"
  | .map => "map"
  | .unitVariant => "unit variant"

/-- What is wrong with the shape of a value. -/
inductive Problem
  | wrongType (found : Found) (wanted : String)
  | wrongValue (found : Found) (wanted : String)
  | wrongLength (length : Nat) (wanted : String)
  | missingField (name : String)
  | duplicateField (name : String)
  | unknownVariant (name : String) (known : List String)
  /-- The value has the right shape, but its type refuses it, with a reason of its own. -/
  | rejected (reason : String)

/-- A name between backquotes. -/
def backquoted (name : String) : String := "`" ++ name ++ "`"

/-- The words for a choice of names. -/
def choiceText : List String → String
  | [name] => backquoted name
  | [first, second] => backquoted first ++ " or " ++ backquoted second
  | names => "one of " ++ ", ".intercalate (names.map backquoted)

/-- The words for a problem. -/
def Problem.message : Problem → String
  | .wrongType found wanted => s!"invalid type: {found.text}, expected {wanted}"
  | .wrongValue found wanted => s!"invalid value: {found.text}, expected {wanted}"
  | .wrongLength length wanted => s!"invalid length {length}, expected {wanted}"
  | .missingField name => "missing field " ++ backquoted name
  | .duplicateField name => "duplicate field " ++ backquoted name
  | .unknownVariant name known => "unknown variant " ++ backquoted name ++ ", expected " ++ choiceText known
  | .rejected reason => reason

/-- A step from a value to one of its parts. -/
inductive Step
  | field (name : String)
  | index (position : Nat)
  /-- To a member whose name cannot be read. -/
  | nameless
  deriving DecidableEq, Repr

/-- The way from the outermost value to one of its parts. -/
abbrev Path := List Step

/-- The text of a path behind its first step. -/
def Path.tailText : Path → String
  | [] => ""
  | .field name :: rest => "." ++ name ++ tailText rest
  | .index position :: rest => "[" ++ toString position ++ "]" ++ tailText rest
  | .nameless :: rest => ".?" ++ tailText rest

/-- The text of a path: names joined by points, positions in brackets, and a point for the outermost
value. -/
def Path.text : Path → String
  | [] => "."
  | .field name :: rest => name ++ tailText rest
  | .index position :: rest => "[" ++ toString position ++ "]" ++ tailText rest
  | .nameless :: rest => "?" ++ tailText rest

/-- Why a value cannot be read. -/
inductive ReadError
  /-- The text stops being JSON in the value at the path. -/
  | text (path : Path) (flaw : Flaw)
  /-- The text stops being JSON before the value. -/
  | unreached (flaw : Flaw)
  /-- The value at the path has the wrong shape. -/
  | data (path : Path) (problem : Problem)

namespace ReadError

/-- The error, seen from a value of which the one that was read is a part. A part that the text does not reach is no
place. -/
def under (step : Step) : ReadError → ReadError
  | text path flaw => text (step :: path) flaw
  | unreached flaw => text [] flaw
  | data path problem => data (step :: path) problem

/-- The path to the innermost value that was being read. -/
def path : ReadError → Path
  | text path _ => path
  | unreached _ => []
  | data path _ => path

/-- The words for the error, without its path and its line. -/
def message : ReadError → String
  | text _ flaw => flaw.message
  | unreached flaw => flaw.message
  | data _ problem => problem.message

end ReadError

end CommentBot.Json
