/-!
# Where a text stops being JSON

A text is read from the left, up to its first flaw. What the flaw is called can depend on who reads: whoever
wants a value looks at the text in other steps than whoever passes over it.
-/

namespace CommentBot.Json

/-- What is wrong with a text that is not JSON. -/
inductive Flaw
  | endOfString
  | endOfArray
  | endOfObject
  | endOfValue
  /-- A value should begin here, and none does. -/
  | noValue
  | badWord
  | badNumber
  /-- The number lies beyond the doubles. -/
  | hugeNumber
  /-- The letter behind a backslash stands for nothing. -/
  | badLetter
  /-- A unit is not written with hexadecimal digits. -/
  | badUnit
  /-- A unit closes a pair that none has opened, or stands where one should close a pair and does not. -/
  | halfPair
  /-- A unit opens a pair, and no unit follows. -/
  | cutPair
  | badOctets
  | control
  | badKey
  | noColon
  /-- Behind an item there is neither a comma nor the end of the array. -/
  | openArray
  /-- Behind a member there is neither a comma nor the end of the object. -/
  | openObject
  | trailingComma
  | trailingText
  | tooDeep
  deriving DecidableEq, Repr

/-- The words for a flaw. -/
def Flaw.message : Flaw → String
  | endOfString => "EOF while parsing a string"
  | endOfArray => "EOF while parsing a list"
  | endOfObject => "EOF while parsing an object"
  | endOfValue => "EOF while parsing a value"
  | noValue => "expected value"
  | badWord => "expected ident"
  | badNumber => "invalid number"
  | hugeNumber => "number out of range"
  | badLetter => "invalid escape"
  | badUnit => "invalid escape"
  | halfPair => "lone leading surrogate in hex escape"
  | cutPair => "unexpected end of hex escape"
  | badOctets => "invalid unicode code point"
  | control => "control character (\\u0000-\\u001F) found while parsing a string"
  | badKey => "key must be a string"
  | noColon => "expected `:`"
  | openArray => "expected `,` or `]`"
  | openObject => "expected `,` or `\x7d`"
  | trailingComma => "trailing comma"
  | trailingText => "trailing characters"
  | tooDeep => "recursion limit exceeded"

/-- The place at which a text stops being JSON: what that is to whoever wants the value there, and to whoever passes
over it. -/
structure Fault where
  wanted : Flaw
  passed : Flaw
  deriving DecidableEq, Repr

/-- A fault that is the same to everyone. -/
def Flaw.fault (f : Flaw) : Fault := ⟨f, f⟩

namespace Fault

/-- The text ends inside a number. Whoever passes over the number only sees that it is none. -/
def unfinishedNumber : Fault := ⟨.endOfValue, .badNumber⟩

/-- The end of an array behind a comma. Whoever passes over the array looks for a value there. -/
def noItem : Fault := ⟨.trailingComma, .noValue⟩

/-- The end of an object behind a comma. Whoever passes over the object looks for a key there. -/
def noMember : Fault := ⟨.trailingComma, .badKey⟩

/-- The text ends behind a comma in an object. -/
def missingMember : Fault := ⟨.endOfValue, .endOfObject⟩

end Fault

end CommentBot.Json
