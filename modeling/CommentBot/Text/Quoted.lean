import CommentBot.Text.Mark
import CommentBot.Text.Table.Unprintable

/-!
# Quoted text

A text between quotation marks, in which everything a reader could not see or could mistake is spelled
out: quotation marks and backslashes after a backslash, four controls by a letter, and every other
character without a printed form, or one that would combine with its neighbour, by its code point.
-/

namespace CommentBot.Text

/-- Whether the character stands for itself between quotation marks. -/
def isPlain (c : Char) : Bool :=
  !unprintable.contains c && !isExtending c

/-- The digits of a number in base sixteen, in small letters. -/
def hex (n : Nat) : List Char := Nat.toDigits 16 n

/-- One character as it stands between quotation marks. -/
def quoteChar (c : Char) : List Char :=
  if c = '"' then ['\\', '"']
  else if c = '\\' then ['\\', '\\']
  else if c = '\n' then ['\\', 'n']
  else if c = '\r' then ['\\', 'r']
  else if c = '\t' then ['\\', 't']
  else if c = '\x00' then ['\\', '0']
  else if isPlain c then [c]
  else ['\\', 'u', '\x7b'] ++ hex c.toNat ++ ['\x7d']

/-- The text between quotation marks. -/
def quote (text : String) : String :=
  String.ofList ('"' :: text.toList.flatMap quoteChar ++ ['"'])

end CommentBot.Text
