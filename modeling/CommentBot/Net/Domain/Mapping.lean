import CommentBot.Net.Domain.Table.Alphabetic
import CommentBot.Net.Domain.Table.Compatibility
import CommentBot.Net.Domain.Table.Supplementary
import CommentBot.Net.Domain.Table.Symbol
import CommentBot.Text.Compose
import CommentBot.Text.Table.Unprintable

/-!
# Characters of domain names

Before a domain name is looked at, capital letters become small ones, variants of a character become the
character, and what cannot be seen is dropped. Some characters may not be used at all.
-/

namespace CommentBot.Net.Domain

open Text

/-- What becomes of a character in a domain name. -/
inductive Treatment
  | kept
  | dropped
  | replaced (text : List Char)
  | refused
  deriving DecidableEq, Repr

/-- The characters that are replaced. -/
def replacements : Assignments :=
  .ofTables [alphabeticMapping, symbolMapping, compatibilityMapping, supplementaryMapping]

/-- The characters that are dropped. -/
def dropped : Ranges := [
  (0xAD, 0xAD), (0x34F, 0x34F), (0x115F, 0x1160), (0x17B4, 0x17B5), (0x180B, 0x180F), (0x200B, 0x200B),
  (0x2060, 0x2064), (0x206A, 0x206F), (0x3164, 0x3164), (0xFE00, 0xFE0F), (0xFEFF, 0xFEFF), (0xFFA0, 0xFFA0),
  (0x1BCA0, 0x1BCA3), (0x1D173, 0x1D17A), (0xE0100, 0xE01EF)]

/-- The characters with a printed form that are refused nevertheless. -/
def refusedPrintable : Ranges := [
  (0x2024, 0x2026), (0x2488, 0x249B), (0x2FF0, 0x2FFF), (0x31EF, 0x31EF), (0x33C2, 0x33C2), (0x33C7, 0x33C7),
  (0x33D8, 0x33D8), (0xFE12, 0xFE12), (0xFE19, 0xFE19), (0xFE30, 0xFE30), (0xFE52, 0xFE52), (0xFFFC, 0xFFFD),
  (0x1F100, 0x1F100)]

/-- Whether the character asks its neighbours to be joined, or not to be. -/
def isJoiner (c : Char) : Bool := c = '\u200c' || c = '\u200d'

/-- The treatment of a character. Those of ASCII are judged elsewhere. -/
def treatment (c : Char) : Treatment :=
  match replacements.text? c with
  | some text => .replaced text
  | none =>
    if c.toNat < 128 || isJoiner c then .kept
    else if dropped.contains c then .dropped
    else if unprintable.contains c || refusedPrintable.contains c then .refused
    else .kept

/-- What a character becomes. -/
def mapChar? (c : Char) : Option (List Char) :=
  match treatment c with
  | .kept => some [c]
  | .dropped => some []
  | .replaced text => some text
  | .refused => none

/-- What a text becomes, in its composed form. -/
def mapText? (text : List Char) : Option (List Char) :=
  (text.mapM mapChar?).map fun parts => compose parts.flatten

/-- Whether the text is left as it is. -/
def isMapped (text : List Char) : Bool := text.all (treatment · = .kept) && compose text = text

end CommentBot.Net.Domain
