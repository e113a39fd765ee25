import CommentBot.Net.Domain.Mapping
import CommentBot.Net.Domain.Punycode
import CommentBot.Net.Domain.Table.Joining
import CommentBot.Text.Mark

/-!
# Labels of domain names

The parts of a domain name between its points.
-/

namespace CommentBot.Net.Domain

open Text

/-! ## Joiners -/

/-- Whether the first letter, behind marks, is one of the table. -/
def reaches (table : Ranges) : List Char → Bool
  | [] => false
  | c :: rest => table.contains c || ((isNonspacing c || c.toNat = 0x1E94B) && reaches table rest)

/-- Whether a joiner may stand between the characters `before` it, the nearest first, and `after` it: behind a
virama, and if it parts letters also where these would be joined. -/
def joinerFits (before : List Char) (joiner : Char) (after : List Char) : Bool :=
  match before with
  | [] => false
  | c :: _ =>
    combiningClass c = 9 ||
      (joiner = '\u200c' && reaches (leftJoining ++ dualJoining) before &&
        reaches (rightJoining ++ dualJoining) after)

/-- Whether all joiners may stand where they do, behind the characters `before`, the nearest first. -/
def joinersFit (before : List Char) : List Char → Bool
  | [] => true
  | c :: rest => (!isJoiner c || joinerFits before c rest) && joinersFit (c :: before) rest

/-! ## Labels -/

/-- Whether an ASCII character may not stand in a domain name. -/
def isForbidden (c : Char) : Bool :=
  c.toNat ≤ 32 || c.toNat = 127 || "%#/:<>?@[\\]^|".toList.contains c

/-- Whether the character is one of ASCII. -/
def isAscii (c : Char) : Bool := c.toNat < 128

/-- Whether a label is fit for use, once its characters have been mapped. -/
def isLabel (label : List Char) : Bool :=
  !label.any isForbidden && !(label.head?.any isMark) && joinersFit [] label &&
    (label.all isAscii || label.length ≤ 1000)

/-- A label that is written in ASCII, behind the sign of such labels. -/
def decodeLabel? (code : List Char) : Option (List Char) := do
  if code.isEmpty || code.getLast? = some '-' || !code.all isAscii || 2000 < code.length then none
  let label ← Punycode.decode? code
  if isMapped label && !"xn--".toList.isPrefixOf label then some label else none

/-- The label that a mapped text writes, if it is fit for use. -/
def readLabel? (text : List Char) : Option (List Char) := do
  let label ← match text with
    | 'x' :: 'n' :: '-' :: '-' :: code => decodeLabel? code
    | label => some label
  if isLabel label then some label else none

end CommentBot.Net.Domain
