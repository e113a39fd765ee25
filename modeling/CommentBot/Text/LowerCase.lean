import CommentBot.Text.Table.Cased
import CommentBot.Text.Table.CaseIgnorable
import CommentBot.Text.Table.Lower

/-!
# Lower case

The full lower-case form of a text. Two letters are special: a dotted capital I becomes two characters,
and a capital sigma has another small form where it ends a word, which only its neighbours tell.
-/

namespace CommentBot.Text

/-- The character that the runs of capital letters assign to `c`, or `c` itself. -/
def simpleLower (c : Char) : Char :=
  match lowerRuns.find? (·.contains c.toNat) with
  | some run => Char.ofNat (c.toNat + run.shift).toNat
  | none => c

/-- Whether the next character that counts, on one side of a letter, is a letter with case. -/
def caseFollows (side : List Char) : Bool :=
  match side.dropWhile (caseIgnorable.contains ·) with
  | [] => false
  | c :: _ => cased.contains c

/-- The small form of `c` between the characters `before` it, the nearest first, and `after` it. -/
def lowerChar (before : List Char) (c : Char) (after : List Char) : List Char :=
  if c = 'İ' then ['i', '\u0307']
  else if c = 'Σ' then
    if caseFollows before && !caseFollows after then ['ς'] else ['σ']
  else [simpleLower c]

/-- The small form of a text that stands after the characters `before`, the nearest first. -/
def lowerFrom (before : List Char) : List Char → List Char
  | [] => []
  | c :: rest => lowerChar before c rest ++ lowerFrom (c :: before) rest

/-- The small form of a text. -/
def lower (text : List Char) : List Char := lowerFrom [] text

end CommentBot.Text
