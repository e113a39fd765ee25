import CommentBot.Net.Domain.Table.Direction
import CommentBot.Text.Mark

/-!
# Directions in domain names

If a domain name has a label that is written from right to left, each of its labels must keep one direction.
-/

namespace CommentBot.Net.Domain

/-- The marks that are written like letters. -/
def letterMarks : Text.Ranges := [(0xCBF, 0xCBF), (0xCC6, 0xCC6), (0x11A07, 0x11A08), (0x11C3F, 0x11C3F)]

/-- The direction of a character. -/
def direction (c : Char) : Direction :=
  if Text.isNonspacing c then if letterMarks.contains c then .left else .nonspacing
  else match directionRuns.find? fun run => run.first ≤ c.toNat && c.toNat ≤ run.last with
    | some run => run.direction
    | none => .left

namespace Direction

/-- Whether a character of the direction makes a name one that is written from right to left. -/
def isBackward (d : Direction) : Bool := d = right || d = arabic || d = arabicNumber

/-- Whether a character of the direction may stand among others in a label, whatever the direction of that. -/
def isWeak (d : Direction) : Bool :=
  [europeanNumber, separator, commonSeparator, terminator, neutral, boundary, nonspacing].contains d

/-- Whether a label that begins from left to right keeps its direction. -/
def keepsForward (directions : List Direction) : Bool :=
  directions.all (fun d => d = left || d.isWeak) &&
    match directions.reverse.dropWhile (· = nonspacing) with
    | [] => true
    | d :: _ => d = left || d = europeanNumber

/-- Whether a label that begins from right to left keeps its direction. It may not hold numbers of both
kinds. -/
def keepsBackward (directions : List Direction) : Bool :=
  directions.all (fun d => d.isBackward || d.isWeak) &&
    (match directions.reverse.dropWhile (· = nonspacing) with
    | [] => true
    | d :: _ => d.isBackward || d = europeanNumber) &&
    !(directions.contains europeanNumber && directions.contains arabicNumber)

/-- Whether a label keeps one direction. -/
def areOfOneDirection : List Direction → Bool
  | [] => true
  | d :: rest =>
    if d = left then keepsForward (d :: rest)
    else (d = right || d = arabic) && keepsBackward (d :: rest)

end Direction

/-- Whether the directions of the labels of a domain name go together. -/
def directionsFit (labels : List (List Char)) : Bool :=
  let directions := labels.map (·.map direction)
  !directions.any (·.any Direction.isBackward) || directions.all Direction.areOfOneDirection

end CommentBot.Net.Domain
