import CommentBot.Text.Assignment
import CommentBot.Text.Table.CombiningClass
import CommentBot.Text.Table.Composition

/-!
# Composed texts

A letter with marks can be written in several ways: its marks in several orders, and some of them as one
character together with the letter. `compose` chooses the one with the marks in their canonical order and as
many of them as possible united with their letter.

A character that stands for others without being composed of two is taken as it is.
-/

namespace CommentBot.Text

/-! ## Marks in order -/

/-- The place of a mark among others on the same letter. Marks of the same class keep their order, and
characters of class zero are not moved. -/
def combiningClass (c : Char) : Nat :=
  if c.toNat < 0x300 then 0
  else match classRuns.find? fun run => run.first ≤ c.toNat && c.toNat ≤ run.last with
    | some run => run.combiningClass
    | none => 0

/-- Puts a character in front of a text with its marks in order. -/
def insertMark (c : Char) : List Char → List Char
  | [] => [c]
  | d :: rest =>
    if combiningClass d ≠ 0 && combiningClass d < combiningClass c then d :: insertMark c rest
    else c :: d :: rest

/-- The text with its marks in order. -/
def orderMarks (text : List Char) : List Char := text.foldr insertMark []

/-! ## Parts -/

/-- The composed characters with their two parts. -/
def compositions : List (Char × List Char) := Assignments.ofTable compositionTable

/-- The parts of a composed character. -/
def partsOf : Assignments := .ofList compositions

/-- The characters that are composed of two, by the code points of the two. -/
def composedOf : Std.HashMap (List Nat) Char :=
  Std.HashMap.ofList (compositions.map fun (c, parts) => (parts.map Char.toNat, c))

/-- The first syllable of Hangul. There are 28 with each pair of a consonant and a vowel, and 588 with each
consonant. -/
def firstSyllable : Nat := 0xAC00

/-- The consonants with which a syllable begins, its vowels, and the consonants with which it ends, of which
the first is none. -/
def firstLead : Nat := 0x1100

@[inherit_doc firstLead]
def firstVowel : Nat := 0x1161

@[inherit_doc firstLead]
def firstTail : Nat := 0x11A7

/-- The letters of a syllable of Hangul. -/
def lettersOf? (c : Char) : Option (List Char) :=
  if firstSyllable ≤ c.toNat && c.toNat < firstSyllable + 11172 then
    let n := c.toNat - firstSyllable
    let syllable := [Char.ofNat (firstLead + n / 588), Char.ofNat (firstVowel + n % 588 / 28)]
    some (if n % 28 = 0 then syllable else syllable ++ [Char.ofNat (firstTail + n % 28)])
  else none

/-- The syllable that two letters, or a syllable and a letter, make. -/
def syllableOf? (a b : Char) : Option Char :=
  let lead := a.toNat - firstLead
  let open? := firstSyllable ≤ a.toNat && a.toNat < firstSyllable + 11172 && (a.toNat - firstSyllable) % 28 = 0
  if firstLead ≤ a.toNat && lead < 19 && firstVowel ≤ b.toNat && b.toNat < firstVowel + 21 then
    some (Char.ofNat (firstSyllable + 588 * lead + 28 * (b.toNat - firstVowel)))
  else if open? && firstTail < b.toNat && b.toNat < firstTail + 28 then
    some (Char.ofNat (a.toNat + (b.toNat - firstTail)))
  else none

/-- The character composed of two. -/
def composite? (a b : Char) : Option Char := (syllableOf? a b).or composedOf[[a.toNat, b.toNat]]?

/-- The parts of a character, taken apart up to `depth` times. -/
def takeApart : Nat → Char → List Char
  | 0, c => [c]
  | depth + 1, c =>
    match (lettersOf? c).or (partsOf.text? c) with
    | some parts => parts.flatMap (takeApart depth)
    | none => [c]

/-! ## The composed text -/

/-- Unites the letter `base` with what follows. Between them stand the characters `between`, the last one
first, that could not be united with it; a mark cannot pass one of its own class or a higher one. -/
def uniteFrom (base : Char) (between : List Char) : List Char → List Char
  | [] => base :: between.reverse
  | c :: rest =>
    let passes := match between with
      | [] => true
      | d :: _ => combiningClass d < combiningClass c
    match if passes then composite? base c else none with
    | some composed => uniteFrom composed between rest
    | none =>
      if combiningClass c = 0 then base :: between.reverse ++ uniteFrom c [] rest
      else uniteFrom base (c :: between) rest

/-- Unites the letters of a text with their marks. -/
def unite (text : List Char) : List Char :=
  let leading := text.takeWhile (combiningClass · ≠ 0)
  match text.drop leading.length with
  | [] => leading
  | c :: rest => leading ++ uniteFrom c [] rest

/-- The composed form of a text. No character comes apart more than three times. -/
def compose (text : List Char) : List Char := unite (orderMarks (text.flatMap (takeApart 3)))

end CommentBot.Text
