import Std.Data.HashMap

/-!
# Tables of assignments

A large table that assigns texts to characters is kept as a text itself. Its words stand between blanks, and
each begins with the code point of a character; all numbers are hexadecimal.

* `c0>41.300,41.301` assigns two characters to U+00C0 and two to the character behind it.
* `41-5a>61` assigns to each character of a run the one that lies as far behind U+0061.
* `100-12e/2>101` does so for every second character of a run.
-/

namespace CommentBot.Text

/-- What tables assign to characters, by their code points. -/
abbrev Assignments := Std.HashMap Nat (List Char)

namespace Assignments

/-- The value of a hexadecimal digit in small letters. -/
def digit (c : Char) : Nat := if c.isDigit then c.toNat - 48 else c.toNat - 87

/-- The number that hexadecimal digits write. -/
def number (digits : List Char) : Nat := digits.foldl (fun n c => 16 * n + digit c) 0

/-- The character of which the code point is written. -/
def character (digits : List Char) : Char := Char.ofNat (number digits)

/-- The parts of a text before and behind a mark. -/
def cut (mark : Char) (text : List Char) : List Char × List Char :=
  (text.takeWhile (· ≠ mark), (text.dropWhile (· ≠ mark)).drop 1)

/-- Every `step`-th character of a run, with the character as far behind `target`. -/
def ofRun (first last step target : Nat) : List (Char × List Char) :=
  (List.range ((last - first) / step + 1)).map fun i =>
    (Char.ofNat (first + step * i), [Char.ofNat (target + step * i)])

/-- Characters one behind the other, with a text each. -/
def ofTexts (first : Nat) (texts : List (List Char)) : List (Char × List Char) :=
  texts.mapIdx fun i text => (Char.ofNat (first + i), (text.splitOn '.').map character)

/-- What one word assigns. -/
def ofWord (word : List Char) : List (Char × List Char) :=
  let (source, target) := cut '>' word
  let (first, run) := cut '-' source
  if run.isEmpty then ofTexts (number first) (target.splitOn ',')
  else
    let (last, step) := cut '/' run
    ofRun (number first) (number last) (if step.isEmpty then 1 else number step) (number target)

/-- What all words of a table assign, in their order. -/
def ofTable (table : String) : List (Char × List Char) :=
  (table.toList.splitOnP Char.isWhitespace).flatMap fun word => if word.isEmpty then [] else ofWord word

/-- The assignments of a list of them. -/
def ofList (assigned : List (Char × List Char)) : Assignments :=
  Std.HashMap.ofList (assigned.map fun (c, text) => (c.toNat, text))

/-- What some tables assign. -/
def ofTables (tables : List String) : Assignments := ofList (tables.flatMap ofTable)

/-- The text assigned to a character. -/
def text? (assignments : Assignments) (c : Char) : Option (List Char) := assignments[c.toNat]?

end Assignments

end CommentBot.Text
