import CommentBot.Text.Ranges

/-!
# Blank text
-/

namespace CommentBot.Text

/-- The code points with the property `White_Space`. -/
def whiteSpace : Ranges := [
  (0x9, 0xD), (0x20, 0x20), (0x85, 0x85), (0xA0, 0xA0), (0x1680, 0x1680), (0x2000, 0x200A),
  (0x2028, 0x2029), (0x202F, 0x202F), (0x205F, 0x205F), (0x3000, 0x3000)]

/-- Whether the character only separates others. -/
def isBlank (c : Char) : Bool := whiteSpace.contains c

/-- Whether nothing of the text would be seen. -/
def allBlank (text : String) : Bool := text.toList.all isBlank

/-- Drops the blanks in front. -/
def trimStart (text : List Char) : List Char := text.dropWhile isBlank

end CommentBot.Text
