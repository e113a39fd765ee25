import CommentBot.Text.Table.NonspacingMark
import CommentBot.Text.Table.SpacingMark

/-!
# Marks

A mark belongs to the character before it.
-/

namespace CommentBot.Text

/-- Whether the character is a mark without a place of its own. -/
def isNonspacing (c : Char) : Bool := nonspacingMarks.contains c

/-- Whether the character is a mark. -/
def isMark (c : Char) : Bool := isNonspacing c || spacingMarks.contains c

/-- The characters that combine with the one before them although they take a place or no place at all is
meant for them. The halfwidth sound marks U+FF9E and U+FF9F are left out: they stand for themselves. -/
def otherExtending : Ranges := [
  (0x9BE, 0x9BE), (0x9D7, 0x9D7), (0xB3E, 0xB3E), (0xB57, 0xB57), (0xBBE, 0xBBE), (0xBD7, 0xBD7),
  (0xCC0, 0xCC0), (0xCC2, 0xCC2), (0xCC7, 0xCC8), (0xCCA, 0xCCB), (0xCD5, 0xCD6), (0xD3E, 0xD3E),
  (0xD57, 0xD57), (0xDCF, 0xDCF), (0xDDF, 0xDDF), (0x1715, 0x1715), (0x1734, 0x1734), (0x1B35, 0x1B35),
  (0x1B3B, 0x1B3B), (0x1B3D, 0x1B3D), (0x1B43, 0x1B44), (0x1BAA, 0x1BAA), (0x1BF2, 0x1BF3),
  (0x200C, 0x200C), (0x302E, 0x302F), (0xA953, 0xA953), (0xA9C0, 0xA9C0), (0x111C0, 0x111C0),
  (0x11235, 0x11235), (0x1133E, 0x1133E), (0x1134D, 0x1134D), (0x11357, 0x11357), (0x113B8, 0x113B8),
  (0x113C2, 0x113C2), (0x113C5, 0x113C5), (0x113C7, 0x113C9), (0x113CF, 0x113CF), (0x114B0, 0x114B0),
  (0x114BD, 0x114BD), (0x115AF, 0x115AF), (0x116B6, 0x116B6), (0x11930, 0x11930), (0x1193D, 0x1193D),
  (0x11F41, 0x11F41), (0x16FF0, 0x16FF1), (0x1D165, 0x1D166), (0x1D16D, 0x1D172), (0xE0020, 0xE007F)]

/-- Whether the character combines with the one before it. -/
def isExtending (c : Char) : Bool := isNonspacing c || otherExtending.contains c

end CommentBot.Text
