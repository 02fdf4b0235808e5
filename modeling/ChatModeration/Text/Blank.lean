/-
ChatModeration.Text.Blank — white space and line terminators.

The set is that of Unicode space separators together with the ASCII controls
U+0009–000D, the line and paragraph separators and the byte order mark; U+0085,
U+180E and U+200B are not in it.
-/
import ChatModeration.Text.Basic

namespace ChatModeration

namespace CodeUnit

/-- White space. -/
def isBlank (u : CodeUnit) : Bool :=
  (0x09 ≤ u && u ≤ 0x0D) || u == 0x20 || u == 0xA0 || u == 0x1680 ||
  (0x2000 ≤ u && u ≤ 0x200A) || u == 0x2028 || u == 0x2029 || u == 0x202F || u == 0x205F ||
  u == 0x3000 || u == 0xFEFF

/-- The units that end a line: LF, CR, U+2028 and U+2029. -/
def isLineEnd (u : CodeUnit) : Bool := u == 0x0A || u == 0x0D || u == 0x2028 || u == 0x2029

end CodeUnit

namespace Text

def trimStart (t : Text) : Text := t.dropWhile CodeUnit.isBlank

def trimEnd (t : Text) : Text := (t.reverse.dropWhile CodeUnit.isBlank).reverse

/-- White space removed from both ends. -/
def trim (t : Text) : Text := trimEnd (trimStart t)

end Text

end ChatModeration
