import CodeBrief.Text.Basic

/-!
# Blank characters

Two classes. `isBlank` is what a strip of a line and a gap between two words
consist of; it has the four information separators U+001C to U+001F, which
`isSpace`, the white space of a number written as text, has not.
-/

namespace CodeBrief.Text

/-- White space by the Unicode property of that name. -/
def isSpace (c : Char) : Bool :=
  let n := c.toNat
  (0x09 ≤ n && n ≤ 0x0D) || n = 0x20 || n = 0x85 || n = 0xA0 || n = 0x1680 ||
    (0x2000 ≤ n && n ≤ 0x200A) || n = 0x2028 || n = 0x2029 || n = 0x202F || n = 0x205F || n = 0x3000

/-- White space and the information separators. -/
def isBlank (c : Char) : Bool :=
  isSpace c || (0x1C ≤ c.toNat && c.toNat ≤ 0x1F)

/-- A text without the blanks at its ends. -/
def strip (cs : List Char) : List Char :=
  stripBy isBlank cs

end CodeBrief.Text
