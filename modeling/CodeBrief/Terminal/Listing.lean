import CodeBrief.Terminal.Markup
import CodeBrief.Terminal.Wrap

/-!
# Listings

A listing shows a text as it is: tags are text, and a line that is wider than the
terminal is cut. Every line is padded to the width of the terminal. A mark of the
byte order at the front is left out.
-/

namespace CodeBrief.Terminal

/-- A line of a listing, with tab stops after every fourth character. -/
def listedLine (line : List Char) : List Char :=
  let shown := (expandTabs 4 List.length line).filter fun c => !Markup.isActing c
  Text.pad screenWidth (cut screenWidth .fold (dropExcessBlanks screenWidth shown))

/-- A text without a mark of the byte order in front. -/
def dropOrderMark : List Char → List Char
  | c :: cs => if c.toNat = 0xFEFF then cs else c :: cs
  | [] => []

/-- A text as a listing. -/
def listing (text : List Char) : List Char :=
  unlines ((Text.lines (dropOrderMark text)).map listedLine)

end CodeBrief.Terminal
