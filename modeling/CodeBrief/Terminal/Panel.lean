import CodeBrief.Terminal.Wrap

/-!
# Panels

A panel is a box of the width of the terminal with round corners around a text.
It may have a title in the middle of its top line.
-/

namespace CodeBrief.Terminal

/-- The title of a panel, the spaces beside its text, and the empty lines above and below. -/
structure Panel where
  title : String
  beside : Nat
  above : Nat

namespace Panel

/-- The top line of a panel. -/
def top (p : Panel) : List Char :=
  let inside := screenWidth - 2
  if p.title = "" then '╭' :: List.replicate inside '─' ++ ['╮']
  else
    let title := ' ' :: p.title.toList ++ [' ']
    ['╭', '─'] ++ Text.center (inside - 2) '─' (Text.crop (inside - 2) title) ++ ['─', '╮']

/-- A line of a panel. -/
def row (p : Panel) (line : List Char) : List Char :=
  let side := List.replicate p.beside ' '
  '│' :: side ++ Text.pad (screenWidth - 2 - 2 * p.beside) line ++ side ++ ['│']

/-- The lines of a panel around a text. -/
def lines (p : Panel) (text : List Char) : List (List Char) :=
  let room := screenWidth - 2 - 2 * p.beside
  let blank := List.replicate p.above (p.row [])
  p.top :: blank ++ (wrap room .fold text).map p.row ++ blank ++
    ['╰' :: List.replicate (screenWidth - 2) '─' ++ ['╯']]

end Panel
end CodeBrief.Terminal
