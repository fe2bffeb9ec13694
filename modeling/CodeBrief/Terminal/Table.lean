import CodeBrief.Terminal.Wrap

/-!
# Tables

A table has a title over its middle, a heavy frame around the heads of its
columns and a light one around its rows. A column is as wide as its widest cell.
If the table would be wider than the terminal, its yielding column gets what the
others leave, and cells that do not fit there are wrapped or end in an ellipsis.
-/

namespace CodeBrief.Terminal

/-- A column: its head, whether its cells stand at the right, and whether it yields to the others. -/
structure Column where
  head : String
  atRight : Bool
  yields : Bool

/-- A title, columns, and rows of a cell for each column. -/
structure Table where
  title : String
  columns : List Column
  rows : List (List (List Char))

/-- The characters of a frame: at the left end, all along, at a crossing, and at the right end. -/
structure Rule where
  left : Char
  along : Char
  crossing : Char
  right : Char

namespace Table

/-- The width of a cell on lines of its own. -/
def cellWidth (cell : List Char) : Nat :=
  ((Text.allLines cell).map Text.width).foldl max 0

/-- The widest cells of columns. -/
def widest : List (List (List Char)) → List Nat
  | [] => []
  | row :: rest =>
      let below := widest rest
      let here := row.map cellWidth
      if below.isEmpty then here else List.zipWith max here below

/-- The heads of the columns as a row. -/
def heads (t : Table) : List (List Char) :=
  t.columns.map fun c => c.head.toList

/-- The cells that a frame and the spaces beside the cells take. -/
def frameWidth (t : Table) : Nat := 3 * t.columns.length + 1

/-- The widths of the columns. -/
def widths (t : Table) : List Nat :=
  let natural := widest (t.heads :: t.rows)
  let room := screenWidth - t.frameWidth
  let excess := Text.total natural - room
  List.zipWith (fun c w => if c.yields then w - excess else w) t.columns natural

/-- The lines of a cell in a column of some width. -/
def cellLines (c : Column) (width : Nat) (cell : List Char) : List (List Char) :=
  (wrap width .ellipsis cell).map fun line =>
    if c.atRight then Text.padStart width (Text.dropEndWhile Text.isBlank line) else Text.pad width line

/-- A line of a frame. -/
def ruleLine (r : Rule) (widths : List Nat) : List Char :=
  r.left :: Text.join [r.crossing] (widths.map fun w => List.replicate (w + 2) r.along) ++ [r.right]

/-- One line of the cells of a row, with bars beside them. -/
def cellLine (bar : Char) (widths : List Nat) (i : Nat) (cells : List (List (List Char))) : List Char :=
  let shown := List.zipWith (fun w (lines : List (List Char)) =>
    ' ' :: (lines[i]?).getD (List.replicate w ' ') ++ [' ']) widths cells
  bar :: Text.join [bar] shown ++ [bar]

/-- The lines of a row. -/
def rowLines (t : Table) (bar : Char) (row : List (List Char)) : List (List Char) :=
  let widths := t.widths
  let cells := List.zipWith (fun (cw : Column × Nat) cell => cellLines cw.1 cw.2 cell)
    (t.columns.zip widths) row
  let height := (cells.map List.length).foldl max 0
  (List.range height).map fun i => cellLine bar widths i cells

/-- The lines of a table. -/
def lines (t : Table) : List (List Char) :=
  let widths := t.widths
  [Text.center (Text.total widths + t.frameWidth) ' ' t.title.toList, ruleLine ⟨'┏', '━', '┳', '┓'⟩ widths] ++
    t.rowLines '┃' t.heads ++ [ruleLine ⟨'┡', '━', '╇', '┩'⟩ widths] ++
    t.rows.flatMap (t.rowLines '│') ++ [ruleLine ⟨'└', '─', '┴', '┘'⟩ widths]

end Table
end CodeBrief.Terminal
