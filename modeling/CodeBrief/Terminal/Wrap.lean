import CodeBrief.Text.Cluster
import CodeBrief.Text.Blank

/-!
# Wrapping

A line that is wider than the terminal is broken in front of the first word that
does not fit. The blanks behind a word stay with it, at the end of its line, as
far as the line has room for them. A word that is wider than a whole line is
either cut into pieces of the width of a line, or stands on a line of its own
and ends in an ellipsis.
-/

namespace CodeBrief.Terminal

/-- The width of the terminal in cells. -/
def screenWidth : Nat := 80

/-- What becomes of a word that is wider than a line. -/
inductive Overflow where
  | fold
  | ellipsis
  deriving DecidableEq, Repr

/-- Runs of characters that start where blanks end. -/
def runs : List Char → List (List Char)
  | [] => []
  | c :: cs =>
      match runs cs with
      | [] => [[c]]
      | [] :: rest => [c] :: rest
      | (d :: run) :: rest =>
          if Text.isBlank c && !Text.isBlank d then [c] :: (d :: run) :: rest
          else (c :: d :: run) :: rest

/-- The words of a line with the blanks behind them; blanks in front belong to the first word. -/
def words (line : List Char) : List (List Char) :=
  match runs line with
  | first :: second :: rest =>
      if first.all Text.isBlank then (first ++ second) :: rest else first :: second :: rest
  | short => short

/-- Lines that are complete, last first, and the line that words are being put on. -/
structure Flow where
  complete : List (List Char)
  line : List Char
  used : Nat

/-- The lines after one more word. -/
def Flow.add (room : Nat) (overflow : Overflow) (f : Flow) (word : List Char) : Flow :=
  let size := Text.width (Text.dropEndWhile Text.isBlank word)
  if f.used + size ≤ room then ⟨f.complete, f.line ++ word, f.used + Text.width word⟩
  else
    let complete := if f.line.isEmpty then f.complete else f.line :: f.complete
    let pieces := if overflow = .fold ∧ room < size then Text.chop room word else [word]
    match pieces.reverse with
    | last :: earlier => ⟨earlier ++ complete, last, Text.width last⟩
    | [] => ⟨complete, [], 0⟩

/-- The lines that the words of a line are broken into. -/
def flow (room : Nat) (overflow : Overflow) (line : List Char) : List (List Char) :=
  let f := (words line).foldl (Flow.add room overflow) ⟨[], [], 0⟩
  (f.line :: f.complete).reverse

/-- A line without the blanks at its end that stand beyond a number of characters. -/
def dropExcessBlanks (room : Nat) (line : List Char) : List Char :=
  let blanks := (line.reverse.takeWhile Text.isBlank).length
  line.take (line.length - min blanks (line.length - room))

/-- A line cut to a number of cells. -/
def cut (room : Nat) (overflow : Overflow) (line : List Char) : List Char :=
  if room < Text.width line then
    match overflow with
    | .fold => Text.crop room line
    | .ellipsis => Text.crop (room - 1) line ++ ['…']
  else line

/-- Spaces in place of tabs, each up to the next multiple of `stop` by a measure of the piece before it. -/
def expandTabs (stop : Nat) (measure : List Char → Nat) (line : List Char) : List Char :=
  expand (Text.splitAtEach '\t' line)
where
  /-- Puts spaces between the pieces that the tabs divided. -/
  expand : List (List Char) → List Char
    | [] => []
    | [piece] => piece
    | piece :: next :: rest =>
        piece ++ List.replicate (stop - measure piece % stop) ' ' ++ expand (next :: rest)

/-- The lines of a text, none wider than a number of cells. -/
def wrap (room : Nat) (overflow : Overflow) (text : List Char) : List (List Char) :=
  (Text.lines text).flatMap fun line =>
    (flow room overflow (expandTabs 8 Text.width line)).map fun l =>
      cut room overflow (dropExcessBlanks room l)

/-- Lines with a line feed behind each of them. -/
def unlines (lines : List (List Char)) : List Char :=
  lines.flatMap (· ++ ['\n'])

/-- A text as a message of the terminal. -/
def paragraph (text : List Char) : List Char :=
  unlines (wrap screenWidth .fold text)

end CodeBrief.Terminal
