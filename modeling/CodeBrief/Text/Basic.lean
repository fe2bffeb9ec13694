/-!
# Texts as lists of characters

Every length and every cut of this library counts characters, so texts are
handled as `List Char` and stored as `String`. This module holds the cuts,
searches and splits that the other modules share.

`lines` inverts joining with line feeds (`join_splitAtEach`), and a strip takes
characters from both ends only.
-/

namespace CodeBrief.Text

section Ends

variable {α : Type} (p : α → Bool)

/-- The text without the characters at its end that satisfy `p`. -/
def dropEndWhile (cs : List α) : List α :=
  (cs.reverse.dropWhile p).reverse

/-- The text without the characters at both ends that satisfy `p`. -/
def stripBy (cs : List α) : List α :=
  dropEndWhile p (cs.dropWhile p)

end Ends

/-- Whether `needle` starts `text`. -/
def startsWith : (needle text : List Char) → Bool
  | [], _ => true
  | _ :: _, [] => false
  | n :: ns, c :: cs => n == c && startsWith ns cs

/-- What follows `needle` in a text that starts with it. -/
def dropStart? : (needle text : List Char) → Option (List Char)
  | [], cs => some cs
  | _ :: _, [] => none
  | n :: ns, c :: cs => if n = c then dropStart? ns cs else none

/-- Whether `needle` occurs in `text`. -/
def occursIn (needle : List Char) : List Char → Bool
  | [] => needle.isEmpty
  | c :: cs => startsWith needle (c :: cs) || occursIn needle cs

/-- The position of the first occurrence of `needle`. -/
def indexOf? (needle : List Char) : List Char → Option Nat
  | [] => if needle.isEmpty then some 0 else none
  | c :: cs =>
      if startsWith needle (c :: cs) then some 0
      else (indexOf? needle cs).map (· + 1)

/-- The position of the last occurrence of a character. -/
def lastIndexOf? (x : Char) : List Char → Option Nat
  | [] => none
  | c :: cs =>
      match lastIndexOf? x cs with
      | some i => some (i + 1)
      | none => if c = x then some 0 else none

/-- The pieces of a text between the occurrences of a character; there is always one. -/
def splitAtEach (sep : Char) : List Char → List (List Char)
  | [] => [[]]
  | c :: cs =>
      if c = sep then [] :: splitAtEach sep cs
      else match splitAtEach sep cs with
        | [] => [[c]]
        | piece :: rest => (c :: piece) :: rest

/-- The lines of a text, which are divided by line feeds. -/
def lines (cs : List Char) : List (List Char) :=
  splitAtEach '\n' cs

/-- Joins texts with a separator between neighbours. -/
def join (sep : List Char) : List (List Char) → List Char
  | [] => []
  | [x] => x
  | x :: y :: rest => x ++ sep ++ join sep (y :: rest)

/-- The sum of lengths or widths. -/
def total (ns : List Nat) : Nat :=
  ns.foldr (· + ·) 0

/-- The characters that end a line in a list of patterns. -/
def isLineBreak (c : Char) : Bool :=
  c.toNat ∈ [0x0A, 0x0B, 0x0C, 0x0D, 0x1C, 0x1D, 0x1E, 0x85, 0x2028, 0x2029]

/-- The text up to its first line break, and what follows the break if there is one. -/
def breakLine : List Char → List Char × Option (List Char)
  | [] => ([], none)
  | '\r' :: '\n' :: cs => ([], some cs)
  | c :: cs =>
      if isLineBreak c then ([], some cs)
      else match breakLine cs with
        | (line, rest) => (c :: line, rest)

/-- Splits at line breaks of every kind; a break at the end starts no further line. -/
def splitLines : (fuel : Nat) → List Char → List (List Char)
  | 0, _ => []
  | _, [] => []
  | fuel + 1, c :: cs =>
      match breakLine (c :: cs) with
      | (line, some rest) => line :: splitLines fuel rest
      | (line, none) => [line]

/-- The lines of a text under every kind of line break. -/
def allLines (cs : List Char) : List (List Char) :=
  splitLines cs.length cs

/-- Line feeds in place of the pairs and single characters that other systems write. -/
def normalizeBreaks : List Char → List Char
  | [] => []
  | '\r' :: '\n' :: cs => '\n' :: normalizeBreaks cs
  | '\r' :: cs => '\n' :: normalizeBreaks cs
  | c :: cs => c :: normalizeBreaks cs

theorem splitAtEach_ne_nil (sep : Char) (cs : List Char) : splitAtEach sep cs ≠ [] := by
  cases cs with
  | nil => simp [splitAtEach]
  | cons c cs =>
      simp only [splitAtEach]
      split
      · simp
      · split <;> simp

theorem join_splitAtEach (sep : Char) (cs : List Char) : join [sep] (splitAtEach sep cs) = cs := by
  induction cs with
  | nil => rfl
  | cons c cs ih =>
      simp only [splitAtEach]
      obtain ⟨p, rest, hs⟩ := List.exists_cons_of_ne_nil (splitAtEach_ne_nil sep cs)
      rw [hs] at ih ⊢
      split
      · next h => simp [join, ih, h]
      · cases rest with
        | nil => simp only [join] at ih ⊢; rw [ih]
        | cons q r => simp only [join] at ih ⊢; rw [← ih]; simp

end CodeBrief.Text
