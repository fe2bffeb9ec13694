import CodeBrief.Text.Wide
import CodeBrief.Path

/-!
# Glob patterns

A pattern is a list of parts: a star stands for any text, slashes and line feeds
included, a question mark for any character, a set in brackets for one character
in it or not in it, and every other character for itself. A bracket that is never
closed stands for itself. Half of a surrogate pair is a character of a pattern like
others, but paths are texts, so it can only matter as the end of a range.

The main statement is `matchParts_literals`: a pattern of plain characters
matches itself and nothing else.
-/

namespace CodeBrief.Glob

open Text (Point Wide)

/-- A pattern as it is spelled. -/
abbrev Pattern := List Point

/-- A member of a set: a character, or the characters from one to another. -/
inductive Item where
  | one (p : Point)
  | range (low high : Point)
  deriving DecidableEq, Repr

/-- Whether a character is in a member of a set. -/
def Item.contains : Item → Char → Bool
  | one p, c => p == .char c
  | range low high, c => low.code ≤ c.toNat && c.toNat ≤ high.code

/-- Whether a range holds nothing. -/
def Item.isEmpty : Item → Bool
  | one _ => false
  | range low high => high.code < low.code

/-- A part of a pattern. -/
inductive Part where
  | star
  | any
  | literal (p : Point)
  | set (negated : Bool) (items : List Item)
  deriving DecidableEq, Repr

/-- Whether a part other than the star stands for a character. -/
def Part.contains : Part → Char → Bool
  | star, _ => false
  | any, _ => true
  | literal p, c => p == .char c
  | set negated items, c => negated != items.any (·.contains c)

/-- The members between brackets. A hyphen between two characters makes a range of them, unless one of them already ended a range. -/
def itemsOf : Pattern → List Item
  | x :: .char '-' :: y :: rest => .range x y :: itemsOf rest
  | x :: rest => .one x :: itemsOf rest
  | [] => []

/-- The set of a text between brackets. Empty ranges are left out, and an exclamation mark that then comes first negates the rest. -/
def setOf : Pattern → Part
  | .char '!' :: body => .set true ((itemsOf body).filter (!·.isEmpty))
  | body =>
      match (itemsOf body).filter (!·.isEmpty) with
      | .one (.char '!') :: rest => .set true rest
      | .range (.char '!') high :: rest => .set true (.one (.char '-') :: .one high :: rest)
      | items => .set false items

/-- What stands first in a set, where a bracket does not close it, and the rest. -/
def openSet : Pattern → Pattern × Pattern
  | .char '!' :: .char ']' :: rest => ([.char '!', .char ']'], rest)
  | .char '!' :: rest => ([.char '!'], rest)
  | .char ']' :: rest => ([.char ']'], rest)
  | rest => ([], rest)

/-- The text up to the bracket that closes a set, and what follows it. -/
def closeSet (cs : Pattern) : Option (Pattern × Pattern) :=
  match (openSet cs).2.dropWhile (· ≠ .char ']') with
  | _ :: after => some ((openSet cs).1 ++ (openSet cs).2.takeWhile (· ≠ .char ']'), after)
  | [] => none

theorem openSet_length (cs : Pattern) : (openSet cs).2.length ≤ cs.length := by
  unfold openSet
  split
  · simp only [List.length_cons]
    omega
  · exact Nat.le_succ _
  · exact Nat.le_succ _
  · exact Nat.le_refl _

theorem closeSet_length {cs body after : Pattern} (h : closeSet cs = some (body, after)) :
    after.length < cs.length := by
  unfold closeSet at h
  split at h
  · next x a hd =>
      have suffix := (List.dropWhile_suffix (l := (openSet cs).2) (fun p => decide (p ≠ .char ']'))).length_le
      rw [hd] at suffix
      simp only [Option.some.injEq, Prod.mk.injEq] at h
      obtain ⟨_, rfl⟩ := h
      have := openSet_length cs
      simp only [List.length_cons] at suffix
      omega
  · cases h

/-- The parts of a pattern. -/
def partsOf : Pattern → List Part
  | [] => []
  | .char '*' :: rest => .star :: partsOf rest
  | .char '?' :: rest => .any :: partsOf rest
  | .char '[' :: rest =>
      match _closed : closeSet rest with
      | some (body, after) => setOf body :: partsOf after
      | none => .literal (.char '[') :: partsOf rest
  | p :: rest => .literal p :: partsOf rest
  termination_by cs => cs.length
  decreasing_by
    all_goals simp only [List.length_cons]
    all_goals first
      | omega
      | exact Nat.lt_succ_of_lt (closeSet_length _closed)

/-- Whether a text or one of its ends passes a test. -/
def someEnd (test : List Char → Bool) : List Char → Bool
  | [] => test []
  | c :: cs => test (c :: cs) || someEnd test cs

/-- Whether parts stand for a text. -/
def matchParts : List Part → List Char → Bool
  | [], cs => cs.isEmpty
  | .star :: ps, cs => someEnd (matchParts ps) cs
  | _ :: _, [] => false
  | p :: ps, c :: cs => p.contains c && matchParts ps cs

/-- Parts without a star that follows another. -/
def squeeze : List Part → List Part
  | .star :: .star :: ps => squeeze (.star :: ps)
  | p :: ps => p :: squeeze ps
  | [] => []

/-- Whether a pattern stands for a text. -/
def isMatch (text : String) (pattern : Pattern) : Bool :=
  matchParts (squeeze (partsOf pattern)) text.toList

theorem matchParts_literals (p : Pattern) (cs : List Char) :
    matchParts (p.map .literal) cs = true ↔ p = cs.map .char := by
  induction p generalizing cs with
  | nil => cases cs <;> simp [matchParts]
  | cons x p ih =>
      cases cs with
      | nil => simp [matchParts]
      | cons c cs =>
          simp only [List.map_cons, matchParts, Part.contains, Bool.and_eq_true, beq_iff_eq, ih,
            List.cons.injEq]

/-- Patterns for the files with one of the extensions, at any depth. -/
def ofExtensions (extensions : List Wide) : List Pattern :=
  extensions.map fun e => Text.points "**/*." ++ e.points.dropWhile (· == .char '.')

/-- Whether a path is wanted; a pattern that starts in any folder is also tried without that start. -/
def includes (patterns : List Pattern) (path : String) : Bool :=
  patterns.any fun p =>
    isMatch path p ||
      match p with
      | .char '*' :: .char '*' :: .char '/' :: rest => isMatch path rest
      | _ => false

/-- Whether a pattern stands for a path or for one of its components. -/
def excludes (patterns : List Pattern) (path : String) : Bool :=
  patterns.any fun p =>
    isMatch path p || (Path.ofString path).parts.any fun component => isMatch component p

end CodeBrief.Glob
