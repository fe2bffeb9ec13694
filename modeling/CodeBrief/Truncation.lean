import CodeBrief.Text.Basic

/-!
# Capping a text

A text longer than its limit is cut and ends in a marker. The cut moves back to
the last line feed if that keeps more than four fifths of what fits beside the
marker. A limit that has no room for more than the marker cuts without it.
-/

namespace CodeBrief

/-- What a cut text ends in. -/
def truncationMarker : List Char :=
  "\n\n// ... (content truncated)".toList

/-- The cap for a text of which no structure is found. -/
def fallbackLimit : Int := 1000

/-- Where a text is cut that may keep `room` characters: at a late line feed, else at the end of the room. -/
def cutPoint (cs : List Char) (room : Nat) : Nat :=
  match Text.lastIndexOf? '\n' (cs.take room) with
  | some i => if 4 * room < 5 * i then i else room
  | none => room

/-- A text capped at a number of characters, which may be negative. -/
def truncateChars (cs : List Char) (limit : Int) : List Char :=
  if (cs.length : Int) ≤ limit then cs
  else if limit ≤ truncationMarker.length then cs.take limit.toNat
  else cs.take (cutPoint cs (limit.toNat - truncationMarker.length)) ++ truncationMarker

/-- A text capped at a number of characters, which may be negative. -/
def truncate (s : String) (limit : Int) : String :=
  String.ofList (truncateChars s.toList limit)

end CodeBrief
