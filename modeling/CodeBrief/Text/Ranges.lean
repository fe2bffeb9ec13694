/-!
# Sets of code points as ascending ranges

The character classes of this library that go beyond a handful of characters
are data of the Unicode Character Database. Each is an ascending list of closed
ranges, and membership walks the list until a range starts above the code
point.
-/

namespace CodeBrief.Text

/-- An ascending list of closed ranges of code points. -/
abbrev Ranges := List (Nat × Nat)

/-- Whether a code point lies in one of the ranges. -/
def Ranges.covers : Ranges → Nat → Bool
  | [], _ => false
  | (lo, hi) :: rest, n => if n < lo then false else n ≤ hi || Ranges.covers rest n

end CodeBrief.Text
