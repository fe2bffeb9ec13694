import CodeBrief.Terminal.Markup
import CodeBrief.Terminal.Token

/-!
# Actions of tags

The parameters of an action are values, or a name with values in parentheses behind
it. A value is a number, quoted texts in a row, one of a few words, or more values
between commas in parentheses or braces. What stands in braces is a set, or a table if
its values have others behind colons. Neither can be a key in braces.
-/

namespace CodeBrief.Terminal.Action

open Text (Point)

/-- The kinds of values: numbers, others that can be a key in braces and others that cannot, and the
word `set`, which is a value only with a pair of parentheses behind it. -/
inductive Kind where
  | number (signed imaginary : Bool)
  | key
  | unkeyed
  | maker
  deriving DecidableEq, Repr

/-- A number behind a sign. -/
def Kind.signed? : Kind → Option Kind
  | .number false imaginary => some (.number true imaginary)
  | _ => none

/-- The sum of a real number and an imaginary one. -/
def Kind.sum? : Kind → Kind → Option Kind
  | .number _ false, .number false true => some .key
  | _, _ => none

/-- One of several values: its kind, the kind of the value behind its colon, and whether a comma
follows. -/
structure Item where
  kind : Kind
  value : Option Kind
  comma : Bool

/-- A single value in parentheses is itself. -/
def inParentheses? : List Item → Option Kind
  | [⟨kind, none, false⟩] => some kind
  | items =>
      if items.all fun i => i.kind ≠ .maker && i.value.isNone then
        some (if items.any (·.kind = .unkeyed) then .unkeyed else .key)
      else none

/-- All values in braces have another one behind a colon, or none. -/
def inBraces? (items : List Item) : Option Kind :=
  if (items.all (·.value.isNone) ∨ items.all (·.value.isSome)) ∧
      items.all fun i => i.kind ≠ .maker && i.kind ≠ .unkeyed && i.value ≠ some .maker then
    some .unkeyed
  else none

/-- The words that are values. -/
def words : List String :=
  ["None", "True", "False", "..."]

/-- The end of a value of some kind. -/
def close : Kind → List Token → Kind × List Token
  | .maker, .mark '(' :: .mark ')' :: ts => (.unkeyed, ts)
  | kind, ts => (kind, ts)

mutual

/-- The value at the front that is no sum and has no sign. -/
def atom? : (fuel : Nat) → List Token → Option (Kind × List Token)
  | 0, _ => none
  | _, .number imaginary :: ts => some (.number false imaginary, ts)
  | _, .text bytes :: ts =>
      let more := ts.takeWhile fun t => t = .text true || t = .text false
      if more.all (· = .text bytes) then some (.key, ts.drop more.length) else none
  | _, .word name :: ts =>
      if words.contains name then some (.key, ts)
      else if name = "set" then some (close .maker ts)
      else none
  | fuel + 1, .mark '(' :: ts => do
      let (items, rest) ← items? fuel (.mark ')') ts
      let kind ← inParentheses? items
      return close kind rest
  | fuel + 1, .mark '\x7b' :: ts => do
      let (items, rest) ← items? fuel (.mark '\x7d') ts
      let kind ← inBraces? items
      return (kind, rest)
  | _, _ => none

/-- The value at the front. -/
def value? : (fuel : Nat) → List Token → Option (Kind × List Token)
  | 0, _ => none
  | fuel + 1, t :: ts => do
      let isSign (t : Token) := t = .mark '+' || t = .mark '-'
      let (kind, rest) ← atom? fuel (if isSign t then ts else t :: ts)
      let kind ← if isSign t then kind.signed? else some kind
      if rest.head?.any isSign then
        let (other, rest) ← atom? fuel rest.tail
        let kind ← kind.sum? other
        return (kind, rest)
      else return (kind, rest)
  | _, [] => none

/-- The values up to a bracket, and what follows it. -/
def items? : (fuel : Nat) → (bracket : Token) → List Token → Option (List Item × List Token)
  | 0, _, _ => none
  | fuel + 1, bracket, ts =>
      if ts.head? = some bracket then some ([], ts.tail)
      else do
        let (kind, rest) ← value? fuel ts
        let (value, rest) ←
          if rest.head? = some (.mark ':') then (value? fuel rest.tail).map fun found => (some found.1, found.2)
          else some (none, rest)
        if rest.head? = some (.mark ',') then
          let (items, rest) ← items? fuel bracket rest.tail
          return (⟨kind, value, true⟩ :: items, rest)
        else if rest.head? = some bracket then return ([⟨kind, value, false⟩], rest.tail)
        else none

end

/-- The kind of one value, or of values between commas, that are all there is. -/
def values? (ts : List Token) : Option Kind := do
  let (items, rest) ← items? (4 * ts.length + 4) (.mark ')') (ts ++ [.mark ')'])
  if items.isEmpty || !rest.isEmpty then none
  else inParentheses? items

/-- Whether a text is values between commas. -/
def isValues (cs : List Char) : Bool :=
  ((Token.tokens? cs).bind values?).any (· ≠ .maker)

/-- Whether the parameters of a tag are an action. -/
def isAction (parameters : List Point) : Bool :=
  match (Text.stripBy Markup.isBlank parameters).mapM Point.char? with
  | none => false
  | some cs =>
      let values := cs.dropWhile fun c => Text.isWord c || c = '.'
      let isCall := values.head? = some '(' ∧ values.getLast? = some ')' ∧ '\n' ∉ values
      values.isEmpty || isValues (if isCall then values else cs)

end CodeBrief.Terminal.Action
