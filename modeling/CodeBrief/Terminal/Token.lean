import CodeBrief.Text.Basic
import CodeBrief.Text.Whole
import CodeBrief.Text.Word

/-!
# Tokens of values

Values are typed as numbers, quoted texts and words with marks between them. Gaps and
comments may stand between these tokens. The end of a line counts outside of brackets
only, and there a line must not be indented.

A character of a quoted text can be given by its number, but not by its name.
-/

namespace CodeBrief.Terminal

/-- A token of typed values. -/
inductive Token where
  | number (imaginary : Bool)
  | text (bytes : Bool)
  | word (name : String)
  | mark (c : Char)
  deriving DecidableEq, Repr

namespace Token

/-! ## Numbers -/

/-- Whether a character is a hexadecimal digit. -/
def isHex (c : Char) : Bool :=
  c.isDigit || 'a' ≤ c && c ≤ 'f' || 'A' ≤ c && c ≤ 'F'

/-- The digits of the base that a letter behind a zero stands for. -/
def digitsOf? : Char → Option (Char → Bool)
  | 'x' | 'X' => some isHex
  | 'o' | 'O' => some fun c => '0' ≤ c && c ≤ '7'
  | 'b' | 'B' => some fun c => c = '0' || c = '1'
  | _ => none

/-- What follows digits, each of which may stand behind a low line. -/
def afterMore (isDigit : Char → Bool) : List Char → List Char
  | '_' :: c :: cs => if isDigit c then afterMore isDigit cs else '_' :: c :: cs
  | c :: cs => if isDigit c then afterMore isDigit cs else c :: cs
  | [] => []

/-- What follows decimal digits with single low lines between them. -/
def afterDigits (cs : List Char) : List Char :=
  if cs.head?.any Char.isDigit then afterMore Char.isDigit cs else cs

/-- What follows the fraction of a number, if it has one. -/
def afterFraction : List Char → List Char
  | '.' :: cs => afterDigits cs
  | cs => cs

/-- What follows the exponent of a number, if it has one. -/
def afterExponent (cs : List Char) : List Char :=
  let digits := match cs.tail with
    | '+' :: ds => ds
    | '-' :: ds => ds
    | ds => ds
  if (cs.head? = some 'e' ∨ cs.head? = some 'E') ∧ digits.head?.any Char.isDigit then afterDigits digits
  else cs

/-- A decimal number at the front of a text. A whole number has not too many digits, and no zeros in
front of other digits. -/
def decimal? (cs : List Char) : Option (Token × List Char) :=
  let behindWhole := afterDigits cs
  match afterExponent (afterFraction behindWhole) with
  | 'j' :: rest => some (.number true, rest)
  | 'J' :: rest => some (.number true, rest)
  | rest =>
      let digits := (cs.take (cs.length - behindWhole.length)).filter Char.isDigit
      if rest.length = behindWhole.length ∧
          (Text.typedDigits < digits.length ∨ digits.head? = some '0' ∧ digits.any (· ≠ '0')) then none
      else some (.number false, rest)

/-- A number at the front of a text. -/
def number? : List Char → Option (Token × List Char)
  | '0' :: letter :: cs =>
      match digitsOf? letter with
      | some isDigit =>
          let rest := afterMore isDigit cs
          if rest.length < cs.length then some (.number false, rest) else none
      | none => decimal? ('0' :: letter :: cs)
  | cs => decimal? cs

/-! ## Quoted texts -/

/-- Whether a character is a quote. -/
def isQuote (c : Char) : Bool :=
  c = '\'' || c = '"'

/-- The characters up to some quotes, and what follows these. A backslash keeps the next character from
ending the text, and only a text in three quotes has more than one line. -/
def quoted? (quotes : List Char) : List Char → Option (List Char × List Char)
  | [] => none
  | '\\' :: c :: cs => (quoted? quotes cs).map fun found => ('\\' :: c :: found.1, found.2)
  | c :: cs =>
      match Text.dropStart? quotes (c :: cs) with
      | some rest => some ([], rest)
      | none =>
          if c = '\n' ∧ quotes.length = 1 then none
          else (quoted? quotes cs).map fun found => (c :: found.1, found.2)

/-- How many hexadecimal digits follow a letter behind a backslash. -/
def escapeLength (bytes : Bool) : Char → Nat
  | 'x' => 2
  | 'u' => if bytes then 0 else 4
  | 'U' => if bytes then 0 else 8
  | _ => 0

/-- Whether eight hexadecimal digits are the number of a character. -/
def isCharacter : List Char → Bool
  | '0' :: '0' :: '1' :: d :: _ => d = '0'
  | ds => ds.take 3 = ['0', '0', '0']

/-- Whether all characters that are given behind backslashes can be read. -/
def readsEscapes (bytes : Bool) : List Char → Bool
  | '\\' :: c :: cs =>
      let length := escapeLength bytes c
      let digits := cs.take length
      digits.length = length && digits.all isHex && (length < 8 || isCharacter digits) &&
        (bytes || c ≠ 'N') && readsEscapes bytes cs
  | _ :: cs => readsEscapes bytes cs
  | [] => true

/-- The letters that may stand in front of a quoted text. -/
def prefixes : List String :=
  ["", "r", "u", "b", "br", "rb"]

/-- A quoted text at the front of a text, behind some letters. -/
def text? (letters : String) (cs : List Char) : Option (Token × List Char) := do
  let letters := letters.map Char.toLower
  let quotes := if cs.take 3 = List.replicate 3 (cs.headD '"') then cs.take 3 else cs.take 1
  let (chars, rest) ← quoted? quotes (cs.drop quotes.length)
  let bytes := letters.contains 'b'
  if prefixes.contains letters ∧ (bytes → chars.all fun c => c.toNat < 128) ∧
      (letters.contains 'r' ∨ readsEscapes bytes chars) then
    some (.text bytes, rest)
  else none

/-! ## Tokens -/

/-- The token at the front of a text. -/
def token? (cs : List Char) : Option (Token × List Char) :=
  let letters := String.ofList (cs.takeWhile Text.isWord)
  let rest := cs.dropWhile Text.isWord
  match cs with
  | [] => none
  | c :: more =>
      if c.isDigit ∨ c = '.' ∧ more.head?.any Char.isDigit then number? cs
      else if rest.head?.any isQuote then text? letters rest
      else if letters ≠ "" then some (.word letters, rest)
      else match Text.dropStart? "...".toList cs with
        | some rest => some (.word "...", rest)
        | none => some (.mark c, more)

/-- Whether a character is a gap between tokens. -/
def isGap (c : Char) : Bool :=
  c = ' ' || c = '\t' || c = '\x0c'

/-- Whether a line is indented, behind a gap or at its start. A line of nothing but a comment never is. -/
def isIndented (gap : Bool) : List Char → Bool
  | [] => false
  | '\\' :: '\n' :: cs => isIndented gap cs
  | c :: cs =>
      if isGap c then isIndented (c ≠ '\x0c') cs
      else gap && c ≠ '#' && c ≠ '\n'

/-- How many brackets may be open. -/
def openLimit : Nat := 200

/-- The number of open brackets behind a token. -/
def opened? (depth : Nat) : Token → Option Nat
  | .mark '(' => if depth < openLimit then some (depth + 1) else none
  | .mark '\x7b' => if depth < openLimit then some (depth + 1) else none
  | .mark ')' => some (depth - 1)
  | .mark '\x7d' => some (depth - 1)
  | _ => some depth

/-- The tokens of a text inside of some brackets; a line feed outside of brackets is a token. -/
def tokensFrom : (fuel depth : Nat) → List Char → Option (List Token)
  | 0, _, _ => none
  | _, _, [] => some []
  | fuel + 1, depth, '\\' :: '\n' :: cs => tokensFrom fuel depth cs
  | fuel + 1, depth, c :: cs =>
      if isGap c then tokensFrom fuel depth cs
      else if c = '#' then tokensFrom fuel depth (cs.dropWhile (· ≠ '\n'))
      else if c = '\n' then
        if 0 < depth then tokensFrom fuel depth cs
        else if isIndented false cs then none
        else (tokensFrom fuel depth cs).map (.mark '\n' :: ·)
      else do
        let (t, rest) ← token? (c :: cs)
        let depth ← opened? depth t
        let ts ← tokensFrom fuel depth rest
        return t :: ts

/-- The tokens of a text. -/
def tokens? (cs : List Char) : Option (List Token) := do
  let lines := Text.normalizeBreaks cs
  let ts ← if lines.contains '\x00' then none else tokensFrom (lines.length + 2) 0 ('\n' :: lines)
  return Text.stripBy (· = .mark '\n') ts

end Token

end CodeBrief.Terminal
