import CodeBrief.Text.Blank
import CodeBrief.Json.Reader

/-!
# Lexemes of scripts

A lexeme is taken from the front of a text. What a text may be depends on what
is expected of it: a slash starts a regular expression where an operand may
stand and is an operator elsewhere, so there is no token list, and each class of
lexemes has a reader of its own.

Between tokens stand gaps, which are blanks and comments. `semicolonInserted`
decides from the gap and what follows it whether a statement may end there
without a semicolon.
-/

namespace CodeBrief.Script

/-- Characters between tokens. -/
def isGapChar (c : Char) : Bool :=
  Text.isSpace c || c.toNat ∈ [0xFEFF, 0x2060, 0x200B]

/-- Characters that end a line. -/
def isLineEnd (c : Char) : Bool :=
  c = '\n' || c.toNat = 0x2028 || c.toNat = 0x2029

/-- Characters that no name contains. -/
def nameStops : List Char :=
  ":;\"'@#.,|^&<=>+-*/\\%?!~()[]\x7b\x7d".toList ++ [Char.ofNat 0x60]

/-- Whether a character may stand in a name. -/
def isNameChar (c : Char) : Bool :=
  0x20 ≤ c.toNat && !nameStops.contains c && !isGapChar c

/-- An escaped character of a name: four digits, or digits in braces. -/
def nameEscape? : List Char → Option (List Char × List Char)
  | '\\' :: 'u' :: '{' :: rest =>
      let ds := rest.takeWhile fun c => (Json.hexValue? c).isSome
      match ds, rest.dropWhile fun c => (Json.hexValue? c).isSome with
      | _ :: _, '}' :: after => some ("\\u\x7b".toList ++ ds ++ ['}'], after)
      | _, _ => none
  | '\\' :: 'u' :: a :: b :: c :: d :: rest =>
      (Json.hex4? a b c d).map fun _ => (['\\', 'u', a, b, c, d], rest)
  | _ => none

/-- One more character in front of what was read. -/
def prepend (c : Char) (found : List Char × List Char) : List Char × List Char :=
  (c :: found.1, found.2)

/-- The characters of a name that are left; the first `skip` belong to it whatever they are. -/
def nameRest (skip : Nat) : List Char → List Char × List Char
  | [] => ([], [])
  | c :: cs =>
      match skip with
      | skip + 1 => prepend c (nameRest skip cs)
      | 0 =>
          match nameEscape? (c :: cs) with
          | some (e, _) => prepend c (nameRest (e.length - 1) cs)
          | none => if isNameChar c then prepend c (nameRest 0 cs) else ([], c :: cs)

/-- The name at the front: it does not start with a digit. -/
def name? (cs : List Char) : Option (List Char × List Char) :=
  match cs with
  | c :: _ =>
      if c.isDigit then none
      else match nameRest 0 cs with
        | ([], _) => none
        | found => some found
  | [] => none

/-- Words that are never names of their own. -/
def reservedWords : List String :=
  ["break", "case", "catch", "class", "const", "continue", "debugger", "default", "delete", "do",
   "else", "export", "extends", "false", "finally", "for", "function", "if", "import", "in",
   "instanceof", "new", "null", "return", "super", "switch", "this", "throw", "true", "try",
   "typeof", "var", "void", "while", "with"]

/-- What a gap holds: its comments, whether a line ends in it, and what follows. -/
structure Gap where
  comments : List (List Char)
  lineEnds : Bool
  rest : List Char

/-- Where in a gap a character stands: between comments, or in a comment whose text so far is given last character first. A block comment knows where it starts, since it is no comment if it does not end. -/
inductive GapPlace where
  | between
  | inLine (back : List Char)
  | inBlock (start back : List Char)

/-- The gap at the front, with the comments found so far, last first, and whether a line has ended. -/
def gapFrom (comments : List (List Char)) (lineEnds : Bool) : GapPlace → List Char → Gap
  | .between, [] => ⟨comments.reverse, lineEnds, []⟩
  | .inLine back, [] => ⟨(back.reverse :: comments).reverse, lineEnds, []⟩
  | .inBlock start _, [] => ⟨comments.reverse, lineEnds, start⟩
  | .between, '/' :: '/' :: cs => gapFrom comments lineEnds (.inLine ['/', '/']) cs
  | .between, '/' :: '*' :: cs => gapFrom comments lineEnds (.inBlock ('/' :: '*' :: cs) ['*', '/']) cs
  | .between, c :: cs =>
      if isGapChar c then gapFrom comments (lineEnds || isLineEnd c) .between cs
      else ⟨comments.reverse, lineEnds, c :: cs⟩
  | .inLine back, c :: cs =>
      if isLineEnd c ∨ c = '\r' then
        gapFrom (back.reverse :: comments) (lineEnds || isLineEnd c) .between cs
      else gapFrom comments lineEnds (.inLine (c :: back)) cs
  | .inBlock _ back, '*' :: '/' :: cs =>
      gapFrom (('/' :: '*' :: back).reverse :: comments) (lineEnds || back.any isLineEnd) .between cs
  | .inBlock start back, c :: cs => gapFrom comments lineEnds (.inBlock start (c :: back)) cs

/-- The gap at the front. -/
def gap (cs : List Char) : Gap :=
  gapFrom [] false .between cs

/-- Whether a word that starts with `in` or `instanceof` is one of them. -/
def startsInWord (cs : List Char) : Bool :=
  let after (word : String) : Bool :=
    match Text.dropStart? word.toList cs with
    | some (c :: _) => !c.isAlpha
    | some [] => true
    | none => false
  after "in" || after "instanceof"

/-- Whether what follows a line end starts a new statement; `typed` scripts let a bracket start one. -/
def startsStatement (typed : Bool) : List Char → Bool
  | '.' :: d :: _ => !typed && d.isDigit
  | '+' :: c :: _ => c = '+'
  | '-' :: c :: _ => c = '-'
  | '!' :: c :: _ => c ≠ '='
  | c :: cs =>
      if c = '(' ∨ c = '[' then typed
      else if c.toNat = 0x60 then false
      else if c ∈ ",:;*%><=?^|&/.".toList then false
      else !startsInWord (c :: cs)
  | [] => true

/-- Whether a statement may end here without a semicolon. -/
def semicolonInserted (typed : Bool) (cs : List Char) : Bool :=
  let g := gap cs
  match g.rest with
  | [] => true
  | '}' :: _ => true
  | rest => g.lineEnds && startsStatement typed rest

/-- Punctuation of more than one character, longer before shorter. -/
def longPunctuation : List (List Char) :=
  [">>>=", "...", "===", "!==", "**=", "<<=", ">>=", ">>>", "&&=", "||=", "??=", "=>", "==", "!=",
   "<=", ">=", "&&", "||", "??", "?.", "++", "--", "+=", "-=", "*=", "/=", "%=", "&=", "|=", "^=",
   "<<", ">>", "**"].map String.toList

/-- The longest punctuation at the front. A question mark before a decimal point stands alone. -/
def punctuation? (cs : List Char) : Option (List Char × List Char) :=
  let long := longPunctuation.firstM fun p => (Text.dropStart? p cs).map fun rest => (p, rest)
  match cs, long with
  | '?' :: '.' :: d :: rest, some found =>
      if d.isDigit then some (['?'], '.' :: d :: rest) else some found
  | _, some found => some found
  | c :: rest, none => some ([c], rest)
  | [], none => none

/-- Classes of lexemes. -/
inductive Lexical where
  | identifier
  | word
  | privateName
  | string
  | number
  | regex
  | hashBang
  | staticGet
  | templateText
  | elementText
  | elementName
  | elementString
  deriving DecidableEq, Repr

/-- The number of characters of an escape in a string behind its backslash. -/
def escapeLength? : List Char → Option Nat
  | '\r' :: '\n' :: _ => some 2
  | 'u' :: rest => (nameEscape? ('\\' :: 'u' :: rest)).map fun e => e.1.length - 1
  | 'x' :: a :: b :: _ =>
      if (Json.hexValue? a).isSome && (Json.hexValue? b).isSome then some 3 else none
  | 'x' :: _ => none
  | _ :: _ => some 1
  | [] => none

/-- The characters of a string through its closing quote; the first `skip` belong to it whatever they are. -/
def stringRest? (quote : Char) (skip : Nat) : List Char → Option (List Char × List Char)
  | [] => none
  | c :: cs =>
      match skip with
      | skip + 1 => (stringRest? quote skip cs).map (prepend c)
      | 0 =>
          if c = quote then some ([c], cs)
          else if c = '\n' ∨ c = '\r' then none
          else if c = '\\' then
            match escapeLength? cs with
            | some n => (stringRest? quote n cs).map (prepend c)
            | none => none
          else (stringRest? quote 0 cs).map (prepend c)

/-- The characters of a regular expression through its closing slash; `inSet` says that a bracket is open. -/
def regexRest? (inSet : Bool) : List Char → Option (List Char × List Char)
  | [] => none
  | '\\' :: c :: cs =>
      if isLineEnd c then none else (regexRest? inSet cs).map fun found => prepend '\\' (prepend c found)
  | c :: cs =>
      if isLineEnd c ∨ c = '\r' then none
      else if inSet then (regexRest? (c ≠ ']') cs).map (prepend c)
      else if c = '/' then some ([c], cs)
      else (regexRest? (c = '[') cs).map (prepend c)

/-- Two parts of a lexeme, the second read from what follows the first. -/
def andThen (first : List Char × List Char) (second : List Char → List Char × List Char) :
    List Char × List Char :=
  let (text, rest) := second first.2
  (first.1 ++ text, rest)

/-- The digits and low lines of a number part. -/
def numberPart (cs : List Char) : List Char × List Char :=
  cs.span fun c => c.isDigit || c = '_'

/-- An exponent, which may be left out. -/
def exponent (cs : List Char) : List Char × List Char :=
  match cs with
  | e :: rest =>
      if e = 'e' ∨ e = 'E' then
        let (sign, digits) := match rest with
          | '+' :: r => (['+'], r)
          | '-' :: r => (['-'], r)
          | r => ([], r)
        match digits with
        | d :: _ => if d.isDigit then andThen (e :: sign, digits) numberPart else ([], cs)
        | [] => ([], cs)
      else ([], cs)
  | [] => ([], [])

/-- The number at the front. -/
def number? (cs : List Char) : Option (List Char × List Char) :=
  match cs with
  | '0' :: x :: rest =>
      if x ∈ ['x', 'X', 'o', 'O', 'b', 'B'] then
        some (andThen (['0', x], rest) fun cs => cs.span fun c => c.isAlphanum || c = '_')
      else decimal cs
  | '.' :: d :: rest =>
      if d.isDigit then some (andThen (andThen (['.'], d :: rest) numberPart) exponent) else none
  | _ => decimal cs
where
  /-- A decimal number with a digit in front. -/
  decimal (cs : List Char) : Option (List Char × List Char) :=
    match cs with
    | d :: _ =>
        if d.isDigit then
          let whole := numberPart cs
          match whole.2 with
          | '.' :: after => some (andThen (andThen (whole.1 ++ ['.'], after) numberPart) exponent)
          | 'n' :: after => some (whole.1 ++ ['n'], after)
          | _ => some (andThen whole exponent)
        else none
    | [] => none

/-- The text of a template up to a substitution or the end of the template. -/
def templateChars : List Char → List Char × List Char
  | '\\' :: c :: cs => prepend '\\' (prepend c (templateChars cs))
  | '$' :: '{' :: cs => ([], '$' :: '{' :: cs)
  | c :: cs => if c.toNat = 0x60 then ([], c :: cs) else prepend c (templateChars cs)
  | [] => ([], [])

/-- Blanks through the last line feed among them. -/
def blanksThroughLine? (blanks rest : List Char) : Option (List Char × List Char) :=
  if blanks.contains '\n' then
    let after := (blanks.reverse.takeWhile (· ≠ '\n')).reverse
    some (blanks.take (blanks.length - after.length), after ++ rest)
  else none

/-- The words `static` and `get` when the line ends behind them. -/
def staticGet? (cs : List Char) : Option (List Char × List Char) := do
  let (between, rest) := (← Text.dropStart? "static".toList cs).span Text.isSpace
  if between.isEmpty then none
  let (blanks, rest) := (← Text.dropStart? "get".toList rest).span Text.isSpace
  let (after, rest) ← blanksThroughLine? blanks rest
  return ("static".toList ++ between ++ "get".toList ++ after, rest)

/-- A lexeme of at least one character. -/
def nonempty (found : List Char × List Char) : Option (List Char × List Char) :=
  if found.1.isEmpty then none else some found

/-- Whether a character may stand in the name of an element. -/
def isElementNameChar (c : Char) : Bool :=
  isNameChar c || c = '-'

/-- The lexeme of a class at the front, and what follows it. -/
def Lexical.read? (l : Lexical) (cs : List Char) : Option (List Char × List Char) :=
  match l with
  | .identifier =>
      (name? cs).bind fun found =>
        if reservedWords.contains (String.ofList found.1) then none else some found
  | .word => name? cs
  | .privateName =>
      match cs with
      | '#' :: rest => (name? rest).map (prepend '#')
      | _ => none
  | .string =>
      match cs with
      | q :: rest =>
          if q = '"' ∨ q = '\'' then (stringRest? q 0 rest).map (prepend q) else none
      | [] => none
  | .number => number? cs
  | .regex =>
      match cs with
      | '/' :: c :: rest =>
          if c = '*' ∨ c = '/' then none
          else (regexRest? false (c :: rest)).map fun found =>
            prepend '/' (andThen found fun cs => cs.span Char.isAlpha)
      | _ => none
  | .hashBang =>
      match cs with
      | '#' :: '!' :: _ => some (cs.span (· ≠ '\n'))
      | _ => none
  | .staticGet => staticGet? cs
  | .templateText => nonempty (templateChars cs)
  | .elementText => nonempty (cs.span fun c => !(c ∈ ['<', '>', '{', '}']))
  | .elementName =>
      match cs with
      | c :: _ => if isNameChar c && !c.isDigit then some (cs.span isElementNameChar) else none
      | [] => none
  | .elementString =>
      match cs with
      | q :: rest =>
          if q = '"' ∨ q = '\'' then
            match rest.span (· ≠ q) with
            | (text, _ :: after) => some (q :: text ++ [q], after)
            | _ => none
          else none
      | [] => none

end CodeBrief.Script
