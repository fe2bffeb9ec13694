import CodeBrief.Json.Basic
import CodeBrief.Text.Basic

/-!
# Reading values

The reader takes a value from the front of a text and returns the rest. A fault
says what was wrong and how many characters were left where it was found, so
that its line and column follow from the whole text (`Fault.locate`).

The accepted texts are JSON with three more numbers, `NaN`, `Infinity` and
`-Infinity`. A whole number has at most 4300 digits, and no more lists and objects
stand inside one another than the reader has room for on its stack (`nestingLimit`).
-/

namespace CodeBrief.Json

open Text (Point Wide)

/-- What can be wrong with a text. -/
inductive Complaint where
  | expectingValue
  | expectingName
  | expectingColon
  | expectingComma
  | unterminatedString
  | controlCharacter
  | badEscape
  | badHexEscape
  | extraData
  | byteOrderMark
  deriving DecidableEq, Repr

/-- The wording of a complaint. -/
def Complaint.message : Complaint → String
  | .expectingValue => "Expecting value"
  | .expectingName => "Expecting property name enclosed in double quotes"
  | .expectingColon => "Expecting ':' delimiter"
  | .expectingComma => "Expecting ',' delimiter"
  | .unterminatedString => "Unterminated string starting at"
  | .controlCharacter => "Invalid control character at"
  | .badEscape => "Invalid \\escape"
  | .badHexEscape => "Invalid \\uXXXX escape"
  | .extraData => "Extra data"
  | .byteOrderMark => "Unexpected UTF-8 BOM (decode using utf-8-sig)"

/-- Why a text was refused: a complaint and the number of characters left there, a number that is too
long, or too many lists and objects inside one another. -/
inductive Fault where
  | syntaxAt (what : Complaint) (left : Nat)
  | numberTooLong
  | nestedTooDeep
  deriving DecidableEq, Repr

/-- The characters between tokens. -/
def isGap (c : Char) : Bool :=
  c == ' ' || c == '\t' || c == '\n' || c == '\r'

/-- The rest of a text after the gap at its front. -/
def skipGap (cs : List Char) : List Char :=
  cs.dropWhile isGap

/-- The value of a hexadecimal digit. -/
def hexValue? (c : Char) : Option Nat :=
  if c.isDigit then some (c.toNat - 0x30)
  else if 'a' ≤ c ∧ c ≤ 'f' then some (c.toNat - 0x61 + 10)
  else if 'A' ≤ c ∧ c ≤ 'F' then some (c.toNat - 0x41 + 10)
  else none

/-- The value of four hexadecimal digits. -/
def hex4? (a b c d : Char) : Option Nat := do
  let a ← hexValue? a
  let b ← hexValue? b
  let c ← hexValue? c
  let d ← hexValue? d
  return ((a * 16 + b) * 16 + c) * 16 + d

/-- What the escape with a given letter stands for. -/
def escaped? : Char → Option Char
  | '"' => some '"'
  | '\\' => some '\\'
  | '/' => some '/'
  | 'b' => some (Char.ofNat 8)
  | 'f' => some (Char.ofNat 12)
  | 'n' => some '\n'
  | 'r' => some '\r'
  | 't' => some '\t'
  | _ => none

/-- Four digits after `\u` and what follows them, of which there must be something. -/
def takeHex4 (cs : List Char) : Except Fault (Nat × List Char) :=
  match cs with
  | a :: b :: c :: d :: e :: rest =>
      match hex4? a b c d with
      | some n => .ok (n, e :: rest)
      | none => .error (.syntaxAt .badHexEscape (cs.length + 1))
  | _ => .error (.syntaxAt .badHexEscape (cs.length + 1))

/-- What one escape stands for, after its backslash. -/
def readEscape (start : Nat) : List Char → Except Fault (Point × List Char)
  | [] => .error (.syntaxAt .unterminatedString start)
  | 'u' :: cs => do
      let (n, rest) ← takeHex4 cs
      return (.ofUnit n, rest)
  | c :: cs =>
      match escaped? c with
      | some e => .ok (.char e, cs)
      | none => .error (.syntaxAt .badEscape (cs.length + 2))

/-- The code points of a string up to its closing quote; `start` characters are left at the opening one. -/
def readPoints (start : Nat) : (fuel : Nat) → List Char → Except Fault (List Point × List Char)
  | 0, _ => .error (.syntaxAt .unterminatedString start)
  | _, [] => .error (.syntaxAt .unterminatedString start)
  | fuel + 1, c :: cs =>
      if c = '"' then .ok ([], cs)
      else if c = '\\' then do
        let (p, rest) ← readEscape start cs
        let (ps, rest) ← readPoints start fuel rest
        return (p :: ps, rest)
      else if c.toNat < 0x20 then .error (.syntaxAt .controlCharacter (cs.length + 1))
      else do
        let (ps, rest) ← readPoints start fuel cs
        return (.char c :: ps, rest)

/-- A string after its opening quote; escapes that name the two halves of a character are that character. -/
def readString (cs : List Char) : Except Fault (Wide × List Char) := do
  let (ps, rest) ← readPoints (cs.length + 1) (cs.length + 1) cs
  return (.ofPoints ps, rest)

/-- The number that decimal digits stand for. -/
def digitsValue (ds : List Char) : Nat :=
  ds.foldl (fun n d => n * 10 + (d.toNat - 0x30)) 0

/-- The digits of a fraction after its point, and the rest; nothing is taken if no digit follows. -/
def takeFraction : List Char → List Char × List Char
  | '.' :: d :: cs =>
      if d.isDigit then (d :: cs.takeWhile Char.isDigit, cs.dropWhile Char.isDigit) else ([], '.' :: d :: cs)
  | cs => ([], cs)

/-- A signed exponent after its letter, and the rest; nothing is taken if no digit follows. -/
def takeExponent (cs : List Char) : Option Int × List Char :=
  let after (negative : Bool) (ds : List Char) : Option Int × List Char :=
    match ds with
    | d :: _ =>
        if d.isDigit then
          let n : Int := digitsValue (ds.takeWhile Char.isDigit)
          (some (if negative then -n else n), ds.dropWhile Char.isDigit)
        else (none, cs)
    | [] => (none, cs)
  match cs with
  | e :: rest =>
      if e = 'e' ∨ e = 'E' then
        match rest with
        | '+' :: ds => after false ds
        | '-' :: ds => after true ds
        | ds => after false ds
      else (none, cs)
  | [] => (none, cs)

/-- The most digits that a whole number may have. -/
def digitLimit : Nat := 4300

/-- A number whose whole part consists of `ds`, before the rest of a text. -/
def finishNumber (negative : Bool) (ds rest : List Char) : Except Fault (Value × List Char) :=
  let (fraction, rest) := takeFraction rest
  let (exponent, rest) := takeExponent rest
  if fraction.isEmpty ∧ exponent.isNone then
    if digitLimit < ds.length then .error .numberTooLong
    else
      let n : Int := digitsValue ds
      .ok (.int (if negative then -n else n), rest)
  else
    .ok (.float (Binary64.ofDecimal negative (digitsValue (ds ++ fraction))
      (exponent.getD 0 - fraction.length)), rest)

/-- A number after its sign; `left` characters are left at its start. -/
def readNumber (negative : Bool) (left : Nat) : List Char → Except Fault (Value × List Char)
  | '0' :: cs => finishNumber negative ['0'] cs
  | c :: cs =>
      if c.isDigit then
        finishNumber negative (c :: cs.takeWhile Char.isDigit) (cs.dropWhile Char.isDigit)
      else .error (.syntaxAt .expectingValue left)
  | [] => .error (.syntaxAt .expectingValue left)

/-- The words and the values that they stand for. -/
def words : List (String × Value) :=
  [("null", .null), ("true", .bool true), ("false", .bool false), ("NaN", .float .nan),
    ("Infinity", .float (.infinity false)), ("-Infinity", .float (.infinity true))]

/-- A word at the front of a text. -/
def readWord? (cs : List Char) : Option (Value × List Char) :=
  words.firstM fun w => (Text.dropStart? w.1.toList cs).map fun rest => (w.2, rest)

/-- A word or a number at the front of a text. -/
def readScalar (cs : List Char) : Except Fault (Value × List Char) :=
  match readWord? cs with
  | some found => .ok found
  | none =>
      match cs with
      | '-' :: rest => readNumber true cs.length rest
      | _ => readNumber false cs.length cs

/-- How many lists and objects may stand inside one another. Each of them takes a frame of the stack,
of which a call that lies deeper leaves a few less. -/
def nestingLimit : Nat := 980

mutual

/-- The value at the front of a text, with room for so many lists and objects inside one another. -/
def readValue : (fuel room : Nat) → List Char → Except Fault (Value × List Char)
  | 0, _, cs => .error (.syntaxAt .expectingValue cs.length)
  | fuel + 1, room, cs =>
      match cs, room with
      | '"' :: rest, _ => do
          let (s, rest) ← readString rest
          return (.str s, rest)
      | '{' :: _, 0 => .error .nestedTooDeep
      | '{' :: rest, room + 1 =>
          match skipGap rest with
          | '}' :: rest => .ok (.object [], rest)
          | rest => do
              let (ms, rest) ← readMembers fuel room [] rest
              return (.object ms, rest)
      | '[' :: _, 0 => .error .nestedTooDeep
      | '[' :: rest, room + 1 =>
          match skipGap rest with
          | ']' :: rest => .ok (.list [], rest)
          | rest => do
              let (vs, rest) ← readItems fuel room rest
              return (.list vs, rest)
      | cs, _ => readScalar cs

/-- The items of a list from the first that is left up to the closing bracket. -/
def readItems : (fuel room : Nat) → List Char → Except Fault (List Value × List Char)
  | 0, _, cs => .error (.syntaxAt .expectingValue cs.length)
  | fuel + 1, room, cs => do
      let (v, rest) ← readValue fuel room cs
      match skipGap rest with
      | ']' :: rest => .ok ([v], rest)
      | ',' :: rest => do
          let (vs, rest) ← readItems fuel room (skipGap rest)
          return (v :: vs, rest)
      | rest => .error (.syntaxAt .expectingComma rest.length)

/-- The members of an object, added to those read so far, up to the closing brace. -/
def readMembers : (fuel room : Nat) → List (Wide × Value) → List Char →
    Except Fault (List (Wide × Value) × List Char)
  | 0, _, _, cs => .error (.syntaxAt .expectingValue cs.length)
  | fuel + 1, room, sofar, cs =>
      match cs with
      | '"' :: rest => do
          let (name, rest) ← readString rest
          match skipGap rest with
          | ':' :: rest => do
              let (v, rest) ← readValue fuel room (skipGap rest)
              let sofar := put name v sofar
              match skipGap rest with
              | '}' :: rest => .ok (sofar, rest)
              | ',' :: rest => readMembers fuel room sofar (skipGap rest)
              | rest => .error (.syntaxAt .expectingComma rest.length)
          | rest => .error (.syntaxAt .expectingColon rest.length)
      | _ => .error (.syntaxAt .expectingName cs.length)

end

/-- The one value of a whole text. -/
def read (cs : List Char) : Except Fault Value :=
  match cs with
  | c :: _ =>
      if c.toNat = 0xFEFF then .error (.syntaxAt .byteOrderMark cs.length)
      else go cs
  | [] => go cs
where
  /-- A value between gaps. A bracket takes two steps, one for the list or object and one for what is
  first in it, so the steps do not run out before the text. -/
  go (cs : List Char) : Except Fault Value := do
    let (v, rest) ← readValue (2 * cs.length + 1) nestingLimit (skipGap cs)
    match skipGap rest with
    | [] => .ok v
    | more => .error (.syntaxAt .extraData more.length)

/-- The wording of a complaint with its place: line and column from one, offset from zero. -/
def Complaint.locate (what : Complaint) (text : List Char) (left : Nat) : String :=
  let pos := text.length - left
  let before := text.take pos
  let line := before.count '\n' + 1
  let column := match Text.lastIndexOf? '\n' before with
    | some i => pos - i
    | none => pos + 1
  s!"{what.message}: line {line} column {column} (char {pos})"

end CodeBrief.Json
