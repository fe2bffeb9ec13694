import CodeBrief.Json.Basic
import CodeBrief.Text.Blank

/-!
# Checking values

A check turns a value of unknown shape into a typed one or says what is wrong
with it. Checks are lenient: a whole number may be given as a truth value, as a
number without fractional part, or as a text of digits, and a truth value as a
number or a word.

The issues of the parts of a value are all reported, in the order of the parts,
each with its place in the value (`Checked.both`, `Checked.under`).
-/

namespace CodeBrief.Check

open Json (Value)
open Text (Wide)

/-- A step from a value to a part of it. -/
inductive Step where
  | field (name : String)
  | index (i : Nat)
  deriving DecidableEq, Repr

/-- What is wrong with a value. -/
inductive Problem where
  | missing
  | notText
  | brokenText
  | notInt
  | unreadableInt
  | oversizedInt
  | fractionalInt
  | notFinite
  | notAbove (bound : Int)
  | notList
  | notBool
  | unreadableBool
  | notRecord (name : String)
  | notChoice (choices : List String)
  | notObject
  | tagMissing (field : String)
  | tagUnknown (field tag : String) (tags : List String)
  deriving DecidableEq, Repr

namespace Problem

/-- The code of a problem. -/
def code : Problem → String
  | missing => "missing"
  | notText => "string_type"
  | brokenText => "string_unicode"
  | notInt => "int_type"
  | unreadableInt => "int_parsing"
  | oversizedInt => "int_parsing_size"
  | fractionalInt => "int_from_float"
  | notFinite => "finite_number"
  | notAbove _ => "greater_than"
  | notList => "list_type"
  | notBool => "bool_type"
  | unreadableBool => "bool_parsing"
  | notRecord _ => "model_type"
  | notChoice _ => "enum"
  | notObject => "model_attributes_type"
  | tagMissing _ => "union_tag_not_found"
  | tagUnknown .. => "union_tag_invalid"

/-- Quoted words with commas, and `or` before the last. -/
def alternatives : List String → String
  | [] => ""
  | [x] => "'" ++ x ++ "'"
  | [x, y] => "'" ++ x ++ "' or '" ++ y ++ "'"
  | x :: rest => "'" ++ x ++ "', " ++ alternatives rest

/-- The wording of a problem. -/
def message : Problem → String
  | missing => "Field required"
  | notText => "Input should be a valid string"
  | brokenText => "Input should be a valid string, unable to parse raw data as a unicode string"
  | notInt => "Input should be a valid integer"
  | unreadableInt => "Input should be a valid integer, unable to parse string as an integer"
  | oversizedInt => "Unable to parse input string as an integer, exceeded maximum size"
  | fractionalInt => "Input should be a valid integer, got a number with a fractional part"
  | notFinite => "Input should be a finite number"
  | notAbove bound => "Input should be greater than " ++ Json.intText bound
  | notList => "Input should be a valid list"
  | notBool => "Input should be a valid boolean"
  | unreadableBool => "Input should be a valid boolean, unable to interpret input"
  | notRecord name => "Input should be a valid dictionary or instance of " ++ name
  | notChoice choices => "Input should be " ++ alternatives choices
  | notObject => "Input should be a valid dictionary or object to extract fields from"
  | tagMissing field => "Unable to extract tag using discriminator '" ++ field ++ "'"
  | tagUnknown field tag tags =>
      "Input tag '" ++ tag ++ "' found using '" ++ field ++
        "' does not match any of the expected tags: " ++
        String.intercalate ", " (tags.map fun t => "'" ++ t ++ "'")

end Problem

/-- A problem, where it is, and the value that has it. -/
structure Issue where
  place : List Step
  problem : Problem
  input : Value

/-- The name of the type of a value in a report. -/
def typeName : Value → String
  | .null => "NoneType"
  | .bool _ => "bool"
  | .int _ => "int"
  | .float _ => "float"
  | .str _ => "str"
  | .list _ => "list"
  | .object _ => "dict"

/-- The characters at the front of a text that a number of bytes has room for. -/
def takeBytes : (room : Nat) → List Char → List Char
  | _, [] => []
  | room, c :: cs => if c.utf8Size ≤ room then c :: takeBytes (room - c.utf8Size) cs else []

/-- A value in a report: its display, the middle left out if it has more than 50 bytes. -/
def inputText (v : Value) : String :=
  let s := v.nested
  if 50 < s.utf8ByteSize then
    String.ofList (takeBytes 25 s.toList ++ "...".toList ++ (takeBytes 24 s.toList.reverse).reverse)
  else s

/-- A place in a report. -/
def placeText (place : List Step) : String :=
  String.intercalate "." (place.map fun
    | .field name => name
    | .index i => toString i)

/-- The lines of an issue in a report. -/
def Issue.report (i : Issue) : String :=
  placeText i.place ++ "\n  " ++ i.problem.message ++ " [type=" ++ i.problem.code ++
    ", input_value=" ++ inputText i.input ++ ", input_type=" ++ typeName i.input ++ "]\n" ++
    "    For further information visit https://errors.pydantic.dev/2.14/v/" ++ i.problem.code

/-- A report on the issues of a record. -/
def report (name : String) (issues : List Issue) : String :=
  toString issues.length ++ " validation error" ++ (if issues.length = 1 then "" else "s") ++ " for " ++
    name ++ "\n" ++ String.intercalate "\n" (issues.map Issue.report)

/-- A typed value, or everything that is wrong. -/
abbrev Checked (α : Type) := Except (List Issue) α

namespace Checked

/-- A value with a problem. -/
def fail {α : Type} (problem : Problem) (input : Value) : Checked α :=
  .error [⟨[], problem, input⟩]

/-- The same with one more step in front of the place of every issue. -/
def under {α : Type} (step : Step) : Checked α → Checked α
  | .ok a => .ok a
  | .error issues => .error (issues.map fun i => { i with place := step :: i.place })

/-- Two checks, the issues of both if either fails. -/
def both {α β : Type} : Checked α → Checked β → Checked (α × β)
  | .ok a, .ok b => .ok (a, b)
  | .error e, .ok _ => .error e
  | .ok _, .error e => .error e
  | .error e, .error e' => .error (e ++ e')

/-- A function of the result of a check. -/
def map {α β : Type} (f : α → β) : Checked α → Checked β
  | .ok a => .ok (f a)
  | .error e => .error e

/-- The function that one check gives, of the result of a second one. -/
def app {α β : Type} (f : Checked (α → β)) (a : Checked α) : Checked β :=
  map (fun p => p.1 p.2) (both f a)

end Checked

/-- Decimal digits, with single low lines between digits allowed. -/
def groupedDigits? : List Char → Option (List Char)
  | [] => none
  | [c] => if c.isDigit then some [c] else none
  | c :: '_' :: rest => if c.isDigit then (groupedDigits? rest).map (c :: ·) else none
  | c :: rest => if c.isDigit then (groupedDigits? rest).map (c :: ·) else none

/-- The number that digits stand for. -/
def natOfDigits (ds : List Char) : Nat :=
  ds.foldl (fun n d => n * 10 + (d.toNat - 0x30)) 0

/-- A number without the zeros and low lines that stand behind a zero at its front, as long as a
digit or a minus sign is left; of a number that has nothing else its last character is left. -/
def dropZeros (cs : List Char) : List Char :=
  if cs.head? = some '0' then
    match cs.dropWhile fun c => c == '0' || c == '_' with
    | [] => cs.getLast?.toList
    | c :: rest => if c.isDigit ∨ c = '-' then c :: rest else cs
  else cs

/-- A text without a point and the zeros behind it. -/
def dropFraction? (cs : List Char) : Option (List Char) :=
  let fraction := cs.dropWhile (· ≠ '.')
  if fraction.isEmpty ∨ (2 ≤ fraction.length ∧ fraction.tail.all (· == '0')) then
    some (cs.takeWhile (· ≠ '.'))
  else none

/-- The whole number that digits spell behind a minus sign or without one. -/
def signed? : List Char → Option Int
  | '-' :: ds => (groupedDigits? ds).map fun ds => -(natOfDigits ds : Int)
  | ds => (groupedDigits? ds).map fun ds => (natOfDigits ds : Int)

/-- The whole number that a text spells. Only one sign counts, but a minus sign may stand behind zeros. -/
def intOfText? (cs : List Char) : Option Int :=
  match Text.stripBy Text.isSpace cs with
  | '+' :: '-' :: _ => none
  | '+' :: cs => (dropFraction? cs).bind fun ds => signed? (dropZeros ds)
  | cs => (dropFraction? cs).bind fun ds => signed? (dropZeros ds)

/-- The longest text that is read as a number. -/
def intTextLimit : Nat := 4300

/-- A whole number of double precision, if it is not too large. -/
def intOfFloat (x : Binary64) : Except Problem Int :=
  match x with
  | .finite .. =>
      match x.toInt? with
      | some n => if -0x8000000000000000 < n ∧ n < 0x8000000000000000 then .ok n else .error .oversizedInt
      | none => .error .fractionalInt
  | _ => .error .notFinite

/-- A whole number. -/
def int (v : Value) : Checked Int :=
  match v with
  | .int n => .ok n
  | .bool b => .ok (if b then 1 else 0)
  | .float x =>
      match intOfFloat x with
      | .ok n => .ok n
      | .error p => .fail p v
  | .str (.text s) =>
      match intOfText? s.toList with
      | some n => if intTextLimit < s.length then .fail .oversizedInt v else .ok n
      | none => .fail .unreadableInt v
  | .str (.broken _) => .fail .brokenText v
  | _ => .fail .notInt v

/-- A whole number above a bound. -/
def intAbove (bound : Int) (v : Value) : Checked Int :=
  match int v with
  | .ok n => if bound < n then .ok n else .fail (.notAbove bound) v
  | .error e => .error e

/-- A string. -/
def string (v : Value) : Checked Wide :=
  match v with
  | .str s => .ok s
  | _ => .fail .notText v

/-- A text, for the records of what has been decoded. -/
def text (v : Value) : Checked String :=
  match v with
  | .str (.text s) => .ok s
  | .str (.broken _) => .fail .brokenText v
  | _ => .fail .notText v

/-- A text or nothing. -/
def optionalText (v : Value) : Checked (Option String) :=
  match v with
  | .null => .ok none
  | _ => (text v).map some

/-- The words for true and false in lower case. -/
def boolWords : List (String × Bool) :=
  [("1", true), ("true", true), ("t", true), ("yes", true), ("y", true), ("on", true),
   ("0", false), ("false", false), ("f", false), ("no", false), ("n", false), ("off", false)]

/-- The truth value of a number. -/
def boolOfInt? (n : Int) : Option Bool :=
  if n = 0 then some false else if n = 1 then some true else none

/-- A truth value. -/
def bool (v : Value) : Checked Bool :=
  let found (b : Option Bool) : Checked Bool :=
    match b with
    | some b => .ok b
    | none => .fail .unreadableBool v
  match v with
  | .bool b => .ok b
  | .int n => found (boolOfInt? n)
  | .float x => found (x.toInt?.bind boolOfInt?)
  | .str (.text s) => found (Json.get? (String.ofList (s.toList.map Char.toLower)) boolWords)
  | .str (.broken _) => .fail .brokenText v
  | _ => .fail .notBool v

/-- Checks of items, each under its index from `i` on. -/
def items {α : Type} (check : Value → Checked α) : (i : Nat) → List Value → Checked (List α)
  | _, [] => .ok []
  | i, v :: rest =>
      Checked.app (Checked.map List.cons ((check v).under (.index i))) (items check (i + 1) rest)

/-- A list of values of one shape. -/
def list {α : Type} (check : Value → Checked α) (v : Value) : Checked (List α) :=
  match v with
  | .list vs => items check 0 vs
  | _ => .fail .notList v

/-- One of a number of named values. -/
def choice {α : Type} (choices : List (String × α)) (v : Value) : Checked α :=
  match v with
  | .str (.text s) =>
      match Json.get? s choices with
      | some a => .ok a
      | none => .fail (.notChoice (choices.map (·.1))) v
  | _ => .fail (.notChoice (choices.map (·.1))) v

/-- A member that must be there. -/
def required {α : Type} (name : String) (check : Value → Checked α)
    (members : List (Wide × Value)) : Checked α :=
  Checked.under (.field name) <|
    match Json.get? (name : Wide) members with
    | some v => check v
    | none => .fail .missing (.object members)

/-- A member with a value for its absence. -/
def optional {α : Type} (name : String) (check : Value → Checked α) (absent : α)
    (members : List (Wide × Value)) : Checked α :=
  Checked.under (.field name) <|
    match Json.get? (name : Wide) members with
    | some v => check v
    | none => .ok absent

/-- A record of a name, checked by its members. -/
def record {α : Type} (name : String) (check : List (Wide × Value) → Checked α) (v : Value) :
    Checked α :=
  match v with
  | .object members => check members
  | _ => .fail (.notRecord name) v

end CodeBrief.Check
