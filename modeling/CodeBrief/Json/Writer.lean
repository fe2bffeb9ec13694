import CodeBrief.Json.Basic
import CodeBrief.Text.Basic

/-!
# Writing values

A value is written over several lines, members and items indented by two more
spaces than what holds them, empty lists and objects as a pair of brackets. A
string escapes quotes, backslashes, controls below U+0020 and halves of surrogate
pairs; in the plain style it also escapes everything from U+007F on by its units of
sixteen bits, so that the result is printable ASCII.
-/

namespace CodeBrief.Json

open Text (Point Wide)

/-- Which characters of a string are written as themselves. -/
inductive Style where
  | ascii
  | verbatim
  deriving DecidableEq

/-- An escape by the hexadecimal digits of one unit. -/
def unitEscape (n : Nat) : List Char :=
  '\\' :: 'u' :: Text.hex 4 n

/-- A character of a string. -/
def writeChar (style : Style) (c : Char) : List Char :=
  if c = '"' then ['\\', '"']
  else if c = '\\' then ['\\', '\\']
  else if c = '\n' then ['\\', 'n']
  else if c = '\r' then ['\\', 'r']
  else if c = '\t' then ['\\', 't']
  else if c.toNat = 8 then ['\\', 'b']
  else if c.toNat = 12 then ['\\', 'f']
  else if c.toNat < 0x20 then unitEscape c.toNat
  else if c.toNat < 0x7F ∨ style = .verbatim then [c]
  else if c.toNat < 0x10000 then unitEscape c.toNat
  else
    let n := c.toNat - 0x10000
    unitEscape (0xD800 + n / 0x400) ++ unitEscape (0xDC00 + n % 0x400)

/-- A code point of a string. -/
def writePoint (style : Style) : Point → List Char
  | .char c => writeChar style c
  | p => unitEscape p.code

/-- A string with its quotes. -/
def writeString (style : Style) (s : Wide) : List Char :=
  '"' :: s.points.flatMap (writePoint style) ++ ['"']

/-- A number of double precision. -/
def writeFloat : Binary64 → List Char
  | .nan => "NaN".toList
  | .infinity false => "Infinity".toList
  | .infinity true => "-Infinity".toList
  | x => x.text

/-- A line feed and the indentation of a level. -/
def newline (level : Nat) : List Char :=
  '\n' :: List.replicate (2 * level) ' '

/-- Entries between brackets; the closing bracket stands on a line of its own unless there are none. -/
def enclose (opening closing : Char) (level : Nat) (entries : List (List Char)) : List Char :=
  if entries.isEmpty then [opening, closing]
  else opening :: Text.join [','] entries ++ newline level ++ [closing]

mutual

/-- A value whose first line stands at an indentation level. -/
def writeValue (style : Style) (level : Nat) : Value → List Char
  | .null => "null".toList
  | .bool true => "true".toList
  | .bool false => "false".toList
  | .int n => (intText n).toList
  | .float x => writeFloat x
  | .str s => writeString style s
  | .list items => enclose '[' ']' level (writeItems style (level + 1) items)
  | .object members => enclose '{' '}' level (writeMembers style (level + 1) members)

/-- The items of a list, each on a line of its own. -/
def writeItems (style : Style) (level : Nat) : List Value → List (List Char)
  | [] => []
  | v :: vs => (newline level ++ writeValue style level v) :: writeItems style level vs

/-- The members of an object, each on a line of its own. -/
def writeMembers (style : Style) (level : Nat) : List (Wide × Value) → List (List Char)
  | [] => []
  | (name, v) :: ms =>
      (newline level ++ writeString style name ++ [':', ' '] ++ writeValue style level v) ::
        writeMembers style level ms

end

/-- The text of a value. -/
def write (style : Style) (v : Value) : String :=
  String.ofList (writeValue style 0 v)

end CodeBrief.Json
