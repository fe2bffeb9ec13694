import CodeBrief.Text.Printable
import CodeBrief.Text.Wide

/-!
# Quoted strings

A string inside a displayed value is put in single quotes, or in double quotes if
it has a single quote and no double one. The backslash and the quote in use are
escaped, and so is every character that is not printable: by a short escape, or
by its code point in hexadecimal with two, four or eight digits. Half of a
surrogate pair is not printable either, so what is quoted is always a text.
-/

namespace CodeBrief.Text

/-- A hexadecimal digit. -/
def hexDigit (n : Nat) : Char :=
  if n < 10 then Char.ofNat (0x30 + n) else Char.ofNat (0x61 + (n - 10))

/-- The last `places` hexadecimal digits of a number. -/
def hex : (places n : Nat) → List Char
  | 0, _ => []
  | places + 1, n => hex places (n / 16) ++ [hexDigit (n % 16)]

/-- The quote that a displayed string is put in. -/
def quoteFor (ps : List Point) : Char :=
  if .char '\'' ∈ ps ∧ .char '"' ∉ ps then '"' else '\''

/-- A character inside quotes. -/
def quoteChar (quote c : Char) : List Char :=
  if c = quote ∨ c = '\\' then ['\\', c]
  else if c = '\n' then ['\\', 'n']
  else if c = '\r' then ['\\', 'r']
  else if c = '\t' then ['\\', 't']
  else if isPrintable c then [c]
  else if c.toNat < 0x100 then ['\\', 'x'] ++ hex 2 c.toNat
  else if c.toNat < 0x10000 then ['\\', 'u'] ++ hex 4 c.toNat
  else ['\\', 'U'] ++ hex 8 c.toNat

/-- A code point inside quotes. -/
def quotePoint (quote : Char) : Point → List Char
  | .char c => quoteChar quote c
  | p => ['\\', 'u'] ++ hex 4 p.code

/-- A string as a displayed value shows it. -/
def quoted (s : Wide) : String :=
  let q := quoteFor s.points
  String.ofList (q :: s.points.flatMap (quotePoint q) ++ [q])

end CodeBrief.Text
