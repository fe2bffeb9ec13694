import CodeBrief.Text.Blank
import CodeBrief.Text.Ranges

/-!
# Whole numbers as they are typed

A whole number may be typed with the decimal digits of any script, with a sign,
with single low lines between its digits, and with blanks around it. Numbers of
more than `typedDigits` digits are not read.
-/

namespace CodeBrief.Text

/-- The zeros of the sets of decimal digits; the other nine follow each of them. -/
def zeros : List Nat :=
  [0x30, 0x660, 0x6F0, 0x7C0, 0x966, 0x9E6, 0xA66, 0xAE6, 0xB66, 0xBE6, 0xC66, 0xCE6, 0xD66, 0xDE6,
   0xE50, 0xED0, 0xF20, 0x1040, 0x1090, 0x17E0, 0x1810, 0x1946, 0x19D0, 0x1A80, 0x1A90, 0x1B50,
   0x1BB0, 0x1C40, 0x1C50, 0xA620, 0xA8D0, 0xA900, 0xA9D0, 0xA9F0, 0xAA50, 0xABF0, 0xFF10, 0x104A0,
   0x10D30, 0x11066, 0x110F0, 0x11136, 0x111D0, 0x112F0, 0x11450, 0x114D0, 0x11650, 0x116C0, 0x11730,
   0x118E0, 0x11950, 0x11C50, 0x11D50, 0x11DA0, 0x16A60, 0x16AC0, 0x16B50, 0x1D7CE, 0x1D7D8, 0x1D7E2,
   0x1D7EC, 0x1D7F6, 0x1E140, 0x1E2F0, 0x1E950, 0x1FBF0]

/-- The value of a decimal digit. -/
def digitValue? (c : Char) : Option Nat :=
  (zeros.find? fun z => z ≤ c.toNat && c.toNat < z + 10).map fun z => c.toNat - z

/-- The values of digits with single low lines between them. -/
def digitValues? : List Char → Option (List Nat)
  | [] => none
  | [c] => (digitValue? c).map fun d => [d]
  | c :: '_' :: rest => (digitValue? c).bind fun d => (digitValues? rest).map (d :: ·)
  | c :: rest => (digitValue? c).bind fun d => (digitValues? rest).map (d :: ·)

/-- The greatest number of digits that are read. -/
def typedDigits : Nat := 4300

/-- The number of some digits, if there are not too many. -/
def ofDigitValues? (ds : List Nat) : Option Nat :=
  if ds.length ≤ typedDigits then some (ds.foldl (fun n d => n * 10 + d) 0) else none

/-- The whole number that a text spells. -/
def typedWhole? (s : String) : Option Int :=
  let read (cs : List Char) : Option Int :=
    ((digitValues? cs).bind ofDigitValues?).map fun n => (n : Int)
  match strip s.toList with
  | '-' :: rest => (read rest).map fun n => -n
  | '+' :: rest => read rest
  | rest => read rest

example : typedWhole? " -1_000 " = some (-1000) := by decide
example : typedWhole? "1.5" = none := by decide

end CodeBrief.Text
