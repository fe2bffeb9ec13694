/-!
# Numbers with thousands separators

A count in a report is written with a comma before every third digit from the
right.
-/

namespace CodeBrief.Text

/-- The decimal digits of a number. -/
def digits (n : Nat) : List Char :=
  (toString n).toList

/-- A comma after every third character, none after the last. -/
def groupThrees : List Char → List Char
  | a :: b :: c :: d :: rest => a :: b :: c :: ',' :: groupThrees (d :: rest)
  | short => short

/-- The decimal digits of a number in groups of three. -/
def grouped (n : Nat) : List Char :=
  (groupThrees (digits n).reverse).reverse

example : String.ofList (grouped 1234567) = "1,234,567" := by decide
example : String.ofList (grouped 999) = "999" := by decide

end CodeBrief.Text
