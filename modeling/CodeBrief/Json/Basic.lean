import CodeBrief.Number.Shortest
import CodeBrief.Text.Quoted

/-!
# Values of the settings format

Settings files, values given on the command line and the data that they are
checked against are values of one type. An object lists its members in the
order in which their names first appeared, each name once.
-/

namespace CodeBrief.Json

open Text (Wide)

/-- A value. -/
inductive Value where
  | null
  | bool (b : Bool)
  | int (n : Int)
  | float (x : Binary64)
  | str (s : Wide)
  | list (items : List Value)
  | object (members : List (Wide × Value))
  deriving Inhabited

section Members

variable {κ α : Type} [DecidableEq κ]

/-- The members with one more, which replaces an earlier one of its name in place. -/
def put (name : κ) (v : α) : List (κ × α) → List (κ × α)
  | [] => [(name, v)]
  | (n, w) :: rest => if n = name then (n, v) :: rest else (n, w) :: put name v rest

/-- The member of a name. -/
def get? (name : κ) : List (κ × α) → Option α
  | [] => none
  | (n, v) :: rest => if n = name then some v else get? name rest

theorem get?_put_self (name : κ) (v : α) (ms : List (κ × α)) :
    get? name (put name v ms) = some v := by
  induction ms with
  | nil => simp [put, get?]
  | cons m ms ih =>
      obtain ⟨n, w⟩ := m
      by_cases h : n = name <;> simp [put, get?, h, ih]

theorem get?_put_of_ne {name other : κ} (h : other ≠ name) (v : α) (ms : List (κ × α)) :
    get? other (put name v ms) = get? other ms := by
  induction ms with
  | nil => simp [put, get?, Ne.symm h]
  | cons m ms ih =>
      obtain ⟨n, w⟩ := m
      grind [put, get?]

end Members

/-- A whole number in decimal digits. -/
def intText (n : Int) : String :=
  if n < 0 then String.ofList ('-' :: Text.digits n.natAbs)
  else String.ofList (Text.digits n.natAbs)

mutual

/-- A value as it is displayed inside another value. -/
def Value.nested : Value → String
  | .null => "None"
  | .bool true => "True"
  | .bool false => "False"
  | .int n => intText n
  | .float x => String.ofList x.text
  | .str s => Text.quoted s
  | .list items => "[" ++ String.intercalate ", " (nestedItems items) ++ "]"
  | .object members => "\x7b" ++ String.intercalate ", " (nestedMembers members) ++ "\x7d"

/-- The items of a list as they are displayed. -/
def nestedItems : List Value → List String
  | [] => []
  | v :: rest => v.nested :: nestedItems rest

/-- The members of an object as they are displayed. -/
def nestedMembers : List (Wide × Value) → List String
  | [] => []
  | (name, v) :: rest => (Text.quoted name ++ ": " ++ v.nested) :: nestedMembers rest

end

/-- A value as it is displayed by itself: a string without quotes, all else as inside another value. -/
def Value.display : Value → Wide
  | .str s => s
  | v => v.nested

end CodeBrief.Json
