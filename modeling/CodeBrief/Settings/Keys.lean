import CodeBrief.Settings.Basic
import CodeBrief.Text.Basic

/-!
# Settings by key

A key is a path of member names joined by dots. A look-up gives the value at a
key (`get?`); a change replaces the value at a key and checks the settings as a
whole (`Project.set`). A key that leads to nothing is refused before the value is
looked at.
-/

namespace CodeBrief.Settings

open Check (Checked Issue)
open Json (Value)
open Text (Wide)

/-- The names that a key consists of. -/
def keyPath (key : String) : List String :=
  (Text.splitAtEach '.' key.toList).map String.ofList

/-- The value at the end of a path of names. -/
def valueAt? : (path : List String) → Value → Option Value
  | [], v => some v
  | name :: rest, .object ms =>
      match Json.get? (name : Wide) ms with
      | some v => valueAt? rest v
      | none => none
  | _ :: _, _ => none

/-- The members with the value at the end of a path of names replaced; `none` if the path leads to nothing. -/
def replaceAt? (new : Value) : (path : List String) → List (Wide × Value) → Option (List (Wide × Value))
  | [], _ => none
  | [name], ms => if (Json.get? (name : Wide) ms).isSome then some (Json.put (name : Wide) new ms) else none
  | name :: rest, ms =>
      match Json.get? (name : Wide) ms with
      | some (.object inner) => (replaceAt? new rest inner).map fun inner => Json.put (name : Wide) (.object inner) ms
      | _ => none

/-- Why a change of settings is refused. -/
inductive Refusal where
  | unknownKey (key : String)
  | invalidValue (key : String) (issues : List Issue)
  | invalidContext (issues : List Issue)

/-- The settings with the value at a key replaced. -/
def Project.set (p : Project) (key : String) (value : Value) : Except Refusal Project :=
  match replaceAt? value (keyPath key) p.members with
  | none => .error (.unknownKey key)
  | some ms =>
      match Project.check ms with
      | .ok q => .ok q
      | .error issues => .error (.invalidValue key issues)

end CodeBrief.Settings
