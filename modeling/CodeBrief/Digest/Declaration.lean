import CodeBrief.Digest.Language
import CodeBrief.Check

/-!
# Declarations and their digest

A digest lists the declarations of a script in the order of the source, a line
for each; a class and an interface have a blank line in front.

`Digest.check` reads a digest from a value in which every declaration says of
which kind it is, and `Declaration.members` writes one.
-/

namespace CodeBrief

open Check (Checked)
open Json (Value)
open Text (Wide)

/-- What a method of a class is for. -/
inductive MethodRole where
  | constructor
  | getter
  | setter
  | staticMethod
  | method
  deriving DecidableEq, Repr

/-- The label of a role. -/
def MethodRole.label : MethodRole → String
  | constructor => "Constructor"
  | getter => "Getter"
  | setter => "Setter"
  | staticMethod => "Static Method"
  | method => "Method"

/-- Every role with its label. -/
def MethodRole.labelled : List (String × MethodRole) :=
  [constructor, getter, setter, staticMethod, method].map fun r => (r.label, r)

/-- A declaration of a script. -/
inductive Declaration where
  | imported (source : String)
  | exported (keyword name : String)
  | classType (name : String) (base : Option String)
  | interfaceType (name : String) (bases : List String)
  | typeAlias (name : String)
  | function (name : String) (params : List String)
  | method (name : String) (role : MethodRole) (params : List String)
  | property (name : String) (isStatic : Bool)
  | binding (keyword name : String)
  deriving DecidableEq, Repr

namespace Declaration

/-- Names with commas between them. -/
def commas (names : List String) : String :=
  String.intercalate ", " names

/-- The line of a declaration. -/
def render : Declaration → String
  | imported source => "import ... from '" ++ source ++ "'"
  | exported keyword name =>
      if keyword = "function" then "export function " ++ name else "export " ++ keyword ++ " ..."
  | classType name base =>
      "\nClass: " ++ name ++ match base with
        | some b => if b = "" then "" else " extends " ++ b
        | none => ""
  | interfaceType name bases =>
      "\nInterface: " ++ name ++ if bases.isEmpty then "" else " extends " ++ commas bases
  | typeAlias name => "Type: " ++ name
  | function name params => "Function: " ++ name ++ "(" ++ commas params ++ ")"
  | method name role params => "  " ++ role.label ++ ": " ++ name ++ "(" ++ commas params ++ ")"
  | property name isStatic =>
      "  " ++ (if isStatic then "Static Property" else "Property") ++ ": " ++ name
  | binding keyword name => keyword ++ " " ++ name

/-- A list of texts as a value. -/
def textsValue (xs : List String) : Value := .list (xs.map fun x => .str (.text x))

/-- The members of a declaration as a value, the kind first. -/
def members : Declaration → List (Wide × Value)
  | imported source => [("kind", .str "import"), ("source", .str source)]
  | exported keyword name => [("kind", .str "export"), ("keyword", .str keyword), ("name", .str name)]
  | classType name base =>
      [("kind", .str "class"), ("name", .str name),
       ("superclass", match base with
        | some b => .str b
        | none => .null)]
  | interfaceType name bases =>
      [("kind", .str "interface"), ("name", .str name), ("extends", textsValue bases)]
  | typeAlias name => [("kind", .str "type_alias"), ("name", .str name)]
  | function name params => [("kind", .str "function"), ("name", .str name), ("params", textsValue params)]
  | method name role params =>
      [("kind", .str "method"), ("name", .str name), ("role", .str role.label),
       ("params", textsValue params)]
  | property name isStatic =>
      [("kind", .str "property"), ("name", .str name), ("static", .bool isStatic)]
  | binding keyword name =>
      [("kind", .str "variable"), ("keyword", .str keyword), ("name", .str name)]

/-- A list of texts, empty if absent. -/
def texts (name : String) : List (Wide × Value) → Checked (List String) :=
  Check.optional name (Check.list Check.text) []

/-- The kinds of declarations with the checks of their members. -/
def kinds : List (String × (List (Wide × Value) → Checked Declaration)) :=
  let name := Check.required "name" Check.text
  [("import", fun ms => .map imported (Check.required "source" Check.text ms)),
   ("export", fun ms =>
      .app (.map exported (Check.required "keyword" Check.text ms))
        (Check.optional "name" Check.text "" ms)),
   ("class", fun ms =>
      .app (.map classType (name ms)) (Check.optional "superclass" Check.optionalText none ms)),
   ("interface", fun ms => .app (.map interfaceType (name ms)) (texts "extends" ms)),
   ("type_alias", fun ms => .map typeAlias (name ms)),
   ("function", fun ms => .app (.map function (name ms)) (texts "params" ms)),
   ("method", fun ms =>
      .app (.app (.map method (name ms))
        (Check.optional "role" (Check.choice MethodRole.labelled) .method ms)) (texts "params" ms)),
   ("property", fun ms =>
      .app (.map property (name ms)) (Check.optional "static" Check.bool false ms)),
   ("variable", fun ms =>
      .app (.map binding (Check.required "keyword" Check.text ms)) (name ms))]

/-- A declaration from a value that says its kind. -/
def check (v : Value) : Checked Declaration :=
  match v with
  | .object ms =>
      match Json.get? ("kind" : Wide) ms with
      | none => .fail (.tagMissing "kind") v
      | some tag =>
          let unknown (t : String) : Checked Declaration :=
            .fail (.tagUnknown "kind" t (kinds.map (·.1))) v
          match tag with
          | .str (.text kind) =>
              match Json.get? kind kinds with
              | some fields => Checked.under (.field kind) (fields ms)
              | none => unknown kind
          | other => unknown other.nested
  | _ => .fail .notObject v

end Declaration

/-- The declarations of a script in a language. -/
structure Digest where
  language : Language
  declarations : List Declaration
  deriving DecidableEq, Repr

namespace Digest

/-- The lines of a digest. -/
def render (d : Digest) : String :=
  String.intercalate "\n" (d.declarations.map Declaration.render)

/-- A digest from a value. -/
def check : Value → Checked Digest :=
  Check.record "Digest" fun ms =>
    .app (.map mk
        (Check.required "language" (Check.choice (Language.all.map fun l => (l.tag, l))) ms))
      (Check.optional "declarations" (Check.list Declaration.check) [] ms)

end Digest
end CodeBrief
