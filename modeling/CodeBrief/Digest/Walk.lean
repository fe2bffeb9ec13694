import CodeBrief.Digest.Declaration
import CodeBrief.Digest.Node

/-!
# Declarations of a syntax tree

The tree is walked in pre-order through named children. Each node may declare
something; what it declares depends on the node itself, on the type of its
parent, and on whether a function surrounds it, in which case its variables are
local and left out.
-/

namespace CodeBrief.Walk

/-- Nodes whose variables are local. -/
def functionScopes : List String :=
  ["function_declaration", "generator_function_declaration", "function_expression", "function",
   "generator_function", "arrow_function", "method_definition"]

def classNodes : List String := ["class_declaration", "abstract_class_declaration"]
def functionNodes : List String := ["function_declaration", "generator_function_declaration"]
def variableNodes : List String := ["lexical_declaration", "variable_declaration"]
def fieldNodes : List String := ["public_field_definition", "field_definition"]

/-- The text between the quotes of a string; any other text as it is. -/
def unquoted (s : String) : String :=
  match s.toList with
  | q :: rest =>
      if (q == '\'' || q == '"' || q == Char.ofNat 0x60) && rest.getLast? == some q then
        String.ofList rest.dropLast
      else s
  | [] => s

/-- The keyword of a declaration of variables. -/
def keywordOf (n : Node) : String :=
  (n.children.head?.map (·.type)).getD ""

/-- What a clause before the body of a class names as its base. -/
def baseOf (heritage : Node) : Option Node :=
  match heritage.namedChildren.find? (·.type ≠ "implements_clause") with
  | some clause =>
      if clause.type = "extends_clause" then
        match clause.inField? "value" with
        | some value => some value
        | none => clause.namedChildren.head?
      else some clause
  | none => none

/-- The base class, if it is a plain name. -/
def baseName (n : Node) : Option String :=
  ((n.namedChildren.filter (·.type = "class_heritage")).filterMap fun h =>
    match baseOf h with
    | some base => if base.type = "identifier" then some base.text else none
    | none => none).head?

/-- The name of a type that an interface extends; `none` for a comment. -/
def extendedName (ext : Node) : Option String :=
  let ext := if ext.type = "generic_type" then (ext.inField? "name").getD ext else ext
  if ext.type = "type_identifier" ∨ ext.type = "identifier" then some ext.text
  else if ext.type = "comment" then none
  else some "unknown"

/-- The names of the types that an interface extends. -/
def extendedNames (n : Node) : List String :=
  (n.namedChildren.filter (·.type = "extends_type_clause")).flatMap fun clause =>
    clause.namedChildren.filterMap extendedName

/-- The label of a parameter that is a name or a pattern. -/
def patternLabel (showPatterns : Bool) (p : Node) : String :=
  if p.type = "identifier" then p.text
  else if showPatterns && p.type = "object_pattern" then "\x7b ... \x7d"
  else if showPatterns && p.type = "array_pattern" then "[ ... ]"
  else "..."

/-- The label of a parameter; one with a default or an accessibility is not shown by name. -/
def paramLabel (showPatterns : Bool) (p : Node) : String :=
  if p.type = "required_parameter" ∨ p.type = "optional_parameter" then
    if (p.inField? "value").isSome || p.children.any (·.type = "accessibility_modifier") then "..."
    else match p.inField? "pattern" with
      | some pattern => patternLabel showPatterns pattern
      | none => "..."
  else patternLabel showPatterns p

/-- The labels of the parameters of a function or method. -/
def paramLabels (showPatterns : Bool) (n : Node) : List String :=
  match n.inField? "parameters" with
  | some ps => (ps.namedChildren.filter (·.type ≠ "comment")).map (paramLabel showPatterns)
  | none => []

/-- The role of a method of a name. -/
def roleOf (n : Node) (name : String) : MethodRole :=
  if name = "constructor" then .constructor
  else if n.hasToken "get" then .getter
  else if n.hasToken "set" then .setter
  else if n.hasToken "static" then .staticMethod
  else .method

/-- The declaration of a method with a plain name. -/
def methodOf (n : Node) : Option Declaration :=
  match n.inField? "name" with
  | some name =>
      if name.type = "property_identifier" then
        some (.method name.text (roleOf n name.text) (paramLabels false n))
      else none
  | none => none

/-- The declaration that an export makes of variables or of a function. -/
def exportOf (n : Node) : Option Declaration :=
  if n.hasToken "default" then none
  else match n.inField? "declaration" with
    | some d =>
        if d.type ∈ variableNodes then some (.exported (keywordOf d) "")
        else if d.type ∈ functionNodes then
          (d.inField? "name").map fun name => .exported "function" name.text
        else none
    | none => none

/-- The declarations of variables with plain names. -/
def variablesOf (n : Node) : List Declaration :=
  (n.namedChildren.filter (·.type = "variable_declarator")).filterMap fun d =>
    match d.inField? "name" with
    | some name => if name.type = "identifier" then some (.binding (keywordOf n) name.text) else none
    | none => none

/-- The declaration of a field with a plain name. -/
def fieldOf (n : Node) : Option Declaration :=
  match (n.inField? "name").or (n.inField? "property") with
  | some name =>
      if name.type = "property_identifier" then some (.property name.text (n.hasToken "static")) else none
  | none => none

/-- What a node itself declares. -/
def own (parentType : String) (inFunction : Bool) (n : Node) : List Declaration :=
  let t := n.type
  let named (make : String → Declaration) : List Declaration :=
    ((n.inField? "name").map fun name => make name.text).toList
  if t = "import_statement" then
    ((n.inField? "source").map fun s => .imported (unquoted s.text)).toList
  else if t = "export_statement" then (exportOf n).toList
  else if t ∈ classNodes then named fun name => .classType name (baseName n)
  else if t = "interface_declaration" then named fun name => .interfaceType name (extendedNames n)
  else if t = "type_alias_declaration" then named .typeAlias
  else if t ∈ functionNodes then named fun name => .function name (paramLabels true n)
  else if t = "method_definition" ∧ parentType = "class_body" then (methodOf n).toList
  else if t ∈ fieldNodes then (fieldOf n).toList
  else if t ∈ variableNodes ∧ inFunction = false then variablesOf n
  else []

mutual

/-- What a named node and everything below it declare. -/
def nodes (parentType : String) (inFunction : Bool) : Node → List Declaration
  | .mk type named field text children =>
      own parentType inFunction (.mk type named field text children) ++
        below type (inFunction || type ∈ functionScopes) children

/-- What the named nodes of a list and everything below them declare. -/
def below (parentType : String) (inFunction : Bool) : List Node → List Declaration
  | [] => []
  | n :: rest =>
      (if n.named then nodes parentType inFunction n else []) ++ below parentType inFunction rest

end

/-- What a tree declares below its root. -/
def declarations (root : Node) : List Declaration :=
  below root.type false root.children

end CodeBrief.Walk
