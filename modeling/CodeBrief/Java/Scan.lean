import CodeBrief.Java.Line
import CodeBrief.Truncation

/-!
# Scanning Java

One forward pass over the lines keeps the depth of braces, whether a block
comment is open, and the types that enclose the line. Members are judged by the
depth before the braces of their own line count, and belong to the innermost
type. A type ends when the depth falls back to where its header stood, once its
own brace has been seen.
-/

namespace CodeBrief.Java

/-- An entry of the digest of a Java source. -/
inductive Entry where
  | line (text : List Char)
  | classHeader (name : List Char) (base : Option (List Char)) (interfaces : List (List Char))
  | interfaceHeader (name : List Char)
  | constructor (name params : List Char)
  | method (name params : List Char)
  | field (name type : List Char)
  deriving DecidableEq, Repr

/-- The text of an entry; headers have a blank line in front. -/
def Entry.render : Entry → List Char
  | line text => text
  | classHeader name base interfaces =>
      "\nClass: ".toList ++ name ++
        (match base with
          | some b => " extends ".toList ++ b
          | none => []) ++
        (if interfaces.isEmpty then []
         else " implements ".toList ++ Text.join ", ".toList interfaces)
  | interfaceHeader name => "\nInterface: ".toList ++ name
  | constructor name params => "  Constructor: ".toList ++ name ++ ['('] ++ params ++ [')']
  | method name params => "  Method: ".toList ++ name ++ ['('] ++ params ++ [')']
  | field name type => "  Field: ".toList ++ name ++ " : ".toList ++ type

/-- A type whose end has not been seen: its name, the depth of its header, and whether its brace was seen. -/
structure Scope where
  name : List Char
  depth : Int
  opened : Bool
  deriving DecidableEq, Repr

/-- The state between two lines; the innermost type comes first. -/
structure State where
  depth : Int := 0
  inComment : Bool := false
  scopes : List Scope := []
  deriving DecidableEq, Repr

/-- The opening braces of a line less the closing ones. -/
def braceBalance (line : List Char) : Int :=
  (line.count '{' : Int) - line.count '}'

/-- The header that a line without blanks at its ends declares. -/
def header? (line : List Char) : Option (Entry × List Char) :=
  match className? line with
  | some name =>
      if !line.contains '=' && !Text.occursIn "new ".toList line then
        some (.classHeader name (extendedName? line) (implementedNames line), name)
      else (interfaceName? line).map fun n => (.interfaceHeader n, n)
  | none => (interfaceName? line).map fun n => (.interfaceHeader n, n)

/-- The member of a type that a line declares. -/
def member? (typeName line : List Char) : Option Entry :=
  let line := withoutAnnotations line
  if isMethod line then
    (methodInfo line).map fun m =>
      if m.1 = typeName then .constructor m.1 m.2 else .method m.1 m.2
  else if isField line then (fieldInfo line).map fun f => .field f.2 f.1
  else none

/-- The innermost type is open once the depth is above that of its header. -/
def openInnermost (depth : Int) : List Scope → List Scope
  | s :: rest => (if s.depth < depth then { s with opened := true } else s) :: rest
  | [] => []

/-- The types that have not ended at a depth. -/
def closeScopes (depth : Int) (scopes : List Scope) : List Scope :=
  scopes.dropWhile fun s => s.opened && depth ≤ s.depth

/-- The entries of a code line and the state after it; `trimmed` is the line without blanks at its ends. -/
def stepCode (st : State) (line trimmed : List Char) : List Entry × State :=
  let depth := st.depth + braceBalance line
  let header := header? trimmed
  let scopes := match header with
    | some (_, name) => ⟨name, st.depth, trimmed.contains '{'⟩ :: st.scopes
    | none => st.scopes
  let member := match scopes with
    | s :: _ => if 0 < st.depth then member? s.name trimmed else none
    | [] => none
  ((header.map (·.1)).toList ++ member.toList,
    { st with depth, scopes := closeScopes depth (openInnermost depth scopes) })

/-- Whether a trimmed line is copied as it is. -/
def isCopied (trimmed : List Char) : Bool :=
  Text.startsWith "package ".toList trimmed || Text.startsWith "import ".toList trimmed

/-- The entries of a line and the state after it. -/
def step (st : State) (line : List Char) : List Entry × State :=
  let trimmed := Text.strip line
  if st.inComment || opensComment trimmed then
    ([], { st with inComment := !Text.occursIn ['*', '/'] trimmed })
  else if trimmed.isEmpty || Text.startsWith ['/', '/'] trimmed then ([], st)
  else if isCopied trimmed then ([.line trimmed], st)
  else stepCode st line trimmed

/-- The entries of lines read in a state. -/
def scanFrom (st : State) : List (List Char) → List Entry
  | [] => []
  | line :: rest => (step st line).1 ++ scanFrom (step st line).2 rest

/-- The entries of a source. -/
def scan (source : List Char) : List Entry :=
  scanFrom {} (Text.lines source)

/-- The digest of a source, or its beginning if no structure is found. -/
def digest (source : String) : String :=
  match scan source.toList with
  | [] => truncate source fallbackLimit
  | entries => String.ofList (Text.join ['\n'] (entries.map Entry.render))

end CodeBrief.Java
