import CodeBrief.Java.Scan
import CodeBrief.Proofs.Words

/-!
# Java in the ordinary layout

Sources whose types nest without bound. A type is a header line, its members in
order and a closing brace on a line of its own; its opening brace ends the header
or follows alone. Every piece carries the conditions under which it is well
formed, so that a forest of types is a source that can really be written, and
`TypeDecl.lines` writes it down.

`TypeDecl.digest` says what is to be told of a forest, in pre-order. It looks at
the pieces and never at the lines.
-/

namespace CodeBrief.Java

open Text (IsWord isBlank)

/-- The words that no identifier can be. -/
def reserved : List (List Char) :=
  keywords ["abstract", "assert", "boolean", "break", "byte", "case", "catch", "char", "class",
    "const", "continue", "default", "do", "double", "else", "enum", "extends", "final", "finally",
    "float", "for", "goto", "if", "implements", "import", "instanceof", "int", "interface", "long",
    "native", "new", "package", "private", "protected", "public", "return", "short", "static",
    "strictfp", "super", "switch", "synchronized", "this", "throw", "throws", "transient", "try",
    "void", "volatile", "while"]

/-- The reserved words that stand for types. -/
def primitives : List (List Char) :=
  keywords ["boolean", "byte", "char", "double", "float", "int", "long", "short", "void"]

structure Name where
  text : List Char
  isWord : IsWord text
  unreserved : text ∉ reserved

/-- The type of a field or of a result: a name or a primitive type. -/
structure TypeName where
  text : List Char
  isWord : IsWord text
  unreserved : text ∈ reserved → text ∈ primitives

/-- Blanks within one line. -/
structure Blanks where
  text : List Char
  blank : ∀ c ∈ text, isBlank c = true
  one_line : '\n' ∉ text

/-- What stands left and right of the text of a line. -/
structure Margins where
  left : Blanks
  right : Blanks

def Margins.around (m : Margins) (text : List Char) : List Char :=
  m.left.text ++ text ++ m.right.text

/-- The inside of the parentheses of a method. -/
structure Params where
  text : List Char
  one_line : '\n' ∉ text
  no_close : ')' ∉ text
  no_brace : '{' ∉ text ∧ '}' ∉ text
  no_equals : '=' ∉ text
  no_comment : Text.occursIn ['/', '*'] text = false
  no_control : hasControlWord text = false

/-- Parameters as they are told. -/
def Params.shown (p : Params) : List Char :=
  if 50 < (Text.strip p.text).length then (Text.strip p.text).take 50 ++ "...".toList
  else Text.strip p.text

inductive Kind where
  | class (base : Option Name) (interfaces : List Name)
  | interface

def Kind.keyword : Kind → List Char
  | .class .. => "class".toList
  | .interface => "interface".toList

/-- A clause of a header: a keyword and what it introduces. -/
def clause (keyword said : List Char) : List Char :=
  ' ' :: (keyword ++ ' ' :: said)

def extendsClause : Option Name → List Char
  | none => []
  | some base => clause "extends".toList base.text

def implementsClause : List Name → List Char
  | [] => []
  | n :: names =>
      clause "implements".toList (Text.join ", ".toList ((n :: names).map Name.text))

/-- What the header of a type says behind its name. -/
def Kind.clauses : Kind → List Char
  | .class base interfaces => extendsClause base ++ implementsClause interfaces
  | .interface => []

/-- Where the opening brace of a type stands. -/
inductive Brace where
  | behind (gap : Blanks)
  | below (margins : Margins)

/-- What stands of the brace on the header line. -/
def Brace.onHeader : Brace → List Char
  | .behind gap => gap.text ++ ['{']
  | .below _ => []

/-- The lines of the brace after the header line. -/
def Brace.after : Brace → List (List Char)
  | .behind _ => []
  | .below margins => [margins.around ['{']]

def headerText (kind : Kind) (name : Name) (brace : Brace) : List Char :=
  kind.keyword ++ ' ' :: (name.text ++ (kind.clauses ++ brace.onHeader))

structure Header where
  margins : Margins
  kind : Kind
  name : Name
  brace : Brace
  no_new : Text.occursIn "new ".toList (headerText kind name brace) = false

def Header.text (h : Header) : List Char :=
  headerText h.kind h.name h.brace

def Header.lines (h : Header) : List (List Char) :=
  h.margins.around h.text :: h.brace.after

def Kind.title : Kind → List Char
  | .class .. => "\nClass: ".toList
  | .interface => "\nInterface: ".toList

def Header.digest (h : Header) : List Char :=
  h.kind.title ++ h.name.text ++ h.kind.clauses

mutual

/-- A type: its header, its members, and the line of its closing brace. -/
inductive TypeDecl where
  | decl (header : Header) (members : List Member) (closing : Margins)

/-- A member of a type. A method without a result is a constructor as it is written. -/
inductive Member where
  | field (margins : Margins) (type : TypeName) (name : Name)
  | method (margins : Margins) (result : Option TypeName) (name : Name) (params : Params)
      (closing : Margins)
  | nested (type : TypeDecl)

end

def fieldText (type : TypeName) (name : Name) : List Char :=
  Text.join [' '] ["private".toList, type.text, name.text] ++ [';']

def methodText (result : Option TypeName) (name : Name) (params : Params) : List Char :=
  Text.join [' '] ("public".toList :: (result.map TypeName.text).toList ++ [name.text]) ++
    '(' :: (params.text ++ ')' :: [' ', '{'])

mutual

def TypeDecl.lines : TypeDecl → List (List Char)
  | .decl header members closing =>
      header.lines ++ (Member.allLines members ++ [closing.around ['}']])

def Member.lines : Member → List (List Char)
  | .field margins type name => [margins.around (fieldText type name)]
  | .method margins result name params closing =>
      [margins.around (methodText result name params), closing.around ['}']]
  | .nested type => type.lines

def Member.allLines : List Member → List (List Char)
  | [] => []
  | m :: rest => m.lines ++ Member.allLines rest

end

def fieldDigest (type : TypeName) (name : Name) : List Char :=
  "  Field: ".toList ++ name.text ++ " : ".toList ++ type.text

/-- What is told of a method in a type of some name. -/
def methodDigest (owner name : Name) (params : Params) : List Char :=
  (if name.text = owner.text then "  Constructor: ".toList else "  Method: ".toList) ++ name.text ++
    ['('] ++ params.shown ++ [')']

mutual

/-- What is told of a type: its header, then its members. -/
def TypeDecl.digest : TypeDecl → List (List Char)
  | .decl header members _ => header.digest :: Member.allDigests header.name members

/-- What is told of a member of a type of some name. -/
def Member.digest (owner : Name) : Member → List (List Char)
  | .field _ type name => [fieldDigest type name]
  | .method _ _ name params _ => [methodDigest owner name params]
  | .nested type => type.digest

def Member.allDigests (owner : Name) : List Member → List (List Char)
  | [] => []
  | m :: rest => m.digest owner ++ Member.allDigests owner rest

end

/-- The source of a forest of types, with any number of line breaks at its end. -/
def sourceOf (types : List TypeDecl) (breaks : Nat) : List Char :=
  Text.join ['\n'] (types.flatMap TypeDecl.lines ++ List.replicate breaks [])

end CodeBrief.Java
