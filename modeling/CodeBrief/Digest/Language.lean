import CodeBrief.Path
import CodeBrief.Text.LowerCase

/-!
# Languages

The language of a file follows from its extension, whatever its case. Every
other file is generic text.
-/

namespace CodeBrief

/-- The languages that digests are made for, and generic text. -/
inductive Language where
  | java
  | typescript
  | tsx
  | javascript
  | generic
  deriving DecidableEq, Repr

namespace Language

/-- Every language, in the order in which a message lists them. -/
def all : List Language := [java, typescript, tsx, javascript, generic]

/-- The tag of a language. -/
def tag : Language → String
  | java => "java"
  | typescript => "typescript"
  | tsx => "tsx"
  | javascript => "javascript"
  | generic => "generic"

/-- The language with a tag. -/
def ofTag? (tag : String) : Option Language :=
  all.find? (·.tag = tag)

/-- The language of a lower-case extension. -/
def ofExtension (ext : String) : Language :=
  if ext = ".java" then java
  else if ext ∈ [".ts", ".mts", ".cts"] then typescript
  else if ext = ".tsx" then tsx
  else if ext ∈ [".js", ".jsx", ".mjs", ".cjs"] then javascript
  else generic

/-- The language of the file at a path. -/
def ofPath (path : String) : Language :=
  ofExtension (Text.lower (Path.ofString path).extension)

end Language
end CodeBrief
