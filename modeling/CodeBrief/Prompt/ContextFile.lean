import CodeBrief.Path
import CodeBrief.Truncation
import CodeBrief.Check

/-!
# Files of a prompt

A context file is a file with the text that a prompt may show of it. Source
files come from a search of the workspace, reference files were added by name.
In a prompt a file is a section: a header line with its number, its text, and a
line feed.
-/

namespace CodeBrief

/-- Whether a file was found or added. -/
inductive Kind where
  | source
  | reference
  deriving DecidableEq, Repr

namespace Kind

/-- The tag of a kind. -/
def tag : Kind → String
  | source => "source"
  | reference => "reference"

/-- The word for a kind in a section header. -/
def label : Kind → String
  | source => "Source"
  | reference => "Reference"

end Kind

/-- A file and the text that stands for it. -/
structure ContextFile where
  path : String
  name : String
  content : String
  kind : Kind
  truncated : Bool := false
  deriving DecidableEq, Repr

namespace ContextFile

/-- The file at a path with a text; it is named by the last component. -/
def ofPath (path : Path) (content : String) (kind : Kind) : ContextFile :=
  ⟨path.text, path.name, content, kind, false⟩

/-- Every kind with its tag. -/
def kinds : List (String × Kind) := [Kind.source, .reference].map fun k => (k.tag, k)

/-- A whole file from the members of a value. -/
def check (ms : List (Text.Wide × Json.Value)) : Check.Checked ContextFile :=
  .app (.app (.app (.map (fun path name content kind => ⟨path, name, content, kind, false⟩)
        (Check.required "path" Check.text ms))
      (Check.required "name" Check.text ms))
    (Check.required "content" Check.text ms))
  (Check.required "kind" (Check.choice kinds) ms)

/-- What is added to the name of a cut file. -/
def cutSuffix (cut : Bool) : String :=
  if cut then " (truncated)" else ""

/-- The header of a file as the one with a number in its section. -/
def header (f : ContextFile) (number : Int) (cut : Bool) : String :=
  "\n--- " ++ f.kind.label ++ " File " ++ Json.intText number ++ ": " ++ f.name ++ cutSuffix cut ++ " ---\n"

/-- The characters that a file takes in a prompt: header, text and a line feed. -/
def sectionLength (f : ContextFile) (number : Int) (cut : Bool) : Nat :=
  (f.header number cut).length + f.content.length + 1

/-- The file with its text capped and marked as cut. -/
def cutTo (f : ContextFile) (limit : Int) : ContextFile :=
  { f with content := truncate f.content limit, truncated := true }

end ContextFile
end CodeBrief
