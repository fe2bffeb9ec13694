import CodeBrief.Check
import CodeBrief.Json.Writer

/-!
# Settings

The settings of a project are its name, its root and the context settings: three
limits and two lists. They are checked from a value (`Project.check`), where
unknown members are ignored and absent ones have defaults, and written back as a
value (`Project.toValue`).
-/

namespace CodeBrief.Settings

open Check (Checked)
open Json (Value)
open Text (Wide)

/-- What limits and directs the context of a prompt. -/
structure Context where
  maxFiles : Int
  maxPromptLength : Int
  maxFileLength : Int
  extensions : List Wide
  excludePatterns : List Wide
  deriving DecidableEq, Repr

/-- The settings of a project. -/
structure Project where
  name : Wide
  rootPath : Wide
  context : Context
  deriving DecidableEq, Repr

/-- The context settings of a project that says nothing. -/
def defaultContext : Context where
  maxFiles := 50
  maxPromptLength := 50000
  maxFileLength := 3000
  extensions :=
    ["js", "ts", "jsx", "tsx", "py", "java", "cpp", "c", "cs", "php", "rb", "go", "rs", "swift", "kt"]
  excludePatterns :=
    ["node_modules", "__pycache__", ".git", ".promptpack", "dist", "build", ".venv", "venv", "vendor",
     "*.min.js"]

/-- The settings of a project that says nothing. -/
def defaultProject : Project := ⟨"", ".", defaultContext⟩

/-- A limit is a whole number above zero. -/
def limit : Value → Checked Int := Check.intAbove 0

/-- A list of strings. -/
def strings : Value → Checked (List Wide) := Check.list Check.string

/-- Context settings from the members of a value. -/
def Context.check (ms : List (Wide × Value)) : Checked Context :=
  (Checked.map Context.mk (Check.optional "max_context_files" limit defaultContext.maxFiles ms))
    |>.app (Check.optional "max_prompt_length" limit defaultContext.maxPromptLength ms)
    |>.app (Check.optional "max_file_content_length" limit defaultContext.maxFileLength ms)
    |>.app (Check.optional "extensions" strings defaultContext.extensions ms)
    |>.app (Check.optional "exclude_patterns" strings defaultContext.excludePatterns ms)

/-- The settings of a project from the members of a value. -/
def Project.check (ms : List (Wide × Value)) : Checked Project :=
  (Checked.map Project.mk (Check.optional "name" Check.string "" ms))
    |>.app (Check.optional "root_path" Check.string "." ms)
    |>.app (Check.optional "context" (Check.record "ContextConfig" Context.check) defaultContext ms)

/-- The members of context settings. -/
def Context.members (c : Context) : List (Wide × Value) :=
  [("max_context_files", .int c.maxFiles), ("max_prompt_length", .int c.maxPromptLength),
   ("max_file_content_length", .int c.maxFileLength),
   ("extensions", .list (c.extensions.map .str)),
   ("exclude_patterns", .list (c.excludePatterns.map .str))]

/-- The members of the settings of a project. -/
def Project.members (p : Project) : List (Wide × Value) :=
  [("name", .str p.name), ("root_path", .str p.rootPath), ("context", .object p.context.members)]

/-- The settings of a project as a value. -/
def Project.toValue (p : Project) : Value := .object p.members

/-- The strings in the settings of a project. -/
def Project.strings (p : Project) : List Wide :=
  p.name :: p.rootPath :: p.context.extensions ++ p.context.excludePatterns

/-- The limits as they stand at one moment. -/
structure Limits where
  maxFiles : Int
  maxPromptChars : Int
  maxFileChars : Int
  deriving DecidableEq, Repr

/-- The limits of context settings. -/
def Context.limits (c : Context) : Limits :=
  ⟨c.maxFiles, c.maxPromptLength, c.maxFileLength⟩

/-- Context settings whose limits are all above zero. -/
def Context.Valid (c : Context) : Prop :=
  0 < c.maxFiles ∧ 0 < c.maxPromptLength ∧ 0 < c.maxFileLength

end CodeBrief.Settings
