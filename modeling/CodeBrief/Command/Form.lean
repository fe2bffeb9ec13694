import CodeBrief.Text.Basic

/-!
# Forms of commands

A form says what may stand on the command line behind the name of a command: the
options, by a long and perhaps a short name, and the operands in their order. The
usage line and the help of a command follow from its form.
-/

namespace CodeBrief.Command

/-- What is given as a value: any text, a whole number, one of some words, or the path of a file. -/
inductive ValueKind where
  | text
  | whole
  | oneOf (words : List String)
  | file
  deriving DecidableEq, Repr

/-- An option; one without a kind takes no value. -/
structure Flag where
  long : String
  short : Option Char
  kind : Option ValueKind
  help : String
  deriving DecidableEq, Repr

/-- How often a value may be given. -/
inductive Occurrence where
  | once
  | atMostOnce
  | anyNumber
  deriving DecidableEq, Repr

/-- A value that is given by its position. -/
structure Operand where
  name : String
  kind : ValueKind
  occurs : Occurrence
  deriving DecidableEq, Repr

/-- What may be given to a command. -/
structure Form where
  name : List String
  flags : List Flag
  operands : List Operand
  about : List String
  deriving DecidableEq, Repr

/-- The names of an option, the long one first. -/
def Flag.names (f : Flag) : List String :=
  f.long :: (f.short.map fun c => String.ofList ['-', c]).toList

/-- The names of an option in a message. -/
def Flag.label (f : Flag) : String :=
  String.intercalate " / " (f.names.map fun n => "'" ++ n ++ "'")

/-- The sign of what an option takes, in a help text. -/
def ValueKind.sign : ValueKind → String
  | .whole => " INTEGER"
  | _ => " TEXT"

/-- An option in a help text, the short name first. -/
def Flag.entry (f : Flag) : String :=
  String.intercalate ", " f.names.reverse ++ (f.kind.map ValueKind.sign).getD ""

/-- An operand in a usage line. -/
def Operand.sign (o : Operand) : String :=
  match o.occurs with
  | .once => o.name
  | .atMostOnce => "[" ++ o.name ++ "]"
  | .anyNumber => "[" ++ o.name ++ "]..."

/-- The usage line of a form. -/
def Form.usage (f : Form) : String :=
  "Usage: " ++ String.intercalate " " (f.name ++ "[OPTIONS]" :: f.operands.map Operand.sign) ++ "\n"

/-- Where a user is told to look for help. -/
def Form.hint (f : Form) : String :=
  "Try '" ++ String.intercalate " " (f.name ++ ["--help"]) ++ "' for help.\n"

/-- Entries with their explanations, which start in the same column. -/
def glossary (title : String) (entries : List (String × String)) : String :=
  let column := (entries.map fun e => e.1.length).foldl max 0 + 2
  "\n" ++ title ++ ":\n" ++ String.join (entries.map fun e =>
    "  " ++ e.1 ++ String.ofList (List.replicate (column - e.1.length) ' ') ++ e.2 ++ "\n")

/-- The help of a form. -/
def Form.help (f : Form) : String :=
  f.usage ++ String.join (f.about.map fun line => "\n  " ++ line ++ "\n") ++
    glossary "Options" (f.flags.map fun o => (o.entry, o.help))

/-! ## The forms of this program -/

/-- The name that the program goes by in usage lines. -/
def programName : String := "main"

/-- The option that asks for help. -/
def helpFlag : Flag := ⟨"--help", none, none, "Show this message and exit."⟩

/-- The option that asks for the version. -/
def versionFlag : Flag := ⟨"--version", none, none, "Show the version and exit."⟩

/-- The option that asks for more notices. -/
def verboseFlag : Flag := ⟨"--verbose", some 'v', none, "Show log output."⟩

/-- The option that names the root of a project. -/
def pathFlag : Flag := ⟨"--path", some 'p', some .text, "Path to the project root."⟩

/-- The option that names a reference file. -/
def referenceFlag : Flag := ⟨"--ref", some 'r', some .text, "Reference file (can specify multiple)."⟩

/-- The option that names the file that a prompt goes to. -/
def outputFlag : Flag :=
  ⟨"--output", some 'o', some .text, "Write the prompt to a file instead of stdout."⟩

/-- The option that limits a digest. -/
def limitFlag : Flag := ⟨"--max-len", some 'n', some .whole, "Digest length cap."⟩

/-- The form of the program itself, whose operands are the name of a command and what is given to it. -/
def programForm : Form where
  name := [programName]
  flags := [versionFlag, verboseFlag, helpFlag]
  operands := [⟨"COMMAND", .text, .once⟩, ⟨"ARGS", .text, .anyNumber⟩]
  about := ["promptpack - budgeted prompt context for your codebase."]

/-- The form of a command. -/
def formOf (name : String) (flags : List Flag) (operands : List Operand) (about : List String) : Form :=
  ⟨[programName, name], flags ++ [helpFlag], operands, about⟩

/-- Writes the settings of a project. -/
def initForm : Form :=
  formOf "init" [pathFlag] [] ["Write a default configuration for a project."]

/-- Assembles a prompt. -/
def promptForm : Form :=
  formOf "prompt" [pathFlag, referenceFlag, outputFlag] [⟨"MESSAGE", .text, .once⟩]
    ["Assemble the full prompt for MESSAGE.", "Examples:",
     "    promptpack prompt \"How does the login flow work?\"",
     "    promptpack prompt \"Review this design\" --ref docs/design.md -o prompt.txt"]

/-- Shows numbers of files and characters. -/
def statsForm : Form :=
  formOf "stats" [pathFlag, referenceFlag] [] ["Show context statistics."]

/-- Lists the files in packing order. -/
def filesForm : Form :=
  formOf "files" [pathFlag, referenceFlag] []
    ["List context files in packing order with their priority."]

/-- Shows the digest of a file. -/
def summarizeForm : Form :=
  formOf "summarize" [pathFlag, limitFlag] [⟨"FILE", .file, .once⟩]
    ["Print the structural digest of FILE."]

/-- What can be done with settings. -/
def settingsActions : List String := ["set", "get", "show"]

/-- Shows and changes settings. -/
def configForm : Form :=
  formOf "config" [pathFlag]
    [⟨"\x7b" ++ String.intercalate "|" settingsActions ++ "\x7d", .oneOf settingsActions, .once⟩,
     ⟨"KEY", .text, .atMostOnce⟩, ⟨"VALUE", .text, .atMostOnce⟩]
    ["Manage promptpack configuration."]

/-- The forms of all commands by name, in alphabetical order. -/
def forms : List (String × Form) :=
  [("config", configForm), ("files", filesForm), ("init", initForm), ("prompt", promptForm),
   ("stats", statsForm), ("summarize", summarizeForm)]

/-- The help of the program. -/
def programHelp : String :=
  programForm.help ++
    glossary "Commands" (forms.map fun f => (f.1, String.intercalate " " (f.2.about.take 1)))

end CodeBrief.Command
