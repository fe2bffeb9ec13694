import CodeBrief.Command.Basic
import CodeBrief.Session.Basic
import CodeBrief.Settings.Store
import CodeBrief.Terminal.Listing
import CodeBrief.Terminal.Panel
import CodeBrief.Terminal.Table

/-!
# Running commands

A run prints to two streams and may change the disk. It ends well, or with an
error that has been reported, or in a crash, which is a failure that no message
foresees. What was printed and written before the end stays.

Messages are markup, which the vocabulary of the terminal gives a meaning. A message
that closes a tag which is not open cannot be shown, and neither can one that is no
text, so the run crashes in its place: after `config set` has saved a value that the
message repeats, and after a prompt was printed or written whose files the summary
names.
-/

namespace CodeBrief.Command

open Terminal (Column Panel Table)
open Json (Value)
open Text (Wide)

/-- A failure that no message foresees. -/
inductive Crash where
  | unshown (why : Terminal.Trouble)
  | settingsNotText
  | settingsAreFolder
  | numberTooLong
  | nestedTooDeep
  | settingsUnsaved (why : Settings.SaveFailure)
  | ignoreFileNotText
  | outputUnwritten (why : FileTree.Trouble)
  | fileUnread (path : String) (why : FileTree.Trouble)
  deriving DecidableEq, Repr

/-- The wording of a crash. -/
def Crash.message : Crash → String
  | unshown .unmatchedTag => "a message closes a tag that is not open"
  | unshown .unreadableAction => "a message has an action that cannot be read"
  | unshown .unreadableStyle => "a message has a style that cannot be read"
  | unshown .unencodable => "a message is not text"
  | settingsNotText => "the settings file is not text"
  | settingsAreFolder => "the settings file is a folder"
  | numberTooLong => "a number has too many digits"
  | nestedTooDeep => "values are nested too deep"
  | settingsUnsaved .folderIsFile => "the settings folder is a file"
  | settingsUnsaved .pathThroughFile => "the root of the project is a file"
  | settingsUnsaved .fileIsFolder => "the settings file is a folder"
  | ignoreFileNotText => "the ignore file is not text"
  | outputUnwritten why => why.message
  | fileUnread path why => unreadableMessage path why

/-- Why a run ends before its command is done. -/
inductive Stop where
  | reported
  | crashed (why : Crash)
  deriving DecidableEq, Repr

/-- Where a run prints to. -/
inductive Stream where
  | output
  | diagnostics
  deriving DecidableEq, Repr

/-- The vocabulary of the terminal, the disk as it stands, what has been printed, and whether a user
wants to know more of what is done. -/
structure Console where
  terminal : Terminal.Vocabulary
  disk : Disk
  output : String := ""
  diagnostics : String := ""
  verbose : Bool := false

/-- A part of a run, which may stop it; the console keeps what was done. -/
abbrev Run := ExceptT Stop (StateM Console)

namespace Run

/-- Prints to a stream. -/
def print (stream : Stream) (text : String) : Run Unit :=
  modify fun c =>
    match stream with
    | .output => { c with output := c.output ++ text }
    | .diagnostics => { c with diagnostics := c.diagnostics ++ text }

/-- Prints lines to a stream. -/
def printLines (stream : Stream) (lines : List (List Char)) : Run Unit :=
  print stream (String.ofList (Terminal.unlines lines))

/-- The shown text of a message. -/
def shown (message : Wide) : Run (List Char) := do
  match Terminal.Markup.shown (← get).terminal message with
  | .ok text => return text
  | .error why => throw (.crashed (.unshown why))

/-- Prints a message. -/
def say (stream : Stream) (message : Wide) : Run Unit := do
  print stream (String.ofList (Terminal.paragraph (← shown message)))

/-- Prints what was done. -/
def succeed (stream : Stream) (message : Wide) : Run Unit := say stream (message.after "✓ ")

/-- Reports an error, which ends the run. -/
def fail {α : Type} (message : String) : Run α := do
  say .diagnostics ("✗ " ++ message)
  throw .reported

/-- Ends the run by a failure that no message foresees. -/
def crash {α : Type} (why : Crash) : Run α := throw (.crashed why)

/-- Prints notices as they are. -/
def note (notices : List Notice) : Run Unit :=
  print .diagnostics (String.join (notices.map fun n => n.message ++ "\n"))

/-! ## Roots and settings -/

/-- The current directory as a path. -/
def here : Path := ⟨.relative, []⟩

/-- The root at a given path, which must exist. -/
def rootAt (path : String) : Run Path := do
  let d := (← get).disk
  let root := d.resolve (Path.ofString path)
  if d.exists? root then return root
  else fail ("Path does not exist: " ++ path)

/-- The root at a given path, or the nearest project, or else the current directory. -/
def root (path : Option String) : Run Path := do
  match path with
  | some p => rootAt p
  | none =>
      let d := (← get).disk
      return (Settings.findRoot d here).getD (d.resolve here)

/-- The root at a given path, or the nearest project. -/
def projectRoot (path : Option String) : Run Path := do
  match path with
  | some p => rootAt p
  | none =>
      match Settings.findRoot (← get).disk here with
      | some root => return root
      | none => fail ("No promptpack project found. Run 'promptpack init' first, " ++
          "or specify a path with --path.")

/-- The settings of the project at a root. -/
def loadSettings (root : Path) : Run Settings.Project := do
  match Settings.load (← get).disk root with
  | .ok p => return p
  | .error (.malformed path cause) =>
      fail (Settings.malformedHead path ++ ": " ++ cause.message)
  | .error .notText => crash .settingsNotText
  | .error .isFolder => crash .settingsAreFolder
  | .error .numberTooLong => crash .numberTooLong
  | .error .nestedTooDeep => crash .nestedTooDeep

/-- Saves the settings of the project at a root. -/
def saveSettings (root : Path) (p : Settings.Project) : Run Unit := do
  match Settings.save (← get).disk root p with
  | .ok disk => modify fun c => { c with disk }
  | .error why => crash (.settingsUnsaved why)

/-! ## Sessions -/

/-- Adds reference files to a session, with a warning for each that cannot be read. -/
def addReferences (w : Workspace) : Session → List String → Run Session
  | s, [] => return s
  | s, path :: rest => do
      let (s, added, notices) := s.addReference w path
      note notices
      if !added then say .diagnostics ("! Could not read reference file: " ++ path)
      addReferences w s rest

/-- Tells a user who wants to know more how many source files were found. -/
def noteCollected (root : Path) (s : Session) : Run Unit := do
  if (← get).verbose then
    print .diagnostics ("Collected " ++ toString s.sources.length ++ " source files from " ++
      root.text ++ "\n")

/-- A session at a root with its source files and some reference files. -/
def session (root : Path) (references : List String) : Run Session := do
  let p ← loadSettings root
  let w := (← get).disk.workspace (some root)
  match (Session.start ⟨p.context, []⟩).refresh w with
  | .error _ => crash .ignoreFileNotText
  | .ok (s, notices) =>
      note notices
      noteCollected root s
      addReferences w s references

/-! ## Commands -/

/-- The version of the program. -/
def version : String := "0.1.0"

/-- The panel that a project is greeted with. -/
def banner : List (List Char) :=
  Panel.lines ⟨"", 2, 1⟩
    ("promptpack v" ++ version ++ "\nBudgeted prompt context for your codebase").toList

/-- Writes the settings of a project with its name and root. -/
def init (path : Option String) : Run Unit := do
  let d := (← get).disk
  let root := d.resolve (Path.ofString (path.getD "."))
  if !d.exists? root then fail ("Path does not exist: " ++ root.text)
  printLines .output banner
  let p ← loadSettings root
  saveSettings root { p with name := root.name, rootPath := root.text }
  succeed .output ("Configuration saved to " ++ (Settings.folderPath root).text)

/-- Writes a prompt to a file, or prints it. -/
def deliver (prompt : String) : (file : Option String) → Run Unit
  | some file => do
      match (← get).disk.writeText (Path.ofString file) prompt with
      | .ok disk => modify fun c => { c with disk }
      | .error why => crash (.outputUnwritten why)
      succeed .diagnostics ("Prompt written to " ++ file)
  | none => print .output (prompt ++ "\n")

/-- Prints a summary of a prompt. -/
def summary (p : AssembledPrompt) : Run Unit := do
  printLines .diagnostics (Panel.lines ⟨"Prompt", 1, 0⟩ (← shown p.summary))

/-- Assembles the prompt around a question. -/
def prompt (question : String) (path : Option String) (references : List String)
    (output : Option String) : Run Unit := do
  let s ← session (← root path) references
  note (s.assembleNotices question)
  let p := s.assemble question
  deliver p.prompt output
  summary p

/-- The table of the numbers of a session. -/
def statsTable (s : Session.Stats) : Table where
  title := "Context Statistics"
  columns := [⟨"Metric", false, true⟩, ⟨"Value", true, false⟩]
  rows := [["Source files".toList, Text.digits s.sourceFiles],
    ["Reference files".toList, Text.digits s.referenceFiles],
    ["Total size (chars)".toList, Text.grouped s.totalSize]]

/-- Prints numbers of files and characters. -/
def stats (path : Option String) (references : List String) : Run Unit := do
  let s ← session (← root path) references
  printLines .output (statsTable s.stats).lines

/-- The rows of files in packing order, numbered from `n` on; file names are messages. -/
def fileRows : (n : Nat) → List (ContextFile × Nat) → Run (List (List (List Char)))
  | _, [] => return []
  | n, (f, score) :: rest => do
      let name ← shown f.name
      let row := [Text.digits n, name, f.kind.tag.toList, Text.digits score,
        Text.grouped f.content.length]
      return row :: (← fileRows (n + 1) rest)

/-- The columns of the table of files. -/
def fileColumns : List Column :=
  [⟨"#", true, false⟩, ⟨"File", false, true⟩, ⟨"Kind", false, false⟩, ⟨"Priority", true, false⟩,
   ⟨"Chars", true, false⟩]

/-- Prints the files in packing order. -/
def files (path : Option String) (references : List String) : Run Unit := do
  let s ← session (← root path) references
  if s.ranked.isEmpty then say .output "No files in context."
  else
    let rows ← fileRows 1 s.ranked
    printLines .output (Table.lines ⟨"Context Files (packing order)", fileColumns, rows⟩)

/-- The limit of a digest: the one given, or that of the settings. -/
def digestLimit (root : Path) : (given : Option Int) → Run Int
  | some n => return n
  | none => return (← loadSettings root).context.maxFileLength

/-- Prints the digest of a file. -/
def summarize (file : String) (path : Option String) (limit : Option Int) : Run Unit := do
  let limit ← digestLimit (← root path) limit
  match (← get).disk.readText (Path.ofString file) with
  | .error why => crash (.fileUnread file why)
  | .ok text =>
      let language := Language.ofPath file
      let (digest, failure) := Summary.summarizeNoting language text limit
      note (failure.map Notice.unparsedScript).toList
      say .output ("i " ++ file ++ " (" ++ language.tag ++ ", " ++
        String.ofList (Text.grouped digest.length) ++ " chars)")
      print .output (String.ofList (Terminal.listing (Text.stripBy (· == '\n') digest.toList)))

/-- Prints the settings of a project. -/
def showSettings (path : Option String) : Run Unit := do
  let p ← loadSettings (← projectRoot path)
  if p.strings.all fun s => s.text?.isSome then
    print .output (Json.write .verbatim p.toValue ++ "\n")
  else crash (.unshown .unencodable)

/-- Prints the value at a key of the settings. -/
def getSetting (path : Option String) (key : Option String) : Run Unit := do
  let p ← loadSettings (← projectRoot path)
  match key with
  | none => fail "Usage: promptpack config get <key>"
  | some key =>
      match Settings.valueAt? (Settings.keyPath key) p.toValue with
      | some v => say .output (v.display.after (key ++ " = "))
      | none => fail ("Unknown key: " ++ key)

/-- The value that a word of the command line stands for: a text if it is nothing else. -/
def typedValue (word : String) : Run Value :=
  match Json.read word.toList with
  | .ok v => return v
  | .error (.syntaxAt ..) => return .str word
  | .error .numberTooLong => crash .numberTooLong
  | .error .nestedTooDeep => crash .nestedTooDeep

/-- The wording of a refused change of settings. -/
def refusalMessage : Settings.Refusal → String
  | .unknownKey key => "Unknown config key: " ++ key
  | .invalidValue key issues =>
      "Invalid value for " ++ key ++ ": " ++ Check.report "ProjectConfig" issues
  | .invalidContext issues =>
      "Invalid context configuration: " ++ Check.report "ContextConfig" issues

/-- Replaces the value at a key of the settings. -/
def setSetting (path : Option String) (key value : Option String) : Run Unit := do
  let root ← projectRoot path
  let p ← loadSettings root
  match key, value with
  | some key, some word =>
      let v ← typedValue word
      match p.set key v with
      | .ok q =>
          saveSettings root q
          succeed .output (v.display.after ("Set " ++ key ++ " = "))
      | .error refusal => fail (refusalMessage refusal)
  | _, _ => fail "Usage: promptpack config set <key> <value>"

/-- Runs a command. -/
def command : Command → Run Unit
  | .version => print .output ("promptpack, version " ++ version ++ "\n")
  | .help text => print .output text
  | .init path => init path
  | .prompt question path references output => prompt question path references output
  | .stats path references => stats path references
  | .files path references => files path references
  | .summarize file path limit => summarize file path limit
  | .showSettings path => showSettings path
  | .getSetting path key => getSetting path key
  | .setSetting path key value => setSetting path key value

end Run

/-- How a run ended. -/
inductive Ending where
  | success
  | reported
  | crashed (why : Crash)
  | refused
  deriving DecidableEq, Repr

/-- The exit status of an ending. -/
def Ending.status : Ending → Nat
  | .success => 0
  | .reported => 1
  | .crashed _ => 1
  | .refused => 2

/-- How a run ended, and the console that it left. -/
structure Outcome where
  ending : Ending
  console : Console

/-- The outcome of a run that starts with a console. -/
def Run.outcome (run : Run Unit) (start : Console) : Outcome :=
  match (ExceptT.run run).run start with
  | (.ok (), c) => ⟨.success, c⟩
  | (.error .reported, c) => ⟨.reported, c⟩
  | (.error (.crashed why), c) => ⟨.crashed why, c⟩

/-- The outcome of a command line on a disk, in a terminal with a vocabulary. -/
def run (terminal : Terminal.Vocabulary) (d : Disk) (words : List String) : Outcome :=
  match Request.read d words with
  | .error rejection => ⟨.refused, { terminal, disk := d, diagnostics := rejection.report }⟩
  | .ok request =>
      (Run.command request.command).outcome { terminal, disk := d, verbose := request.verbose }

end CodeBrief.Command
