import CodeBrief.Settings.Basic
import CodeBrief.Json.Reader
import CodeBrief.Workspace.FileTree

/-!
# Settings on disk

A project keeps its settings in one file of a folder of its own below its root.
Without the file the settings are the defaults. A file that is not a value, not
an object or not valid settings is malformed; a file that is no text, a folder
in its place, a number of too many digits and values nested too deep are failures
of another kind, which no report foresees.
-/

namespace CodeBrief.Settings

open Check (Issue)
open Json (Value)

/-- The folder that marks a project. -/
def folderName : String := ".promptpack"

/-- The file that holds the settings. -/
def fileName : String := "config.json"

/-- The folder of the settings of a project. -/
def folderPath (root : Path) : Path := root.child folderName

/-- The file of the settings of a project. -/
def filePath (root : Path) : Path := (folderPath root).child fileName

/-- What is wrong with a malformed settings file. -/
inductive Malformed where
  | syntaxAt (what : Json.Complaint) (text : List Char) (left : Nat)
  | notObject (typeName : String)
  | invalid (issues : List Issue)

/-- The wording of what is wrong with a malformed settings file. -/
def Malformed.message : Malformed → String
  | .syntaxAt what text left => what.locate text left
  | .notObject typeName =>
      "promptpack.config.ProjectConfig() argument after ** must be a mapping, not " ++ typeName
  | .invalid issues => Check.report "ProjectConfig" issues

/-- How a message about a malformed settings file begins. -/
def malformedHead (path : String) : String := "Malformed config file " ++ path

/-- Why settings could not be loaded. -/
inductive LoadFailure where
  | malformed (path : String) (cause : Malformed)
  | notText
  | numberTooLong
  | nestedTooDeep
  | isFolder

/-- The settings in the text of a settings file. -/
def parse (path : String) (text : List Char) : Except LoadFailure Project :=
  match Json.read text with
  | .error (.syntaxAt what left) => .error (.malformed path (.syntaxAt what text left))
  | .error .numberTooLong => .error .numberTooLong
  | .error .nestedTooDeep => .error .nestedTooDeep
  | .ok (.object ms) =>
      match Project.check ms with
      | .ok p => .ok p
      | .error issues => .error (.malformed path (.invalid issues))
  | .ok v => .error (.malformed path (.notObject (Check.typeName v)))

/-- The settings of a project without a settings file. -/
def absent (root : Path) : Project := ⟨root.name, root.text, defaultContext⟩

/-- The settings of the project at a root. -/
def load (d : Disk) (root : Path) : Except LoadFailure Project :=
  match d.lookUp (filePath root) with
  | .error _ => .ok (absent root)
  | .ok (.folder _) => .error .isFolder
  | .ok (.file bytes) =>
      match Text.Utf8.decode? bytes with
      | none => .error .notText
      | some text => parse (filePath root).text (Text.normalizeBreaks text)

/-- The text of a settings file. -/
def fileText (p : Project) : String :=
  Json.write .ascii p.toValue

/-- Why settings could not be saved: a file stands where a folder is needed, or a folder where the file goes. -/
inductive SaveFailure where
  | folderIsFile
  | pathThroughFile
  | fileIsFolder
  deriving DecidableEq, Repr

/-- The disk with the settings of the project at a root written to its settings file. -/
def save (d : Disk) (root : Path) (p : Project) : Except SaveFailure Disk :=
  match d.makeFolders (folderPath root) with
  | .error _ => .error .pathThroughFile
  | .ok (t, place) =>
      match t.at? place with
      | some (.folder es) =>
          match FileTree.find? fileName es with
          | some (.folder _) => .error .fileIsFolder
          | _ =>
              let new := FileTree.file (Text.Utf8.encode (fileText p))
              .ok { d with root := t.put (place ++ [fileName]) new }
      | _ => .error .folderIsFile

/-- The nearest folder at or above a place that has a settings folder. -/
def findRoot (d : Disk) (start : Path) : Option Path :=
  (climb d.root (d.resolve start).components.reverse).map Path.absolute
where
  /-- Looks at a place, given last component first, and then above it. -/
  climb (t : FileTree) : List String → Option (List String)
    | [] => if t.folderAt [folderName] then some [] else none
    | name :: back =>
        let here := (name :: back).reverse
        if t.folderAt (here ++ [folderName]) then some here else climb t back

end CodeBrief.Settings
