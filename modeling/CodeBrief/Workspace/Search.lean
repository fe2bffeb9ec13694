import CodeBrief.Workspace.FileTree
import CodeBrief.Workspace.Glob
import CodeBrief.Prompt.Priority
import CodeBrief.Text.Blank

/-!
# Finding files

The files of a folder come before its subfolders, both in the order of their
names by code point. A folder that is excluded is not entered, and the search
stops as soon as it has as many files as it was asked for.

The exclusions are patterns given by the caller and the lines of an ignore file
at the root (`ignorePatterns`), which is read strictly: if it is no text, the
search fails.
-/

namespace CodeBrief.Search

mutual

/-- A tree with the entries of every folder ordered by name. -/
def sorted : FileTree → FileTree
  | .file bytes => .file bytes
  | .folder es => .folder ((sortedEntries es).mergeSort fun a b => Priority.leChars a.1.toList b.1.toList)

/-- Entries with what they hold ordered by name. -/
def sortedEntries : List (String × FileTree) → List (String × FileTree)
  | [] => []
  | (name, t) :: rest => (name, sorted t) :: sortedEntries rest

end

/-- What a search looks for, by relative path. -/
structure Query where
  includes : String → Bool
  excludes : String → Bool

/-- A relative path as text. -/
def relative (place : List String) : String :=
  String.intercalate "/" place

/-- Whether a search gives the file at a relative place. -/
def Query.wants (q : Query) (place : List String) : Bool :=
  !q.excludes (relative place) && q.includes (relative place)

/-- The places of the wanted files among entries. -/
def filesIn (q : Query) (place : List String) (es : List (String × FileTree)) : List (List String) :=
  es.filterMap fun e =>
    if !e.2.isFolder && q.wants (place ++ [e.1]) then some (place ++ [e.1]) else none

mutual

/-- The first `room` wanted files of a tree whose folders are in order. -/
def walk (q : Query) (place : List String) (room : Nat) : FileTree → List (List String)
  | .file _ => []
  | .folder es =>
      let here := (filesIn q place es).take room
      if here.length < room then here ++ walkFolders q place (room - here.length) es else here

/-- The first `room` wanted files in the folders among entries. -/
def walkFolders (q : Query) (place : List String) (room : Nat) :
    List (String × FileTree) → List (List String)
  | [] => []
  | (name, t) :: rest =>
      if t.isFolder && !q.excludes (relative (place ++ [name])) then
        let found := walk q (place ++ [name]) room t
        if found.length < room then
          found ++ walkFolders q place (room - found.length) rest
        else found
      else walkFolders q place room rest

end

/-- The pattern of a line of an ignore file, if it has one; comments and exceptions have none. -/
def ignorePattern? (line : List Char) : Option String :=
  match Text.strip line with
  | '#' :: _ => none
  | '!' :: _ => none
  | cs =>
      match Text.stripBy (· == '/') cs with
      | [] => none
      | p => some (String.ofList p)

/-- The patterns in the text of an ignore file. -/
def ignorePatternsOf (text : List Char) : List String :=
  (Text.allLines (Text.normalizeBreaks text)).filterMap ignorePattern?

/-- The name of the ignore file. -/
def ignoreFile : String := ".gitignore"

/-- The patterns of the ignore file of a folder; `none` if it is no text. -/
def ignorePatterns (root : FileTree) : Option (List String) :=
  match FileTree.find? ignoreFile root.entries with
  | some (.file bytes) => (Text.Utf8.decode? bytes).map ignorePatternsOf
  | _ => some []

/-- Why a search fails. -/
inductive Failure where
  | rootNotFolder (root : String)
  | enumeration (message : String)
  | ignoreFileNotText
  deriving DecidableEq, Repr

/-- The wording of a failure that is reported. -/
def Failure.message : Failure → String
  | rootNotFolder root => "Workspace root is not a directory: " ++ root
  | enumeration message => message
  | ignoreFileNotText => "The ignore file is not text"

/-- The first `limit` wanted files below a folder on a disk. -/
def findFiles (d : Disk) (root : Path) (globs exclude : List Glob.Pattern) (limit : Int) :
    Except Failure (List Path) :=
  match d.root.at? root.components with
  | some (.folder es) =>
      if limit ≤ 0 then .ok []
      else match ignorePatterns (.folder es) with
        | none => .error .ignoreFileNotText
        | some ignored =>
            let q : Query := ⟨Glob.includes globs, Glob.excludes (exclude ++ ignored.map Text.points)⟩
            .ok ((walk q [] limit.toNat (sorted (.folder es))).map fun place =>
              Path.absolute (root.components ++ place))
  | _ => .error (.rootNotFolder root.text)

end CodeBrief.Search
