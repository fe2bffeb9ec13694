import CodeBrief.Path
import CodeBrief.Text.Utf8

/-!
# Trees of files

A file holds bytes, a folder holds named entries in no particular order, each
name once. Places in a tree are lists of names from its root.

`place?` follows a path as the operating system does: every component but the
last must lead into a folder, and a double dot leads out of the folder reached.
`makeFolders` goes the same way and makes the folders that are missing.
-/

namespace CodeBrief

/-- A file or a folder. -/
inductive FileTree where
  | file (bytes : List UInt8)
  | folder (entries : List (String × FileTree))
  deriving Inhabited

namespace FileTree

/-- The entry of a name. -/
def find? (name : String) : List (String × FileTree) → Option FileTree
  | [] => none
  | (n, t) :: rest => if n = name then some t else find? name rest

/-- The entries with one put under a name. -/
def set (name : String) (t : FileTree) : List (String × FileTree) → List (String × FileTree)
  | [] => [(name, t)]
  | (n, u) :: rest => if n = name then (n, t) :: rest else (n, u) :: set name t rest

/-- The entries of a folder; a file has none. -/
def entries : FileTree → List (String × FileTree)
  | file _ => []
  | folder es => es

/-- Whether a tree is a folder. -/
def isFolder : FileTree → Bool
  | file _ => false
  | folder _ => true

/-- What stands at a place. -/
def at? : (place : List String) → FileTree → Option FileTree
  | [], t => some t
  | name :: rest, t =>
      match find? name t.entries with
      | some u => at? rest u
      | none => none

/-- Whether a folder stands at a place. -/
def folderAt (t : FileTree) (place : List String) : Bool :=
  match at? place t with
  | some u => u.isFolder
  | none => false

/-- The tree with something put at a place, folders made on the way. -/
def put (t : FileTree) (place : List String) (new : FileTree) : FileTree :=
  match place with
  | [] => new
  | name :: rest =>
      folder (set name (put ((find? name t.entries).getD (folder [])) rest new) t.entries)

/-- The tree without what stands at a place. -/
def erase : (place : List String) → FileTree → FileTree
  | [], t => t
  | [name], t => folder (t.entries.filter (·.1 ≠ name))
  | name :: rest, t =>
      match find? name t.entries with
      | some u => folder (set name (erase rest u) t.entries)
      | none => t

/-- Why a path leads nowhere, or not to a file. -/
inductive Trouble where
  | missing
  | notFolder
  | isFolder
  deriving DecidableEq, Repr

/-- The wording of a trouble. -/
def Trouble.message : Trouble → String
  | missing => "No such file or directory"
  | notFolder => "Not a directory"
  | isFolder => "Is a directory"

/-- Goes on from a place along components. -/
def follow (t : FileTree) : (place components : List String) → Except Trouble (List String)
  | place, [] => .ok place
  | place, c :: rest =>
      match at? place t with
      | some (.folder es) =>
          if c = ".." then follow t place.dropLast rest
          else match find? c es with
            | some _ => follow t (place ++ [c]) rest
            | none => .error .missing
      | some (.file _) => .error .notFolder
      | none => .error .missing

/-- Goes on from a place along components, with a folder made wherever there is nothing. -/
def makeFolders : FileTree → (place components : List String) → Except Trouble (FileTree × List String)
  | t, place, [] => .ok (t, place)
  | t, place, c :: rest =>
      match at? place t with
      | some (.folder es) =>
          if c = ".." then makeFolders t place.dropLast rest
          else match find? c es with
            | some _ => makeFolders t (place ++ [c]) rest
            | none => makeFolders (t.put (place ++ [c]) (folder [])) (place ++ [c]) rest
      | some (.file _) => .error .notFolder
      | none => .error .missing

end FileTree

/-- All files, and the folder that relative paths start from. -/
structure Disk where
  root : FileTree
  cwd : List String
  deriving Inhabited

namespace Disk

/-- The place that a path starts from. -/
def start (d : Disk) (p : Path) : List String :=
  if p.anchor = .relative then d.cwd else []

/-- The place that a path leads to. -/
def place? (d : Disk) (p : Path) : Except FileTree.Trouble (List String) :=
  d.root.follow (d.start p) p.components

/-- What a path leads to. -/
def lookUp (d : Disk) (p : Path) : Except FileTree.Trouble FileTree := do
  match d.root.at? (← d.place? p) with
  | some t => .ok t
  | none => .error .missing

/-- Whether a path leads anywhere. -/
def exists? (d : Disk) (p : Path) : Bool :=
  (d.lookUp p).toBool

/-- The bytes of the file that a path leads to. -/
def readBytes (d : Disk) (p : Path) : Except FileTree.Trouble (List UInt8) := do
  match ← d.lookUp p with
  | .file bytes => .ok bytes
  | .folder _ => .error .isFolder

/-- The text of the file that a path leads to, with marks for what is no text. -/
def readText (d : Disk) (p : Path) : Except FileTree.Trouble String := do
  return String.ofList (Text.Utf8.decode (← d.readBytes p))

/-- The disk with a text written to the file that a path leads to, which is made in a folder that is there. -/
def writeText (d : Disk) (p : Path) (text : String) : Except FileTree.Trouble Disk := do
  let new := FileTree.file (Text.Utf8.encode text)
  match d.lookUp p with
  | .ok (.folder _) => .error .isFolder
  | .ok (.file _) => return { d with root := d.root.put (← d.place? p) new }
  | .error _ =>
      let parent ← d.place? { p with components := p.components.dropLast }
      if d.root.folderAt parent then
        return { d with root := d.root.put (parent ++ [p.name]) new }
      else .error .notFolder

/-- The tree with the folders of a path made where they are missing, and the place of the last. -/
def makeFolders (d : Disk) (p : Path) : Except FileTree.Trouble (FileTree × List String) :=
  d.root.makeFolders (d.start p) p.components

/-- The path of the place that a path leads to when double dots are followed by name. -/
def resolve (d : Disk) (p : Path) : Path :=
  p.resolve d.cwd

end Disk
end CodeBrief
