import CodeBrief.Command.Run
import CodeBrief.Terminal.Standard
import CodeBrief.Workspace.Changes

/-!
# The program

Reads what a command line is about into a disk in memory, runs the command there,
prints what it printed, and writes the files that it changed.
-/

namespace CodeBrief

/-- How many folders deep a tree is read. -/
def readingDepth : Nat := 64

/-- The tree at a path. Links, what cannot be read, and what lies deeper than a number of folders are left out. -/
def readTree : (depth : Nat) → (path : String) → IO (Option FileTree)
  | 0, _ => return none
  | depth + 1, path => do
      try
        let p := (← IO.currentDir) / path
        match (← p.symlinkMetadata).type with
        | .file => return some (.file (← IO.FS.readBinFile p).toList)
        | .dir =>
            let mut entries := []
            for e in ← p.readDir do
              if let some t ← readTree depth e.path.toString then
                entries := (e.fileName, t) :: entries
            return some (.folder entries)
        | _ => return none
      catch _ => return none

/-- A tree with the tree at a place of the file system read into it. -/
def withPlace (depth : Nat) (t : FileTree) (place : List String) : IO FileTree := do
  match ← readTree depth (Path.absolute place).text with
  | some new => return t.put place new
  | none => return t

/-- The places that a command line names: the roots of projects, other files, and folders to write to. -/
structure Named where
  roots : List Path
  files : List Path
  folders : List Path

/-- The places that the words of a command line name. -/
def Named.ofWords (words : List String) : Named :=
  let flags := Command.verboseFlag :: Command.forms.flatMap fun f => f.2.flags
  match Command.Given.read flags true words with
  | .error _ => ⟨[], [], []⟩
  | .ok g =>
      let files := g.values Command.referenceFlag ++ g.words
      let outputs := (g.values Command.outputFlag).map Path.ofString
      { roots := (g.values Command.pathFlag).map Path.ofString
        files := files.map Path.ofString ++ outputs
        folders := outputs.map fun p => { p with components := p.components.dropLast } }

/-- The nearest place at or above one, given last component first, that has a settings folder. -/
def projectPlace? : List String → IO (Option (List String))
  | [] => return none
  | name :: back => do
      let place := (name :: back).reverse
      let settings := (← IO.currentDir) / (Settings.folderPath (Path.absolute place)).text
      if ← settings.isDir then return some place else projectPlace? back

/-- What a command line is about: the current directory, the project that it is in, and what the words name. -/
def readDisk (words : List String) : IO Disk := do
  let cwd := Path.componentsOf (← IO.currentDir).toString.toList
  let named := Named.ofWords words
  let places (paths : List Path) : List (List String) := paths.map (Path.locate cwd)
  let mut tree := FileTree.folder []
  for place in places named.folders do
    if ← ((← IO.currentDir) / (Path.absolute place).text).isDir then
      tree := tree.put place (.folder [])
  for place in places named.files do
    tree ← withPlace 1 tree place
  for place in cwd :: (← projectPlace? cwd.reverse).toList ++ places named.roots do
    tree ← withPlace readingDepth tree place
  return ⟨tree, cwd⟩

/-- Writes the files that a run changed. -/
def writeChanges (old new : FileTree) : IO Unit := do
  for (place, bytes) in new.changes (some old) [] do
    IO.FS.createDirAll (Path.absolute place.dropLast).text
    IO.FS.writeBinFile (Path.absolute place).text bytes.toByteArray

end CodeBrief

open CodeBrief in
/-- Runs a command line. -/
def main (words : List String) : IO UInt32 := do
  let disk ← readDisk words
  let outcome := Command.run Terminal.standard disk words
  writeChanges disk.root outcome.console.disk.root
  IO.print outcome.console.output
  IO.eprint outcome.console.diagnostics
  if let .crashed why := outcome.ending then IO.eprintln ("Error: " ++ why.message)
  return outcome.ending.status.toUInt32
