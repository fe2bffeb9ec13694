import CodeBrief.Workspace.Search

/-!
# Workspaces

What a session needs of the place it works in: a root, a search for files, and
their texts. A disk with a root is one; a session runs over any other as well.
-/

namespace CodeBrief

/-- A place to work in, at one moment. -/
structure Workspace where
  root : Option Path
  cwd : List String
  find : (globs exclude : List Glob.Pattern) → (limit : Int) → Except Search.Failure (List Path)
  read : Path → Except FileTree.Trouble String

/-- The workspace of a disk below a root. -/
def Disk.workspace (d : Disk) (root : Option Path) : Workspace where
  root := root.map d.resolve
  cwd := d.cwd
  find globs exclude limit :=
    match root with
    | some r => Search.findFiles d (d.resolve r) globs exclude limit
    | none => .ok []
  read := d.readText

end CodeBrief
