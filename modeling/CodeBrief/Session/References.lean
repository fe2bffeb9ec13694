import CodeBrief.Session.Workspace

/-!
# Reference files

The files that a user added, one for each place, in the order of their first
addition. Adding a file again reads it again and keeps its position; a file that
cannot be read changes nothing.
-/

namespace CodeBrief

/-- The reference files in order; their paths are absolute and distinct. -/
structure References where
  files : List ContextFile := []
  deriving DecidableEq, Repr

namespace References

/-- The files with one put in place of the one with its path, or at the end. -/
def insert (f : ContextFile) : List ContextFile → List ContextFile
  | [] => [f]
  | g :: rest => if g.path = f.path then f :: rest else g :: insert f rest

/-- The key of a spelled path. -/
def key (cwd : List String) (path : String) : Path :=
  (Path.ofString path).resolve cwd

/-- Whether a file with a path is among the files. -/
def contains (r : References) (path : String) : Bool :=
  r.files.any (·.path = path)

/-- The files after reading one more, or why it cannot be read. -/
def add (r : References) (w : Workspace) (path : String) : Except FileTree.Trouble References :=
  let p := key w.cwd path
  (w.read p).map fun text => ⟨insert (.ofPath p text .reference) r.files⟩

/-- The files without the one with a path. -/
def remove (r : References) (cwd : List String) (path : String) : References :=
  ⟨r.files.filter (·.path ≠ (key cwd path).text)⟩

end References
end CodeBrief
