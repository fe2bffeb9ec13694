import CodeBrief.Session.Notice
import CodeBrief.Session.Workspace
import CodeBrief.Digest.Summary
import CodeBrief.Settings.Basic

/-!
# Collecting source files

The files that a search gives become context files with their summaries, in the
order found. A file that cannot be read is noted and left out; a search that
fails for a foreseen reason is noted and gives no files.
-/

namespace CodeBrief.Collection

/-- The first items of a list; a negative count leaves off that many at the end. -/
def takeSigned {α : Type} (n : Int) (xs : List α) : List α :=
  if 0 ≤ n then xs.take n.toNat else xs.take (xs.length - (-n).toNat)

/-- The context file of a path, or none, with what is to be noted. -/
def fileOf (w : Workspace) (limit : Int) (path : Path) : Option ContextFile × List Notice :=
  match w.read path with
  | .error why => (none, [.unreadableSource path.text why])
  | .ok source =>
      let (summary, failure) := Summary.summarizeNoting (Language.ofPath path.text) source limit
      (some (.ofPath path (truncate summary limit) .source),
        (failure.map Notice.unparsedScript).toList)

/-- The context files of the files that a search gives, or the reason why it failed in an unforeseen way. -/
def collect (w : Workspace) (extensions exclude : List Text.Wide) (maxFiles maxLength : Int) :
    Except Search.Failure (List ContextFile × List Notice) :=
  match w.root with
  | none => .ok ([], [])
  | some _ =>
      match w.find (Glob.ofExtensions extensions) (exclude.map Text.Wide.points) maxFiles with
      | .error .ignoreFileNotText => .error .ignoreFileNotText
      | .error why => .ok ([], [.searchFailed why])
      | .ok paths =>
          let found := (takeSigned maxFiles paths).map (fileOf w maxLength)
          .ok (found.filterMap (·.1), found.flatMap (·.2))

end CodeBrief.Collection
