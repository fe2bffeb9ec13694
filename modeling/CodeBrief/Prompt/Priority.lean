import CodeBrief.Prompt.ContextFile
import CodeBrief.Text.LowerCase

/-!
# The order of files

A file scores by fragments of its name and path: configuration before entry
points before services before everything else before tests. Files are ordered
by falling score, equal scores by rising path, and files equal in both keep
their order.
-/

namespace CodeBrief.Priority

/-- A score for files with one of the fragments in their name or path. -/
structure Rule where
  score : Nat
  inName : List String
  inPath : List String

/-- The rules; the first that applies decides. -/
def rules : List Rule :=
  [⟨10, ["config", "package.json", "tsconfig", "pom.xml"], []⟩,
   ⟨8, ["main", "index", "app"], ["src/main"]⟩,
   ⟨7, ["service", "manager", "provider", "controller"], []⟩,
   ⟨3, ["test", "spec"], ["test/", "__tests__"]⟩]

/-- The score of a file to which no rule applies. -/
def defaultScore : Nat := 5

/-- Whether a rule applies to a file with a lower-case name and path. -/
def Rule.applies (r : Rule) (name path : List Char) : Bool :=
  r.inName.any (fun part => Text.occursIn part.toList name) ||
    r.inPath.any (fun part => Text.occursIn part.toList path)

/-- The lower-case path with slashes only. -/
def pathKey (path : String) : List Char :=
  (Text.lower path).toList.map fun c => if c = '\\' then '/' else c

/-- The score of a file. -/
def score (f : ContextFile) : Nat :=
  match rules.find? (·.applies (Text.lower f.name).toList (pathKey f.path)) with
  | some r => r.score
  | none => defaultScore

/-- Whether text `a` comes before `b` or equals it, by code points. -/
def leChars : List Char → List Char → Bool
  | [], _ => true
  | _ :: _, [] => false
  | a :: as, b :: bs => a < b || (a == b && leChars as bs)

/-- Whether a scored file may stand before another. -/
def precedes (a b : ContextFile × Nat) : Bool :=
  b.2 < a.2 || (a.2 == b.2 && leChars a.1.path.toList b.1.path.toList)

/-- The files in packing order with their scores. -/
def rankedWithScores (files : List ContextFile) : List (ContextFile × Nat) :=
  (files.map fun f => (f, score f)).mergeSort precedes

/-- The files in packing order. -/
def rank (files : List ContextFile) : List ContextFile :=
  (rankedWithScores files).map (·.1)

end CodeBrief.Priority
