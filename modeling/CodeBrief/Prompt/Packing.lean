import CodeBrief.Prompt.ContextFile

/-!
# Packing files into a budget

Files are taken in order while their sections fit. The first one that does not
fit is cut down to what is left if that is more than a little, and packing stops
there: no later file is looked at, however small.

Files are numbered within their kind, so the cost of a file depends on how many
of its kind came before.
-/

namespace CodeBrief.Packing

/-- A file is cut down only if more than this is left. -/
def leastSpaceToCut : Int := 500

/-- What a cut leaves free at least. -/
def cutReserve : Int := 200

/-- How many files of each kind have been taken. -/
structure Tally where
  sources : Nat := 0
  references : Nat := 0
  deriving DecidableEq, Repr

namespace Tally

/-- The files of a kind. -/
def count (t : Tally) : Kind → Nat
  | .source => t.sources
  | .reference => t.references

/-- One more file of a kind. -/
def add (t : Tally) : Kind → Tally
  | .source => { t with sources := t.sources + 1 }
  | .reference => { t with references := t.references + 1 }

end Tally

/-- The limit for the text of a file that is cut down into the space left. -/
def cutLimit (f : ContextFile) (number : Nat) (left : Int) : Int :=
  left - max cutReserve ((f.header number true).length + 1)

/-- Takes files into the space left; gives the files taken and the space left after them. -/
def fill : List ContextFile → Tally → (left : Int) → List ContextFile × Int
  | [], _, left => ([], left)
  | f :: rest, t, left =>
      let number := t.count f.kind + 1
      let cost : Int := f.sectionLength number false
      if cost ≤ left then
        let (taken, left) := fill rest (t.add f.kind) (left - cost)
        (f :: taken, left)
      else if leastSpaceToCut < left then ([f.cutTo (cutLimit f number left)], 0)
      else ([], left)

/-- What packing gives. -/
structure Packed where
  included : List ContextFile
  skipped : Nat
  used : Int
  budget : Int
  deriving DecidableEq, Repr

/-- Packs files into what the frame and the question leave of a prompt. -/
def pack (files : List ContextFile) (promptLimit frame question : Int) : Packed :=
  let budget := promptLimit - frame - question
  let (included, left) := fill files {} budget
  { included, skipped := files.length - included.length, used := max (budget - left) 0, budget }

end CodeBrief.Packing
