import CodeBrief.Proofs.Layout

/-!
# What a frame is reserved for

Packing has to know what a prompt needs around its files before it knows the files.
A layout is therefore taken apart into pieces: the files with their numbers, the
question, and the outline, which is all the rest (`Layout.pieces`). Put together again
the pieces are the layout, the file pieces are the files of each kind numbered
from one, and the outline stays within the frame of any number of files that
covers those included and those skipped (`pieces_within_frame`).
-/

namespace CodeBrief.Layout

/-- A piece of a layout: text around the files, a file with its number, or the question. -/
inductive Piece where
  | outline (text : String)
  | file (f : ContextFile) (number : Nat)
  | question (text : String)

namespace Piece

/-- The text of a piece. That of a file is its section: header, content and a line feed. -/
def text : Piece → String
  | outline t => t
  | file f number => f.header number f.truncated ++ (f.content ++ "\n")
  | question t => t

/-- The text of a piece around the files. -/
def outline? : Piece → Option String
  | outline t => some t
  | _ => none

/-- The file of a piece, with its number. -/
def file? : Piece → Option (ContextFile × Nat)
  | file f number => some (f, number)
  | _ => none

/-- The text of a piece that is the question. -/
def question? : Piece → Option String
  | question t => some t
  | _ => none

end Piece

/-- The pieces of files of one kind under their title; none if there are no files. -/
def titledPieces (title : String) (files : List ContextFile) : List Piece :=
  if files.isEmpty then []
  else .outline title :: (files.zipIdx 1).map fun f => .file f.1 f.2

/-- The pieces of a layout. -/
def pieces (included : List ContextFile) (skipped : Int) (question : String) : List Piece :=
  let sources := included.filter (·.kind = .source)
  let references := included.filter (·.kind = .reference)
  [.outline preamble] ++ titledPieces sourcesTitle sources ++
    titledPieces referencesTitle references ++
    (if 0 < skipped then
      [.outline (summary included.length sources.length references.length skipped)] else []) ++
    [.outline questionTitle, .question question]

/-- What a layout has outside the sections of its files and the question. -/
def outline (included : List ContextFile) (skipped : Int) (question : String) : String :=
  String.join ((pieces included skipped question).filterMap Piece.outline?)

variable {included : List ContextFile} {skipped n : Int} {question : String}

/-! ## Put together -/

theorem sections_eq_join (files : List ContextFile) (first : Nat) :
    sections files first =
      String.join ((files.zipIdx first).map fun f => (Piece.file f.1 f.2).text) := by
  induction files generalizing first with
  | nil => rfl
  | cons f rest ih => rw [sections, ih, List.zipIdx_cons, List.map_cons, String.join_cons, Piece.text]

theorem titled_eq_join (title : String) (files : List ContextFile) :
    titled title files = String.join ((titledPieces title files).map Piece.text) := by
  rw [titled, titledPieces]
  split
  · rfl
  · rw [List.map_cons, String.join_cons, List.map_map, sections_eq_join]
    rfl

/-- The pieces of a layout, put together, are the layout. -/
theorem layout_eq_join (included : List ContextFile) (skipped : Int) (question : String) :
    layout included skipped question =
      String.join ((pieces included skipped question).map Piece.text) := by
  rw [layout, pieces]
  simp only [List.map_append, String.join_append, ← titled_eq_join]
  split <;> simp [Piece.text, String.append_assoc]

/-! ## Taken apart -/

/-- What is picked from files under their title: what the title gives, and what each file gives. -/
theorem filterMap_titledPieces {α : Type} (pick : Piece → Option α) (title : String)
    (files : List ContextFile) :
    (titledPieces title files).filterMap pick =
      if files.isEmpty then []
      else (pick (.outline title)).toList ++
        (files.zipIdx 1).filterMap fun f => pick (.file f.1 f.2) := by
  rw [titledPieces]
  split
  · rfl
  · rw [List.filterMap_cons, List.filterMap_map]
    cases pick (.outline title) <;> rfl

theorem filterMap_file?_titledPieces (title : String) (files : List ContextFile) :
    (titledPieces title files).filterMap Piece.file? = files.zipIdx 1 := by
  rw [filterMap_titledPieces]
  split
  · next h => rw [List.isEmpty_iff.mp h, List.zipIdx_nil]
  · exact List.filterMap_some

theorem filterMap_outline?_titledPieces (title : String) (files : List ContextFile) :
    (titledPieces title files).filterMap Piece.outline? = if files.isEmpty then [] else [title] := by
  simp [filterMap_titledPieces, Piece.outline?, List.filterMap_eq_nil_iff.mpr]

theorem filterMap_question?_titledPieces (title : String) (files : List ContextFile) :
    (titledPieces title files).filterMap Piece.question? = [] := by
  simp [filterMap_titledPieces, Piece.question?]

theorem length_outline (included : List ContextFile) (skipped : Int) (question : String) :
    (outline included skipped question).length = outlineLength included skipped := by
  have htitle (title : String) (files : List ContextFile) :
      (String.join (if files.isEmpty then [] else [title])).length = titleLength title files := by
    rw [titleLength]
    split <;> simp
  rw [outline, pieces, outlineLength, summaryLength]
  simp only [List.filterMap_append, filterMap_outline?_titledPieces, String.join_append,
    String.length_append, htitle]
  split <;> simp [List.filterMap_cons, Piece.outline?]

/-- A layout is files, numbered in their kind, the question, and an outline that stays within the
frame of any number of files that covers those included and those skipped. -/
theorem pieces_within_frame (h : included.length + skipped ≤ n) (question : String) :
    layout included skipped question =
      String.join ((pieces included skipped question).map Piece.text) ∧
    (pieces included skipped question).filterMap Piece.file? =
      (included.filter (·.kind = .source)).zipIdx 1 ++
        (included.filter (·.kind = .reference)).zipIdx 1 ∧
    (pieces included skipped question).filterMap Piece.question? = [question] ∧
    (outline included skipped question).length ≤ frameLength n := by
  refine ⟨layout_eq_join included skipped question, ?_, ?_, ?_⟩
  · simp only [pieces, List.filterMap_append, filterMap_file?_titledPieces]
    split <;> simp [List.filterMap_cons, Piece.file?]
  · simp only [pieces, List.filterMap_append, filterMap_question?_titledPieces]
    split <;> simp [List.filterMap_cons, Piece.question?]
  · rw [length_outline]
    exact outlineLength_le h

/-- A file of either kind, one of them cut, and nine skipped: the count of all has more digits than
any other. -/
theorem pieces_within_frame_both_kinds :
    let source : ContextFile := ⟨"/p/a.py", "a.py", "x", .source, true⟩
    let reference : ContextFile := ⟨"/p/b.md", "b.md", "", .reference, false⟩
    let ps := pieces [reference, source] 9 "why?"
    ([reference, source].length : Int) + 9 ≤ 11 ∧
    layout [reference, source] 9 "why?" = String.join (ps.map Piece.text) ∧
    ps.filterMap Piece.file? = [(source, 1), (reference, 1)] ∧
    ps.filterMap Piece.question? = ["why?"] ∧
    (outline [reference, source] 9 "why?").length ≤ frameLength 11 := by
  intro source reference ps
  have hcount : ([reference, source].length : Int) + 9 ≤ 11 := by decide
  exact ⟨hcount, pieces_within_frame hcount "why?"⟩

end CodeBrief.Layout
