import CodeBrief.Prompt.ContextFile

/-!
# The text of a prompt

A prompt is a preamble, the sections of the source files and of the reference
files under a title each, a summary if files were skipped, and the question.
`frameLength` bounds what is neither a section nor the question, before it is
known which files are taken. A prompt over its limit is cut and ends in a
marker (`enforceCap`).
-/

namespace CodeBrief.Layout

/-- What every prompt begins with. -/
def preamble : String :=
  "You are an AI assistant that helps developers understand and work with code.\nYou will be provided with reference files of a project.\n\n"

/-- The title over the source files. -/
def sourcesTitle : String := "=== Project Source Files ===\n"

/-- The title over the reference files. -/
def referencesTitle : String := "\n=== Reference Files (Manually Added) ===\n"

/-- The title over the summary. -/
def summaryTitle : String := "\n--- Context Summary ---\n"

/-- The title over the question. -/
def questionTitle : String := "\n=== User Question ===\n"

/-- What a prompt over its limit ends in. -/
def capMarker : List Char := "\n\n... (prompt truncated due to length)".toList

/-- What a cut prompt gives back for the marker. -/
def capReserve : Int := 100

/-- The summary of a prompt that skipped files. -/
def summary (included sources references skipped : Int) : String :=
  summaryTitle ++ "Included " ++ Json.intText included ++ " files (" ++ Json.intText sources ++
    " source, " ++ Json.intText references ++ " reference)\nSkipped " ++ Json.intText skipped ++
    " files due to length constraints\n"

/-- A bound on the text of a prompt outside its sections and its question, for a number of files. -/
def frameLength (count : Int) : Nat :=
  preamble.length + sourcesTitle.length + referencesTitle.length +
    (summary count count count count).length + questionTitle.length

/-- The sections of files of one kind, numbered from `number` on. -/
def sections : List ContextFile → (number : Nat) → String
  | [], _ => ""
  | f :: rest, number =>
      f.header number f.truncated ++ (f.content ++ "\n") ++ sections rest (number + 1)

/-- The sections of files of one kind under their title; nothing if there are none. -/
def titled (title : String) (files : List ContextFile) : String :=
  if files.isEmpty then "" else title ++ sections files 1

/-- The text of a prompt without a limit. -/
def layout (included : List ContextFile) (skipped : Int) (question : String) : String :=
  let sources := included.filter (·.kind = .source)
  let references := included.filter (·.kind = .reference)
  preamble ++ titled sourcesTitle sources ++ titled referencesTitle references ++
    (if 0 < skipped then summary included.length sources.length references.length skipped else "") ++
    questionTitle ++ question

/-- The first characters of a text; a negative count leaves off that many at the end. -/
def takeSigned (n : Int) (cs : List Char) : List Char :=
  if 0 ≤ n then cs.take n.toNat else cs.take (cs.length - (-n).toNat)

/-- A prompt cut to its limit if it is longer. -/
def capChars (limit : Int) (cs : List Char) : List Char :=
  if (cs.length : Int) ≤ limit then cs
  else takeSigned limit (cs.take (limit - capReserve).toNat ++ capMarker)

/-- A prompt cut to its limit if it is longer. -/
def enforceCap (limit : Int) (prompt : String) : String :=
  String.ofList (capChars limit prompt.toList)

end CodeBrief.Layout
