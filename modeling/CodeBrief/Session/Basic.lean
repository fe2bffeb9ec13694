import CodeBrief.Session.Collection
import CodeBrief.Session.References
import CodeBrief.Prompt.Assembled
import CodeBrief.Prompt.Packing
import CodeBrief.Prompt.Priority
import CodeBrief.Settings.Live

/-!
# Sessions

A session holds the source files of its last refresh, the reference files, and
live settings. A prompt ranks all files, packs them into what the frame, a
buffer and the question leave of its limit, lays them out and caps the result.

The workspace may change between two operations, so each takes it as it stands.
-/

namespace CodeBrief

/-- What is kept free in a prompt on top of the frame. -/
def promptBuffer : Int := 100

/-- The state of a session. -/
structure Session where
  sources : List ContextFile := []
  references : References := {}
  settings : Settings.Live String

namespace Session

/-- The name under which a session listens to its own settings. -/
def listenerName : String := "session"

/-- A session that listens to settings and has no files. -/
def start (settings : Settings.Live String) : Session :=
  { settings := settings.subscribe listenerName }

/-- The context settings in use. -/
def context (s : Session) : Settings.Context := s.settings.context

/-- The session after collecting its source files anew, with what is to be noted. -/
def refresh (s : Session) (w : Workspace) : Except Search.Failure (Session × List Notice) :=
  let c := s.context
  (Collection.collect w c.extensions c.excludePatterns c.maxFiles c.maxFileLength).map fun found =>
    ({ s with sources := found.1 }, found.2)

/-- An extension in lower case without dots in front. -/
def extensionKey (ext : String) : String :=
  Text.lower (String.ofList (ext.toList.dropWhile (· == '.')))

/-- Whether the settings ask for files with the extension of a path. -/
def tracks (s : Session) (path : String) : Bool :=
  ((s.context.extensions.filterMap Text.Wide.text?).map extensionKey).contains
    (extensionKey (Path.ofString path).extension)

/-- The session after a file was saved, and whether that collected the source files anew. -/
def saved (s : Session) (w : Workspace) (path : String) :
    Except Search.Failure (Session × Bool × List Notice) :=
  if s.tracks path then (s.refresh w).map fun r => (r.1, true, r.2) else .ok (s, false, [])

/-- The session without source files. -/
def clearSources (s : Session) : Session :=
  { s with sources := [] }

/-- The session without reference files. -/
def clearReferences (s : Session) : Session :=
  { s with references := {} }

/-- The session after adding a reference file, and whether it could be read. -/
def addReference (s : Session) (w : Workspace) (path : String) : Session × Bool × List Notice :=
  match s.references.add w path with
  | .ok r => ({ s with references := r }, true, [])
  | .error why => (s, false, [.unreadableReference (References.key w.cwd path).text why])

/-- Whether a reference file is at the place that a path leads to. -/
def hasReference (s : Session) (cwd : List String) (path : String) : Bool :=
  s.references.contains (References.key cwd path).text

/-- The session without the reference file at the place that a path leads to, and whether there was one. -/
def removeReference (s : Session) (cwd : List String) (path : String) : Session × Bool :=
  if s.hasReference cwd path then
    ({ s with references := s.references.remove cwd path }, true)
  else (s, false)

/-- All files, the reference files first. -/
def files (s : Session) : List ContextFile :=
  s.references.files ++ s.sources

/-- All files in packing order with their scores. -/
def ranked (s : Session) : List (ContextFile × Nat) :=
  Priority.rankedWithScores s.files

/-- The files packed around a question. -/
def packed (s : Session) (question : String) : Packing.Packed :=
  let files := Priority.rank s.files
  Packing.pack files s.context.maxPromptLength (Layout.frameLength files.length + promptBuffer)
    question.length

/-- The prompt around a question. -/
def assemble (s : Session) (question : String) : AssembledPrompt :=
  let limit := s.context.maxPromptLength
  let p := s.packed question
  let layout := Layout.layout p.included p.skipped question
  { prompt := Layout.enforceCap limit layout
    included := p.included
    skipped := p.skipped
    hardTruncated := limit < layout.length }

/-- What is to be noted about the prompt around a question. -/
def assembleNotices (s : Session) (question : String) : List Notice :=
  let limit := s.context.maxPromptLength
  let p := s.packed question
  let length := (Layout.layout p.included p.skipped question).length
  if limit < length then [.cappedPrompt length limit] else []

/-- The session after changes of settings, with what each listener is told. -/
def update (s : Session) (changes : List (String × Json.Value)) :
    Except Settings.Refusal (Session × List (String × Settings.Context)) :=
  (s.settings.update changes).map fun r => ({ s with settings := r.1 }, r.2)

/-- The session that no longer listens to its settings. -/
def close (s : Session) : Session :=
  { s with settings := s.settings.unsubscribe listenerName }

/-- The numbers of files and characters before packing. -/
structure Stats where
  referenceFiles : Nat
  sourceFiles : Nat
  totalSize : Nat
  deriving DecidableEq, Repr

/-- The numbers of files and characters before packing. -/
def stats (s : Session) : Stats where
  referenceFiles := s.references.files.length
  sourceFiles := s.sources.length
  totalSize := Text.total (s.files.map fun f => f.content.length)

end Session
end CodeBrief
