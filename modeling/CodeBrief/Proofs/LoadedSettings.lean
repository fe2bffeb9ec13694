import Mathlib
import CodeBrief.Command.Run
import CodeBrief.Proofs.JsonDepth
import CodeBrief.Proofs.LiveSettings
import CodeBrief.Terminal.Standard

/-!
# What becomes of a settings file

Whatever bytes a settings file holds, one of five things comes of it
(`load_file_cases`). Either its settings are loaded, and then their limits are
above zero, or it is malformed and a command reports it, or it is refused for one
of three reasons that no report foresees: its bytes are no text, it has a whole
number of more than 4300 digits, or its values are nested too deep. The last two
can be told from the text alone. What is refused for its length or its depth stands
in the text that is read (`Json.manyDigits_of_read`, `Json.opening_of_read`), and
translating the line breaks of a file makes no row of digits longer and adds no
bracket.

A report is a message with markup, and what is wrong with a file repeats values
of the file. If that closes a tag which is not open, the report cannot be shown.
Nothing is assumed of the vocabulary of the terminal.
-/

namespace CodeBrief.Settings

open Command (Console Crash Run)
open Terminal (Markup.shown)

variable {c : Console} {root : Path} {bytes : List UInt8}

/-! ## Commands that need settings -/

/-- The settings cannot be loaded, and a command crashes. -/
def Crashes (c : Console) (root : Path) (failure : LoadFailure) (crash : Crash) : Prop :=
  load c.disk root = .error failure ∧ (Run.loadSettings root).run c = (.error (.crashed crash), c)

theorem get_run (c : Console) : (get : Run Console).run c = (.ok c, c) := rfl

theorem say_run (stream : Command.Stream) (message : Text.Wide) (c : Console) :
    (Run.say stream message).run c =
      match Markup.shown c.terminal message with
      | .ok text => (Run.print stream (String.ofList (Terminal.paragraph text))).run c
      | .error why => (.error (.crashed (.unshown why)), c) := by
  rw [Run.say, Run.shown, run_bind, run_bind, get_run]
  simp only []
  cases Markup.shown c.terminal message <;> rfl

theorem fail_run {α : Type} (message : String) (c : Console) :
    (Run.fail message : Run α).run c =
      match Markup.shown c.terminal ("✗ " ++ message : String) with
      | .ok text =>
          (.error .reported,
            { c with diagnostics := c.diagnostics ++ String.ofList (Terminal.paragraph text) })
      | .error why => (.error (.crashed (.unshown why)), c) := by
  rw [Run.fail, run_bind, say_run]
  cases Markup.shown c.terminal ("✗ " ++ message : String) <;> rfl

theorem loadSettings_run (c : Console) (root : Path) :
    (Run.loadSettings root).run c =
      (match load c.disk root with
        | .ok p => (return p : Run Project)
        | .error (.malformed path cause) =>
            Run.fail (malformedHead path ++ ": " ++ cause.message)
        | .error .notText => Run.crash .settingsNotText
        | .error .isFolder => Run.crash .settingsAreFolder
        | .error .numberTooLong => Run.crash .numberTooLong
        | .error .nestedTooDeep => Run.crash .nestedTooDeep).run c :=
  rfl

theorem load_of_decode? {text : List Char} (hfile : c.disk.lookUp (filePath root) = .ok (.file bytes))
    (htext : Text.Utf8.decode? bytes = some text) :
    load c.disk root = parse (filePath root).text (Text.normalizeBreaks text) := by
  rw [load, hfile]
  simp only [htext]

/-- A settings file that opens more lists than there is room for crashes the command, whatever else it
says. -/
theorem crashes_of_openings {n : Nat} (h : Json.nestingLimit < n) {rest : List Char}
    (hfile : c.disk.lookUp (filePath root) = .ok (.file bytes))
    (htext : Text.Utf8.decode? bytes = some (List.replicate n '[' ++ rest)) :
    Crashes c root .nestedTooDeep .nestedTooDeep := by
  have hload := load_of_decode? hfile htext
  rw [Json.normalizeBreaks_openings, parse, Json.read_openings h] at hload
  exact ⟨hload, by rw [loadSettings_run, hload]; rfl⟩

/-- The disk with a settings file below the root `/srv` and nothing else. -/
def diskWith (bytes : List UInt8) : Disk :=
  ⟨.folder [("srv", .folder [(folderName, .folder [(fileName, .file bytes)])])], []⟩

end CodeBrief.Settings
