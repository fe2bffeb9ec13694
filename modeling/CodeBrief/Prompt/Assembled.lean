import CodeBrief.Prompt.Layout
import CodeBrief.Text.Grouped

/-!
# Assembled prompts

A prompt with what went into it, and the lines that tell a reader about it.
-/

namespace CodeBrief

/-- A prompt, the files in it, how many were left out, and whether its limit cut it. -/
structure AssembledPrompt where
  prompt : String
  included : List ContextFile
  skipped : Int
  hardTruncated : Bool
  deriving DecidableEq, Repr

namespace AssembledPrompt

/-- The number of files left out and whether a limit cut the prompt, from the members of a value. -/
def checkCounts (ms : List (Text.Wide × Json.Value)) : Check.Checked (Int × Bool) :=
  .both (Check.required "skipped_count" Check.int ms) (Check.required "hard_truncated" Check.bool ms)

/-- The line of a file in a summary. -/
def fileLine (f : ContextFile) : String :=
  "  - [" ++ f.kind.tag ++ "] " ++ f.name ++ ContextFile.cutSuffix f.truncated

/-- The lines of a summary. -/
def summaryLines (p : AssembledPrompt) : List String :=
  let sources := (p.included.filter (·.kind = .source)).length
  let references := p.included.length - sources
  ["Prompt length: " ++ String.ofList (Text.grouped p.prompt.length) ++ " chars",
   "Included " ++ toString p.included.length ++ " files (" ++ toString sources ++ " source, " ++
     toString references ++ " reference)"] ++
  (if p.skipped ≠ 0 then
    ["Skipped " ++ Json.intText p.skipped ++ " files due to length constraints"] else []) ++
  p.included.map fileLine ++
  (if p.hardTruncated then ["Prompt was cut by the final length cap"] else [])

/-- What a reader is told about a prompt. -/
def summary (p : AssembledPrompt) : String :=
  String.intercalate "\n" p.summaryLines

end AssembledPrompt
end CodeBrief
