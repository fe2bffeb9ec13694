import CodeBrief.Java.Scan
import CodeBrief.Script.Parse

/-!
# Summaries of files

A summary is the structure of a file if its language is known and a structure is
found, and otherwise the beginning of its text. It never exceeds its limit.
-/

namespace CodeBrief.Summary

/-- The digest of a script, or its beginning if it does not parse or declares nothing; and why it did not parse. -/
def ofScript (language : Language) (source : String) : String × Option Script.Failure :=
  match Script.digest? language source with
  | .error e => (truncate source fallbackLimit, some e)
  | .ok d =>
      (if d.declarations.isEmpty then truncate source fallbackLimit else d.render, none)

/-- The structure of a text in a language, without a limit. -/
def structureOf (language : Language) (source : String) : String × Option Script.Failure :=
  match language with
  | .java => (Java.digest source, none)
  | .generic => (source, none)
  | script => ofScript script source

/-- The summary of a text, and why a script did not parse. -/
def summarizeNoting (language : Language) (source : String) (limit : Int) :
    String × Option Script.Failure :=
  let found := structureOf language source
  (truncate found.1 limit, found.2)

/-- The summary of a text. -/
def summarize (language : Language) (source : String) (limit : Int) : String :=
  (summarizeNoting language source limit).1

/-- The summary of the file at a path. -/
def summarizeFile (path source : String) (limit : Int) : String :=
  summarize (Language.ofPath path) source limit

end CodeBrief.Summary
