import CodeBrief.Command.Given

/-!
# Commands

A command line is read into a command with all that it needs (`Request.read`), or
refused. An empty path is no path.
-/

namespace CodeBrief

/-- What a user asks for. -/
inductive Command where
  | version
  | help (text : String)
  | init (path : Option String)
  | prompt (question : String) (path : Option String) (references : List String)
      (output : Option String)
  | stats (path : Option String) (references : List String)
  | files (path : Option String) (references : List String)
  | summarize (file : String) (path : Option String) (limit : Option Int)
  | showSettings (path : Option String)
  | getSetting (path : Option String) (key : Option String)
  | setSetting (path : Option String) (key value : Option String)
  deriving DecidableEq, Repr

namespace Command

/-- The command about settings that is given. -/
def ofSettings (g : Given) : Command :=
  let path := g.text? pathFlag
  let key := (g.words[1]?).filter (· ≠ "")
  match g.word 0 with
  | "set" => .setSetting path key g.words[2]?
  | "get" => .getSetting path key
  | _ => .showSettings path

/-- The form of the command of a name, and the command that is given in it. -/
def named? (name : String) : Option (Form × (Given → Command)) :=
  match name with
  | "config" => some (configForm, ofSettings)
  | "files" => some (filesForm, fun g => .files (g.text? pathFlag) (g.values referenceFlag))
  | "init" => some (initForm, fun g => .init (g.text? pathFlag))
  | "prompt" => some (promptForm, fun g =>
      .prompt (g.word 0) (g.text? pathFlag) (g.values referenceFlag) (g.text? outputFlag))
  | "stats" => some (statsForm, fun g => .stats (g.text? pathFlag) (g.values referenceFlag))
  | "summarize" => some (summarizeForm, fun g =>
      .summarize (g.word 0) (g.text? pathFlag) (g.whole? limitFlag))
  | _ => none

/-- What is shown instead of doing anything else, if a first option asks for it. -/
def shown? (help : String) (g : Given) : Option Command :=
  g.options.findSome? fun o =>
    if o.1 = versionFlag.long then some .version
    else if o.1 = helpFlag.long then some (.help help)
    else none

/-- The command of a form that words give. -/
def readIn (d : Disk) (form : Form) (build : Given → Command) (words : List String) :
    Except Misuse Command := do
  let g ← Given.read form.flags true words
  match shown? form.help g with
  | some command => return command
  | none =>
      g.check d form
      return build g

end Command

/-- A command, and whether more notices are asked for. -/
structure Request where
  verbose : Bool
  command : Command
  deriving DecidableEq, Repr

namespace Request

open Command (Given Misuse Rejection programForm programHelp verboseFlag)

/-- The command that the words behind the options of the program give. -/
def readNamed (d : Disk) (g : Given) : Except Rejection Command :=
  match g.words with
  | [] => .error (.misuse programForm .commandLeftOut)
  | name :: rest =>
      match Command.named? name with
      | some (form, build) => (Command.readIn d form build rest).mapError (.misuse form)
      | none =>
          match Given.read programForm.flags false (name :: rest) with
          | .error what => .error (.misuse programForm what)
          | .ok _ => .error (.misuse programForm (.unknownCommand name))

/-- What a command line asks for, on a disk on which some of its words name files. -/
def read (d : Disk) (words : List String) : Except Rejection Request :=
  if words.isEmpty then .error .empty
  else match Given.read programForm.flags false words with
    | .error what => .error (.misuse programForm what)
    | .ok g =>
        match Command.shown? programHelp g with
        | some command => .ok ⟨false, command⟩
        | none => (readNamed d g).map fun command => ⟨!(g.values verboseFlag).isEmpty, command⟩

end Request
end CodeBrief
