import CodeBrief.Command.Misuse
import CodeBrief.Text.Whole
import CodeBrief.Workspace.FileTree

/-!
# What is given on a command line

The words of a command line are options with their values, and the others. An
option stands by its long name, with its value behind an equals sign or in the
next word, or by its short name, with its value in the rest of the word or in the
next one. Short options without values may share a word. Two dashes end the
options.
-/

namespace CodeBrief.Command

/-- The options of a command line with their values, in order, and its other words. -/
structure Given where
  options : List (String × String)
  words : List String
  deriving DecidableEq, Repr

/-- The options that a word sets, and one whose value is in the next word: its long name and as it is spelled. -/
abbrev Reading := List (String × String) × Option (String × String)

/-- Whether a word is read as an option. -/
def isOption (word : String) : Bool :=
  match word.toList with
  | '-' :: _ :: _ => true
  | _ => false

/-- Short names that share a word. -/
def readShort (flags : List Flag) : List Char → Except Misuse Reading
  | [] => .ok ([], none)
  | c :: cs =>
      let spelled := String.ofList ['-', c]
      match flags.find? fun f => f.short = some c with
      | none => .error (.unknownOption spelled)
      | some f =>
          if f.kind.isSome then
            if cs.isEmpty then .ok ([], some (f.long, spelled))
            else .ok ([(f.long, String.ofList cs)], none)
          else (readShort flags cs).map fun r => ((f.long, "") :: r.1, r.2)

/-- A long name, perhaps with a value behind an equals sign. -/
def readLong (f : Flag) (value : List Char) : Except Misuse Reading :=
  match value, f.kind with
  | '=' :: v, some _ => .ok ([(f.long, String.ofList v)], none)
  | '=' :: _, none => .error (.valueUnasked f.long)
  | _, some _ => .ok ([], some (f.long, f.long))
  | _, none => .ok ([(f.long, "")], none)

/-- The options of a word. -/
def readOption (flags : List Flag) (word : String) : Except Misuse Reading :=
  let name := String.ofList (word.toList.takeWhile (· ≠ '='))
  match flags.find? fun f => f.long = name with
  | some f => readLong f (word.toList.dropWhile (· ≠ '='))
  | none =>
      match word.toList with
      | '-' :: '-' :: _ => .error (.unknownOption name)
      | cs => readShort flags (cs.drop 1)

/-- What a command line gives; the first word that is no option ends the options unless they are `mixed` with the others. -/
def Given.read (flags : List Flag) (mixed : Bool) : List String → Except Misuse Given
  | [] => .ok ⟨[], []⟩
  | word :: rest =>
      if word = "--" then .ok ⟨[], rest⟩
      else if isOption word then
        match readOption flags word with
        | .error e => .error e
        | .ok (options, none) =>
            (Given.read flags mixed rest).map fun g => { g with options := options ++ g.options }
        | .ok (options, some (long, spelled)) =>
            match rest with
            | [] => .error (.valueLeftOut spelled)
            | value :: rest =>
                (Given.read flags mixed rest).map fun g =>
                  { g with options := options ++ (long, value) :: g.options }
      else if mixed then
        (Given.read flags mixed rest).map fun g => { g with words := word :: g.words }
      else .ok ⟨[], word :: rest⟩

namespace Given

/-- The values of an option in order. -/
def values (g : Given) (f : Flag) : List String :=
  (g.options.filter (·.1 = f.long)).map (·.2)

/-- The last value of an option. -/
def value? (g : Given) (f : Flag) : Option String :=
  (g.values f).getLast?

/-- The last value of an option, unless it is empty. -/
def text? (g : Given) (f : Flag) : Option String :=
  (g.value? f).filter (· ≠ "")

/-- The last value of an option as a whole number. -/
def whole? (g : Given) (f : Flag) : Option Int :=
  (g.value? f).bind Text.typedWhole?

/-- The word at a position. -/
def word (g : Given) (i : Nat) : String :=
  (g.words[i]?).getD ""

end Given

/-- Whether a path is spelled as that of a folder: it ends in a slash, perhaps with a dot behind it. -/
def spelledAsFolder (path : String) : Bool :=
  match path.toList.reverse with
  | '/' :: _ => true
  | '.' :: '/' :: _ => true
  | _ => false

/-- Whether a value is of a kind, and what is wrong otherwise. -/
def ValueKind.check (d : Disk) (label value : String) : ValueKind → Except Misuse Unit
  | .text => .ok ()
  | .whole => if (Text.typedWhole? value).isSome then .ok () else .error (.notWhole label value)
  | .oneOf words =>
      if words.contains value then .ok () else .error (.notAmong label value words)
  | .file =>
      if value = "" then .error (.fileMissing label value)
      else match d.lookUp (Path.ofString value) with
        | .error _ => .error (.fileMissing label value)
        | .ok (.folder _) => .error (.fileIsFolder label value)
        | .ok (.file _) =>
            if spelledAsFolder value then .error (.fileMissing label value) else .ok ()

/-- Whether the last values of options are of their kinds. -/
def checkOptions (d : Disk) (g : Given) : List Flag → Except Misuse Unit
  | [] => .ok ()
  | f :: rest =>
      match g.value? f, f.kind with
      | some v, some k =>
          match k.check d f.label v with
          | .ok () => checkOptions d g rest
          | .error e => .error e
      | _, _ => checkOptions d g rest

/-- Whether words are what operands ask for. -/
def checkOperands (d : Disk) : List Operand → List String → Except Misuse Unit
  | [], [] => .ok ()
  | [], words => .error (.surplus words)
  | o :: rest, [] =>
      if o.occurs = .once then .error (.operandLeftOut o.name o.kind) else checkOperands d rest []
  | o :: rest, w :: words =>
      match o.kind.check d ("'" ++ o.name ++ "'") w with
      | .ok () => checkOperands d rest words
      | .error e => .error e

/-- Whether what is given keeps to a form. -/
def Given.check (d : Disk) (f : Form) (g : Given) : Except Misuse Unit := do
  checkOptions d g f.flags
  checkOperands d f.operands g.words

end CodeBrief.Command
