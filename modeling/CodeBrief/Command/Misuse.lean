import CodeBrief.Command.Form
import CodeBrief.Text.Quoted

/-!
# Misuse of the command line

What may be wrong with a command line, and how a user is told.
-/

namespace CodeBrief.Command

/-- What is wrong with a command line; a label names an option or operand with quotes. -/
inductive Misuse where
  | unknownOption (name : String)
  | valueLeftOut (option : String)
  | valueUnasked (option : String)
  | operandLeftOut (name : String) (kind : ValueKind)
  | surplus (words : List String)
  | notWhole (label given : String)
  | notAmong (label given : String) (words : List String)
  | fileMissing (label given : String)
  | fileIsFolder (label given : String)
  | unknownCommand (name : String)
  | commandLeftOut
  deriving DecidableEq, Repr

namespace Misuse

/-- The wording of a value that is not what it should be. -/
def invalid (label what : String) : String :=
  "Invalid value for " ++ label ++ ": " ++ what

/-- The wording of a misuse. -/
def message : Misuse → String
  | unknownOption name => "No such option " ++ Text.quoted name ++ "."
  | valueLeftOut option => "Option " ++ Text.quoted option ++ " requires an argument."
  | valueUnasked option => "Option " ++ Text.quoted option ++ " does not take a value."
  | operandLeftOut name (.oneOf words) =>
      "Missing argument '" ++ name ++ "'. Choose from:\n\t" ++ String.intercalate ",\n\t" words
  | operandLeftOut name _ => "Missing argument '" ++ name ++ "'."
  | surplus words =>
      "Got unexpected extra argument" ++ (if words.length = 1 then "" else "s") ++ " (" ++
        String.intercalate " " words ++ ")"
  | notWhole label given => invalid label (Text.quoted given ++ " is not a valid integer.")
  | notAmong label given words =>
      invalid label (Text.quoted given ++ " is not one of " ++
        String.intercalate ", " (words.map fun word => Text.quoted (.text word)) ++ ".")
  | fileMissing label given => invalid label ("File " ++ Text.quoted given ++ " does not exist.")
  | fileIsFolder label given => invalid label ("File " ++ Text.quoted given ++ " is a directory.")
  | unknownCommand name => "No such command " ++ Text.quoted name ++ "."
  | commandLeftOut => "Missing command."

end Misuse

/-- Why a command line is refused: it does not keep to a form, or it is empty. -/
inductive Rejection where
  | misuse (form : Form) (what : Misuse)
  | empty
  deriving DecidableEq, Repr

/-- What a user is told about a command line that is refused. -/
def Rejection.report : Rejection → String
  | misuse form what => form.usage ++ form.hint ++ "\nError: " ++ what.message ++ "\n"
  | empty => programHelp

end CodeBrief.Command
