import CodeBrief.Workspace.Search
import CodeBrief.Script.Parse

/-!
# Notices

What goes wrong without failing an operation is noted for the user.
-/

namespace CodeBrief

/-- Something that a user is told about. -/
inductive Notice where
  | searchFailed (why : Search.Failure)
  | unreadableSource (path : String) (why : FileTree.Trouble)
  | unreadableReference (path : String) (why : FileTree.Trouble)
  | unparsedScript (why : Script.Failure)
  | cappedPrompt (length : Nat) (limit : Int)
  deriving DecidableEq, Repr

/-- The wording of a file that cannot be read. -/
def unreadableMessage (path : String) (why : FileTree.Trouble) : String :=
  "Could not read " ++ path ++ ": " ++ why.message

/-- The wording of a notice. -/
def Notice.message : Notice → String
  | searchFailed why => "Error initializing project context: " ++ why.message
  | unreadableSource path why =>
      "Error processing file " ++ path ++ ": " ++ unreadableMessage path why
  | unreadableReference path why => "Error adding reference file: " ++ unreadableMessage path why
  | unparsedScript why => "AST parsing failed, falling back to truncated content: " ++ why.message
  | cappedPrompt length limit =>
      "Generated prompt length (" ++ toString length ++ ") exceeds max length (" ++
        Json.intText limit ++ "), truncating..."

end CodeBrief
