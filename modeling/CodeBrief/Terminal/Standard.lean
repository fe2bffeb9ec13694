import CodeBrief.Terminal.Action
import CodeBrief.Terminal.Emoji
import CodeBrief.Terminal.Style

/-!
# The vocabulary of the terminal

The names of pictures and styles and the form of actions that the program is run with.
-/

namespace CodeBrief.Terminal

/-- The pictures, styles and actions of the terminal. -/
def standard : Vocabulary where
  picture? := Emoji.picture?
  normal? := Style.normal?
  isAction := Action.isAction
  paints := Style.paints
  isSome_normal? _ h := Style.isSome_normal? h
  paints_of_notMem _ h := Style.paints_of_notMem h

end CodeBrief.Terminal
