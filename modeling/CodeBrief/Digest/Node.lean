/-!
# Syntax trees

A node has a type, a text, children in source order, and possibly the name of
the field in which its parent holds it. Nodes that are not named are tokens of
the grammar: keywords and punctuation.
-/

namespace CodeBrief

/-- A node of a syntax tree. -/
inductive Node where
  | mk (type : String) (named : Bool) (field : Option String) (text : String) (children : List Node)
  deriving Inhabited, Repr

namespace Node

def type : Node → String
  | mk t _ _ _ _ => t

def named : Node → Bool
  | mk _ b _ _ _ => b

def field : Node → Option String
  | mk _ _ f _ _ => f

def text : Node → String
  | mk _ _ _ s _ => s

def children : Node → List Node
  | mk _ _ _ _ cs => cs

/-- The children that are no tokens. -/
def namedChildren (n : Node) : List Node :=
  n.children.filter (·.named)

/-- The first child that the node holds in a field. -/
def inField? (n : Node) (name : String) : Option Node :=
  n.children.find? (·.field = some name)

/-- Whether a token is among the children. -/
def hasToken (n : Node) (token : String) : Bool :=
  n.children.any fun c => !c.named && c.type = token

end Node
end CodeBrief
