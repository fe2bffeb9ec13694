import CodeBrief.Digest.Node
import CodeBrief.Script.Lexeme

/-!
# Grammar rules and their meaning

A grammar gives each of its symbols a rule. A rule takes a prefix of a text and
gives nodes of a syntax tree, or fails. A choice takes its first rule that does
not fail, and a repetition takes as much as it can; what is repeated takes at
least one character.

A rule that takes a token passes the gap before it, and the comments of that gap
become nodes beside the token. A node leaves the comments in front of its first
token to what surrounds it, so that no node of the tree but the root starts with
a comment.

`Rule.run` counts depth, not steps: its fuel only has to exceed the depth of the
rules that are open at the same time.
-/

namespace CodeBrief.Script

/-- A rule over the symbols `S` of a grammar. -/
inductive Rule (S : Type) where
  | empty
  | token (text : String)
  | opening (text : String)
  | adjacent (text : String)
  | keyword (text : String)
  | lexeme (l : Lexical) (type : String)
  | unnamed (l : Lexical) (type : String)
  | content (l : Lexical)
  | seq (rules : List (Rule S))
  | choice (rules : List (Rule S))
  | many (rule : Rule S)
  | symbol (s : S)
  | node (type : String) (rule : Rule S)
  | nodeUnlessSingle (type : String) (rule : Rule S)
  | field (name : String) (rule : Rule S)
  | ahead (rule : Rule S)
  | notAhead (rule : Rule S)
  | sameLine
  | inserted
  | atEnd

namespace Rule

/-- The node of a comment. -/
def commentNode (text : List Char) : Node :=
  .mk "comment" true none (String.ofList text) []

/-- The node of a token of the grammar. -/
def tokenNode (text : String) : Node :=
  .mk text false none text []

/-- Whether a node is a comment. -/
def isComment (n : Node) : Bool := n.type = "comment"

/-- A node in a field, if it is no comment. -/
def inField (name : String) (n : Node) : Node :=
  match n with
  | .mk t b f s cs => if t = "comment" then .mk t b f s cs else .mk t b (some name) s cs

/-- The comments at the front of a list of nodes, and then a node of the others. -/
def wrap (type : String) (nodes : List Node) : List Node :=
  nodes.takeWhile isComment ++ [.mk type true none "" (nodes.dropWhile isComment)]

/-- What a rule gives: nodes, and the rest of the text. -/
abbrev Result := Option (List Node × List Char)

/-- The comments of the gap at the front, then what is read behind it. -/
def afterGap (cs : List Char) (read : List Char → Result) : Result :=
  let g := gap cs
  (read g.rest).map fun found => (g.comments.map commentNode ++ found.1, found.2)

/-- A named or unnamed leaf for a lexeme at the front. -/
def leaf (l : Lexical) (type : String) (named : Bool) (cs : List Char) : Result :=
  (l.read? cs).map fun found => ([.mk type named none (String.ofList found.1) []], found.2)

variable {S : Type}

/-- The nodes that a rule gives and the rest of the text; `typed` scripts differ in where semicolons are inserted. -/
def run (typed : Bool) (grammar : S → Rule S) : (fuel : Nat) → Rule S → List Char → Result
  | 0, _, _ => none
  | fuel + 1, rule, cs =>
      match rule with
      | empty => some ([], cs)
      | token text =>
          afterGap cs fun cs =>
            match punctuation? cs with
            | some (p, rest) => if p = text.toList then some ([tokenNode text], rest) else none
            | none => none
      | opening text =>
          afterGap cs fun cs =>
            (Text.dropStart? text.toList cs).map fun rest => ([tokenNode text], rest)
      | adjacent text =>
          (Text.dropStart? text.toList cs).map fun rest => ([tokenNode text], rest)
      | keyword text =>
          afterGap cs fun cs =>
            match name? cs with
            | some (w, rest) => if w = text.toList then some ([tokenNode text], rest) else none
            | none => none
      | lexeme l type => afterGap cs (leaf l type true)
      | unnamed l type => afterGap cs (leaf l type false)
      | content l => (l.read? cs).map fun found => ([], found.2)
      | seq [] => some ([], cs)
      | seq (r :: rs) =>
          match run typed grammar fuel r cs with
          | some (ns, rest) =>
              match run typed grammar fuel (seq rs) rest with
              | some (ms, rest) => some (ns ++ ms, rest)
              | none => none
          | none => none
      | choice [] => none
      | choice (r :: rs) =>
          match run typed grammar fuel r cs with
          | some found => some found
          | none => run typed grammar fuel (choice rs) cs
      | many r =>
          match run typed grammar fuel r cs with
          | some (ns, rest) =>
              match run typed grammar fuel (many r) rest with
              | some (ms, rest) => some (ns ++ ms, rest)
              | none => none
          | none => some ([], cs)
      | symbol s => run typed grammar fuel (grammar s) cs
      | node type r =>
          (run typed grammar fuel r cs).map fun found => (wrap type found.1, found.2)
      | nodeUnlessSingle type r =>
          (run typed grammar fuel r cs).map fun found =>
            if (found.1.filter fun n => !isComment n).length = 1 then found
            else (wrap type found.1, found.2)
      | field name r =>
          (run typed grammar fuel r cs).map fun found => (found.1.map (inField name), found.2)
      | ahead r =>
          match run typed grammar fuel r cs with
          | some _ => some ([], cs)
          | none => none
      | notAhead r =>
          match run typed grammar fuel r cs with
          | some _ => none
          | none => some ([], cs)
      | sameLine => if (gap cs).lineEnds then none else some ([], cs)
      | inserted => if semicolonInserted typed cs then some ([], cs) else none
      | atEnd => afterGap cs fun cs => if cs.isEmpty then some ([], cs) else none

end Rule
end CodeBrief.Script
