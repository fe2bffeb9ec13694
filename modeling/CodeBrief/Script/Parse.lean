import CodeBrief.Digest.Walk
import CodeBrief.Script.Grammar

/-!
# Parsing scripts

A script has a syntax tree if the grammar of its dialect takes it as a whole.
-/

namespace CodeBrief.Script

/-- Why a script has no syntax tree. -/
inductive Failure where
  | syntaxErrors
  | noGrammar (language : Language)
  deriving DecidableEq, Repr

/-- The wording of a failure. -/
def Failure.message : Failure → String
  | syntaxErrors => "syntax errors in source"
  | noGrammar language => "No tree-sitter grammar for language: " ++ language.tag

/-- A bound on the depth of open rules for a text of some length. -/
def depthBound (length : Nat) : Nat := 200 * length + 1000

/-- The syntax tree of a text in a dialect. -/
def tree? (d : Dialect) (source : List Char) : Option Node :=
  match (Rule.symbol Sym.program).run d.typed (Grammar.rule d) (depthBound source.length) source with
  | some ([root], []) => some root
  | some (ns, []) => some (.mk "program" true none "" ns)
  | _ => none

/-- The syntax tree of a script. -/
def parse (language : Language) (source : String) : Except Failure Node :=
  match Dialect.of? language with
  | none => .error (.noGrammar language)
  | some d =>
      match tree? d source.toList with
      | some root => .ok root
      | none => .error .syntaxErrors

/-- The digest of the declarations of a script. -/
def digest? (language : Language) (source : String) : Except Failure Digest :=
  (parse language source).map fun tree => ⟨language, Walk.declarations tree⟩

end CodeBrief.Script
