import CodeBrief.Text.Basic

/-!
# Paths

A path is where it starts and the components that it goes through. Reading a
path drops empty components and single dots and keeps double dots; writing it
gives one spelling for each path (`Path.text`). `resolve` follows double dots as
well, against a directory that relative paths start from.
-/

namespace CodeBrief

/-- Where a path starts: in the current directory, at the root, or at the root named with two slashes. -/
inductive Anchor where
  | relative
  | root
  | doubleRoot
  deriving DecidableEq, Repr

/-- The spelling of where a path starts. -/
def Anchor.text : Anchor → String
  | .relative => ""
  | .root => "/"
  | .doubleRoot => "//"

/-- A path without empty components and single dots. -/
structure Path where
  anchor : Anchor
  components : List String
  deriving DecidableEq, Repr

namespace Path

/-- Where a spelled path starts. Three or more slashes count as one. -/
def anchorOf : List Char → Anchor
  | '/' :: '/' :: '/' :: _ => .root
  | '/' :: '/' :: _ => .doubleRoot
  | '/' :: _ => .root
  | _ => .relative

/-- The components of a spelled path. -/
def componentsOf (cs : List Char) : List String :=
  ((Text.splitAtEach '/' cs).map String.ofList).filter fun c => c ≠ "" ∧ c ≠ "."

/-- The path that a text spells. -/
def ofString (s : String) : Path :=
  ⟨anchorOf s.toList, componentsOf s.toList⟩

/-- The one spelling of a path; the current directory is a dot. -/
def text (p : Path) : String :=
  let body := p.anchor.text ++ String.intercalate "/" p.components
  if body = "" then "." else body

/-- The last component, empty if there is none. -/
def name (p : Path) : String :=
  p.components.getLast?.getD ""

/-- The last component from its last dot on, if that is neither its first nor its last character. -/
def suffixOf (name : String) : String :=
  let cs := name.toList
  match Text.lastIndexOf? '.' cs with
  | some i => if 0 < i ∧ i + 1 < cs.length then String.ofList (cs.drop i) else ""
  | none => ""

/-- The extension of a path with its dot. -/
def extension (p : Path) : String :=
  suffixOf p.name

/-- The components of a path, with its start as the first if it is absolute. -/
def parts (p : Path) : List String :=
  match p.anchor with
  | .relative => p.components
  | a => a.text :: p.components

/-- One step along a path whose components so far are given last first. -/
def step (back : List String) (component : String) : List String :=
  if component = ".." then back.tail else component :: back

/-- The components that are left when every double dot has taken one away. -/
def follow (start components : List String) : List String :=
  (components.foldl step start.reverse).reverse

/-- The components below the root of the place that a path leads to from a directory. -/
def locate (cwd : List String) (p : Path) : List String :=
  match p.anchor with
  | .relative => follow cwd p.components
  | _ => follow [] p.components

/-- The absolute path with given components below the root. -/
def absolute (components : List String) : Path :=
  ⟨.root, components⟩

/-- The absolute path of the place that a path leads to from a directory. -/
def resolve (cwd : List String) (p : Path) : Path :=
  absolute (locate cwd p)

/-- The path with one more component. -/
def child (p : Path) (name : String) : Path :=
  ⟨p.anchor, p.components ++ [name]⟩

end Path
end CodeBrief
