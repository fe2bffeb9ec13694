import CodeBrief.Text.Blank
import CodeBrief.Text.Word

/-!
# Shapes of Java lines

A line of Java source is judged by its shape alone: which words it has, what
stands at its front, and where its parentheses are. A word of a line is a
longest run of word characters (`wordsFrom`), so that a keyword inside a longer
name does not count.
-/

namespace CodeBrief.Java

open Text (isWord isBlank strip)

/-- The words of a line, each with what follows it; `inside` says that a word character stands before. -/
def wordsFrom (inside : Bool) : List Char → List (List Char × List Char)
  | [] => []
  | c :: cs =>
      if isWord c && !inside then
        ((c :: cs).takeWhile isWord, (c :: cs).dropWhile isWord) :: wordsFrom (isWord c) cs
      else wordsFrom (isWord c) cs

/-- The words of a line, each with what follows it. -/
def words (line : List Char) : List (List Char × List Char) :=
  wordsFrom false line

/-- What follows one or more blanks at the front. -/
def afterBlanks? : List Char → Option (List Char)
  | c :: cs => if isBlank c then some (cs.dropWhile isBlank) else none
  | [] => none

/-- The word at the front and what follows it. -/
def word? : List Char → Option (List Char × List Char)
  | c :: cs =>
      if isWord c then some ((c :: cs).takeWhile isWord, (c :: cs).dropWhile isWord) else none
  | [] => none

/-- What follows one of some words and the blanks behind it. -/
def afterModifier? (modifiers : List (List Char)) (line : List Char) : Option (List Char) :=
  modifiers.firstM fun m => (Text.dropStart? m line).bind afterBlanks?

/-- Leaves out modifiers at the front, up to `fuel` of them. -/
def skipModifiers (modifiers : List (List Char)) : (fuel : Nat) → List Char → List Char
  | 0, line => line
  | fuel + 1, line =>
      match afterModifier? modifiers line with
      | some rest => skipModifiers modifiers fuel rest
      | none => line

/-- A line and what is left of it as modifiers at its front are left out one by one, the shortest first. -/
def withoutModifiers (modifiers : List (List Char)) : (fuel : Nat) → List Char → List (List Char)
  | 0, line => [line]
  | fuel + 1, line =>
      match afterModifier? modifiers line with
      | some rest => withoutModifiers modifiers fuel rest ++ [line]
      | none => [line]

/-- Words as lists of characters. -/
def keywords (ws : List String) : List (List Char) := ws.map String.toList

/-- The modifiers of a class. -/
def classModifiers : List (List Char) :=
  keywords ["public", "private", "protected", "abstract", "final", "static", "sealed", "non-sealed",
    "strictfp"]

/-- The modifiers of an interface. -/
def interfaceModifiers : List (List Char) :=
  keywords ["public", "private", "protected", "abstract", "static", "sealed"]

/-- The modifiers of a field. -/
def fieldModifiers : List (List Char) :=
  keywords ["public", "private", "protected", "static", "final", "transient", "volatile"]

/-- The modifiers that alone make a line a member. -/
def memberModifiers : List (List Char) :=
  keywords ["public", "private", "protected", "static", "final", "abstract", "synchronized"]

/-- The words that make a line a statement. -/
def controlWords : List (List Char) :=
  keywords ["if", "else", "while", "for", "do", "switch", "case", "catch", "try", "return", "throw",
    "new"]

/-- The name behind a keyword at the front. -/
def nameAfter? (keyword : String) (line : List Char) : Option (List Char) := do
  let rest ← Text.dropStart? keyword.toList line
  let rest ← afterBlanks? rest
  let (name, _) ← word? rest
  return name

/-- The name of the class that a line declares. -/
def className? (line : List Char) : Option (List Char) :=
  nameAfter? "class" (skipModifiers classModifiers line.length line)

/-- The name of the interface that a line declares. -/
def interfaceName? (line : List Char) : Option (List Char) :=
  nameAfter? "interface" (skipModifiers interfaceModifiers line.length line)

/-- The name behind the first `extends` that has one. -/
def extendedName? (line : List Char) : Option (List Char) :=
  (words line).firstM fun w =>
    if w.1 = "extends".toList then
      ((afterBlanks? w.2).bind word?).map (·.1)
    else none

/-- Whether a character can stand in a list of names. -/
def isNameList (c : Char) : Bool :=
  isWord c || isBlank c || c == ','

/-- The names in what follows the first `implements` with a list behind it. Two blanks are an empty list. -/
def implementedNames (line : List Char) : List (List Char) :=
  let found := (words line).firstM fun w =>
    if w.1 = "implements".toList then
      match afterBlanks? w.2 with
      | some rest =>
          let names := rest.takeWhile isNameList
          if names ≠ [] ∨ rest.length + 2 ≤ w.2.length then some names else none
      | none => none
    else none
  ((Text.splitAtEach ',' (found.getD [])).map strip).filter (· ≠ [])

/-- What follows an annotation and the blanks behind it. -/
def afterAnnotation? : List Char → Option (List Char)
  | '@' :: rest => do
      let (_, rest) ← word? rest
      match rest with
      | '(' :: inner =>
          match inner.dropWhile (· ≠ ')') with
          | _ :: after => afterBlanks? after
          | [] => none
      | _ => afterBlanks? rest
  | _ => none

/-- Leaves out annotations at the front, up to `fuel` of them. -/
def skipAnnotations : (fuel : Nat) → List Char → List Char
  | 0, line => line
  | fuel + 1, line =>
      match afterAnnotation? line with
      | some rest => skipAnnotations fuel rest
      | none => line

/-- A line without the annotations at its front. -/
def withoutAnnotations (line : List Char) : List Char :=
  skipAnnotations line.length line

/-- Whether a line has a modifier of members with a blank behind it. -/
def hasMemberModifier (line : List Char) : Bool :=
  (words line).any fun w => memberModifiers.contains w.1 && w.2.head?.any isBlank

/-- Whether a line has a word of control flow. -/
def hasControlWord (line : List Char) : Bool :=
  (words line).any fun w => controlWords.contains w.1

/-- Whether a line opens a synchronized block. -/
def opensSynchronized (line : List Char) : Bool :=
  match Text.dropStart? "synchronized".toList line with
  | some rest => (rest.dropWhile isBlank).head? == some '('
  | none => false

/-- What follows any number of bracket pairs. -/
def skipBrackets : List Char → List Char
  | '[' :: ']' :: cs => skipBrackets cs
  | cs => cs

/-- What follows each closing angle bracket of a line, the last first. -/
def afterAngles : List Char → List (List Char)
  | [] => []
  | c :: cs => if c = '\n' then [] else afterAngles cs ++ (if c = '>' then [cs] else [])

/-- What may follow a type at the front, the longest type first: a dotted name, arguments in angle brackets, and bracket pairs. -/
def afterType (line : List Char) : List (List Char) :=
  let isTypeName (c : Char) : Bool := isWord c || c == '.'
  match line with
  | c :: _ =>
      if isTypeName c then
        match line.dropWhile isTypeName with
        | '<' :: inner => (afterAngles inner).map skipBrackets
        | rest => [skipBrackets rest]
      else []
  | [] => []

/-- The name behind a type and its blanks, with what follows it. -/
def typedName? (rest : List Char) : Option (List Char × List Char) :=
  (afterBlanks? rest).bind word?

/-- Whether a line starts with a type, a name and an opening parenthesis. -/
def hasMethodShape (line : List Char) : Bool :=
  (afterType line).any fun rest =>
    match typedName? rest with
    | some (_, after) => (after.dropWhile isBlank).head? == some '('
    | none => false

/-- Whether a line starts with a type and a name. -/
def hasFieldShape (line : List Char) : Bool :=
  (afterType line).any fun rest => (typedName? rest).isSome

/-- Whether a line opens a block comment that is not behind a quote. -/
def opensComment (line : List Char) : Bool :=
  match Text.indexOf? ['/', '*'] line with
  | none => false
  | some start =>
      match Text.indexOf? ['"'] line with
      | none => true
      | some quote => start < quote

/-- Whether a line declares a method. -/
def isMethod (line : List Char) : Bool :=
  line.contains '(' && line.contains ')' && !line.contains '=' &&
    !(hasControlWord line || opensSynchronized line) &&
    (hasMemberModifier line || hasMethodShape line)

/-- The most characters of parameters that are shown. -/
def parameterLimit : Nat := 50

/-- The text between parentheses as it is shown. -/
def shownParameters (params : List Char) : List Char :=
  let params := strip params
  if parameterLimit < params.length then params.take parameterLimit ++ "...".toList else params

/-- The first word with parentheses behind it, and what is shown of their inside. -/
def methodInfo (line : List Char) : Option (List Char × List Char) :=
  (words line).firstM fun w =>
    match w.2.dropWhile isBlank with
    | '(' :: inner =>
        if inner.contains ')' then some (w.1, shownParameters (inner.takeWhile (· ≠ ')'))) else none
    | _ => none

/-- Whether a line declares a field. -/
def isField (line : List Char) : Bool :=
  !(line.contains '(' || line.contains '{') && (line.contains ';' || line.contains '=') &&
    !hasControlWord line && (hasMemberModifier line || hasFieldShape line)

/-- A type at the front with the name behind it. -/
def typeAndName? (line : List Char) : Option (List Char × List Char) :=
  (afterType line).firstM fun rest =>
    (typedName? rest).map fun named => (line.take (line.length - rest.length), named.1)

/-- The type and the name of a field, modifiers left out as far as a type and a name remain. -/
def fieldInfo (line : List Char) : Option (List Char × List Char) :=
  (withoutModifiers fieldModifiers line.length line).firstM typeAndName?

end CodeBrief.Java
