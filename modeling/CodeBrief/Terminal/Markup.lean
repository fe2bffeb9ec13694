import CodeBrief.Text.Blank
import CodeBrief.Text.Wide

/-!
# Markup in messages

A message may hold tags in square brackets. A tag starts with a small letter, a
hash, a slash or an at sign and holds no other opening bracket. The terminal has
no colours, so a tag shows as nothing. A backslash before a tag makes it text. In
the text between tags a code between colons may name a picture, which is shown in
its place (`emojis`).

A tag that starts with a slash closes the last open tag of its style, or the last
one of all if it has no name; with nothing to close it is an error. What styles,
pictures and actions there are is a vocabulary of the terminal (`Vocabulary`).
Nothing is shown of a message with an error, with a style that cannot be painted,
or with a half of a surrogate pair in its text (`Markup.shown`).
-/

namespace CodeBrief.Terminal

open Text (Point Wide)

/-- Why a message cannot be shown. -/
inductive Trouble where
  | unmatchedTag
  | unreadableAction
  | unreadableStyle
  | unencodable
  deriving DecidableEq, Repr

namespace Markup

/-- Controls that a terminal would act on and that are never shown. -/
def isActing (c : Char) : Bool :=
  c.toNat ∈ [0x07, 0x08, 0x0B, 0x0C, 0x0D]

/-- Whether a code point is never shown. -/
def isHidden : Point → Bool
  | .char c => isActing c
  | _ => false

/-- A code point that is never shown, or that tells text from tags. -/
def isMark (p : Point) : Bool :=
  p = .char '[' || p = .char '\\' || isHidden p

/-- A blank among code points. -/
def isBlank : Point → Bool
  | .char c => Text.isBlank c
  | _ => false

/-! ## Pieces -/

/-- A piece of a message: text, or a tag without its brackets. -/
inductive Piece where
  | text (ps : List Point)
  | tag (body : List Point)
  deriving DecidableEq, Repr

/-- Whether a tag may start with a code point. -/
def startsTag : Point → Bool
  | .char c => c.isLower || c = '#' || c = '/' || c = '@'
  | _ => false

/-- The rest of a tag up to its closing bracket, and what follows the bracket. -/
def tagRest? : List Point → Option (List Point × List Point)
  | [] => none
  | p :: ps =>
      if p = .char ']' then some ([], ps)
      else if p = .char '[' then none
      else (tagRest? ps).map fun found => (p :: found.1, found.2)

/-- The body of the tag at the front, and what follows the tag. -/
def tag? : List Point → Option (List Point × List Point)
  | .char '[' :: p :: ps =>
      if startsTag p then (tagRest? ps).map fun found => (p :: found.1, found.2) else none
  | _ => none

/-- A tag in a message: the text in front of it, how many backslashes stand between, its body, and
what follows it. -/
structure Found where
  front : List Point
  backslashes : Nat
  body : List Point
  after : List Point
  deriving DecidableEq, Repr

/-- A message without the backslashes at its front. -/
def dropBackslashes (ps : List Point) : List Point :=
  ps.dropWhile (· = .char '\\')

/-- The first tag of a message. -/
def firstTag? : List Point → Option Found
  | [] => none
  | p :: ps =>
      let rest := dropBackslashes (p :: ps)
      match tag? rest with
      | some (body, after) => some ⟨[], ps.length + 1 - rest.length, body, after⟩
      | none => (firstTag? ps).map fun f => { f with front := p :: f.front }

/-- A tag in its brackets. -/
def bracketed (body : List Point) : List Point :=
  .char '[' :: body ++ [.char ']']

/-- What a tag with backslashes before it gives: half of the backslashes, and the tag, as text if
their number is odd. -/
def escaped (backslashes : Nat) (body : List Point) : List Piece :=
  [.text (List.replicate (backslashes / 2) (.char '\\')),
    if backslashes % 2 = 0 then .tag body else .text (bracketed body)]

/-- The pieces of a message, with up to `fuel` tags. -/
def piecesFrom : (fuel : Nat) → List Point → List Piece
  | 0, ps => [.text ps]
  | fuel + 1, ps =>
      match firstTag? ps with
      | none => [.text ps]
      | some f => .text f.front :: escaped f.backslashes f.body ++ piecesFrom fuel f.after

/-- The pieces of a message. -/
def pieces (ps : List Point) : List Piece :=
  piecesFrom ps.length ps

/-- A picture: characters that are shown as they are. -/
structure Picture where
  chars : List Char
  shown : ∀ c ∈ chars, isMark (.char c) = false

end Markup

open Markup in
/-- What a terminal makes of the words of markup: the pictures of codes, the normal names of styles,
the parameters of tags that are actions, and whether the styles of a message can be painted. Only a
style with a parenthesis can fail. -/
structure Vocabulary where
  picture? : (code : List Point) → Option Picture
  normal? : (style : List Point) → Option (List Point)
  isAction : (parameters : List Point) → Bool
  paints : List Piece → Bool
  isSome_normal? : ∀ style, .char '(' ∉ style → (normal? style).isSome = true
  paints_of_notMem : ∀ ps, (∀ body, .tag body ∈ ps → .char '(' ∉ body) → paints ps = true

namespace Markup

variable (v : Vocabulary)

/-! ## Text between tags -/

/-- A text with the backslashes left out that stand before an opening bracket. -/
def unescape : List Point → List Point
  | [] => []
  | .char '\\' :: .char '[' :: ps => .char '[' :: unescape ps
  | p :: ps => p :: unescape ps

/-- What is shown of a code between two colons. -/
def codeText (code : List Point) : List Point :=
  match v.picture? code with
  | some picture => picture.chars.map .char
  | none => .char ':' :: code ++ [.char ':']

/-- A text with pictures in place of their codes, behind the start of a code if one is open. A blank
ends a code before its second colon. -/
def emojisFrom : (code : Option (List Point)) → List Point → List Point
  | none, [] => []
  | some code, [] => .char ':' :: code
  | none, p :: ps => if p = .char ':' then emojisFrom (some []) ps else p :: emojisFrom none ps
  | some code, p :: ps =>
      if p = .char ':' then codeText v code ++ emojisFrom none ps
      else if isBlank p then .char ':' :: code ++ p :: emojisFrom none ps
      else emojisFrom (some (code ++ [p])) ps

/-- A text with pictures in place of their codes. -/
def emojis (ps : List Point) : List Point :=
  emojisFrom v none ps

/-- What is shown of a text between tags. -/
def textOf (ps : List Point) : List Point :=
  (emojis v (unescape ps)).filter (!isHidden ·)

/-! ## Tags -/

/-- An open tag: the normal name of its style, and what stands in its brackets. -/
structure Opened where
  name : List Point
  body : List Point

/-- What a tag names: the part before an equals sign. -/
def nameOf (body : List Point) : List Point :=
  body.takeWhile (· ≠ .char '=')

/-- The parameters of a tag: the part behind an equals sign. -/
def parametersOf (body : List Point) : List Point :=
  (body.dropWhile (· ≠ .char '=')).tail

/-- The last open tag of a style, and the others; open tags are listed last first. -/
def close? (name : List Point) : List Opened → Option (Opened × List Opened)
  | [] => none
  | o :: rest =>
      if o.name = name then some (o, rest)
      else (close? name rest).map fun found => (found.1, o :: found.2)

/-- The tag that a closing tag with a name behind its slash closes, and the others. -/
def closed (opened : List Opened) (name : List Point) : Except Trouble (Opened × List Opened) :=
  match Text.stripBy isBlank name, opened with
  | [], o :: rest => .ok (o, rest)
  | [], [] => .error .unmatchedTag
  | style, opened =>
      match v.normal? style with
      | none => .error .unreadableStyle
      | some normal =>
          match close? normal opened with
          | some found => .ok found
          | none => .error .unmatchedTag

/-- Whether the action of a tag can be read, if it is one and has parameters. -/
def Opened.isReadable (o : Opened) : Bool :=
  o.name.head? ≠ some (.char '@') || (parametersOf o.body).isEmpty || v.isAction (parametersOf o.body)

/-- The open tags after one more tag. -/
def addTag (opened : List Opened) (body : List Point) : Except Trouble (List Opened) :=
  match nameOf body with
  | .char '/' :: name =>
      match closed v opened name with
      | .ok (o, rest) => if o.isReadable v then .ok rest else .error .unreadableAction
      | .error why => .error why
  | name =>
      match v.normal? name with
      | some normal => .ok (⟨normal, body⟩ :: opened)
      | none => .error .unreadableStyle

/-! ## Messages -/

/-- The shown text of pieces behind some open tags. -/
def read : (opened : List Opened) → List Piece → Except Trouble (List Point)
  | _, [] => .ok []
  | opened, .text ps :: rest => (read opened rest).map (textOf v ps ++ ·)
  | opened, .tag body :: rest =>
      match addTag v opened body with
      | .ok opened => read opened rest
      | .error why => .error why

/-- The shown text of a message. -/
def shown (message : Wide) : Except Trouble (List Char) :=
  let ps := pieces message.points
  match read v [] ps with
  | .error why => .error why
  | .ok text =>
      if v.paints ps then
        match text.mapM Point.char? with
        | some cs => .ok cs
        | none => .error .unencodable
      else .error .unreadableStyle

end Markup
end CodeBrief.Terminal
