import CodeBrief.Json.Basic
import CodeBrief.Terminal.Markup
import CodeBrief.Text.LowerCase
import CodeBrief.Text.Whole

/-!
# Names of styles

A style is named by words: attributes, a colour, a colour of the background behind
`on`, and the target of a link behind `link`. The same style can be named in several
ways, since attributes have short names and words may change places, so styles are
compared by their normal names (`Style.normal?`). A text that names no style is its
own normal name in small letters.

A colour can be mixed from three numbers in parentheses. With a number left out or of
too many digits, reading it fails (`Fault.broken`). That is the only failure, so a
style without a parenthesis has a normal name (`isSome_normal?`).
-/

namespace CodeBrief.Terminal.Style

open Text (Point)
open Markup (Piece isBlank nameOf parametersOf)

/-- The attributes in their order, each with its other names. -/
def attributes : List (String × List String) :=
  [("bold", ["b"]), ("dim", ["d"]), ("italic", ["i"]), ("underline", ["u"]), ("blink", []),
   ("blink2", []), ("reverse", ["r"]), ("conceal", ["c"]), ("strike", ["s"]), ("underline2", ["uu"]),
   ("frame", []), ("encircle", []), ("overline", ["o"])]

/-- The attribute that a word names. -/
def attribute? (word : List Point) : Option String :=
  (attributes.find? fun a => (a.1 :: a.2).any (Text.points · = word)).map (·.1)

/-- The colours with a name. -/
def colors : List String :=
  ["default", "black", "red", "green", "yellow", "blue", "magenta", "cyan", "white",
   "bright_black", "bright_red", "bright_green", "bright_yellow", "bright_blue", "bright_magenta",
   "bright_cyan", "bright_white", "grey0", "gray0", "navy_blue", "dark_blue", "blue3", "blue1",
   "dark_green", "deep_sky_blue4", "dodger_blue3", "dodger_blue2", "green4", "spring_green4",
   "turquoise4", "deep_sky_blue3", "dodger_blue1", "green3", "spring_green3", "dark_cyan",
   "light_sea_green", "deep_sky_blue2", "deep_sky_blue1", "spring_green2", "cyan3",
   "dark_turquoise", "turquoise2", "green1", "spring_green1", "medium_spring_green", "cyan2",
   "cyan1", "dark_red", "deep_pink4", "purple4", "purple3", "blue_violet", "orange4", "grey37",
   "gray37", "medium_purple4", "slate_blue3", "royal_blue1", "chartreuse4", "dark_sea_green4",
   "pale_turquoise4", "steel_blue", "steel_blue3", "cornflower_blue", "chartreuse3", "cadet_blue",
   "sky_blue3", "steel_blue1", "pale_green3", "sea_green3", "aquamarine3", "medium_turquoise",
   "chartreuse2", "sea_green2", "sea_green1", "aquamarine1", "dark_slate_gray2", "dark_magenta",
   "dark_violet", "purple", "light_pink4", "plum4", "medium_purple3", "slate_blue1", "yellow4",
   "wheat4", "grey53", "gray53", "light_slate_grey", "light_slate_gray", "medium_purple",
   "light_slate_blue", "dark_olive_green3", "dark_sea_green", "light_sky_blue3", "sky_blue2",
   "dark_sea_green3", "dark_slate_gray3", "sky_blue1", "chartreuse1", "light_green",
   "pale_green1", "dark_slate_gray1", "red3", "medium_violet_red", "magenta3", "dark_orange3",
   "indian_red", "hot_pink3", "medium_orchid3", "medium_orchid", "medium_purple2",
   "dark_goldenrod", "light_salmon3", "rosy_brown", "grey63", "gray63", "medium_purple1", "gold3",
   "dark_khaki", "navajo_white3", "grey69", "gray69", "light_steel_blue3", "light_steel_blue",
   "yellow3", "dark_sea_green2", "light_cyan3", "light_sky_blue1", "green_yellow",
   "dark_olive_green2", "dark_sea_green1", "pale_turquoise1", "deep_pink3", "magenta2",
   "hot_pink2", "orchid", "medium_orchid1", "orange3", "light_pink3", "pink3", "plum3", "violet",
   "light_goldenrod3", "tan", "misty_rose3", "thistle3", "plum2", "khaki3", "light_goldenrod2",
   "light_yellow3", "grey84", "gray84", "light_steel_blue1", "yellow2", "dark_olive_green1",
   "honeydew2", "light_cyan1", "red1", "deep_pink2", "deep_pink1", "magenta1", "orange_red1",
   "indian_red1", "hot_pink", "dark_orange", "salmon1", "light_coral", "pale_violet_red1",
   "orchid2", "orchid1", "orange1", "sandy_brown", "light_salmon1", "light_pink1", "pink1",
   "plum1", "gold1", "navajo_white1", "misty_rose1", "thistle1", "yellow1", "light_goldenrod1",
   "khaki1", "wheat1", "cornsilk1", "grey100", "gray100", "grey3", "gray3", "grey7", "gray7",
   "grey11", "gray11", "grey15", "gray15", "grey19", "gray19", "grey23", "gray23", "grey27",
   "gray27", "grey30", "gray30", "grey35", "gray35", "grey39", "gray39", "grey42", "gray42",
   "grey46", "gray46", "grey50", "gray50", "grey54", "gray54", "grey58", "gray58", "grey62",
   "gray62", "grey66", "gray66", "grey70", "gray70", "grey74", "gray74", "grey78", "gray78",
   "grey82", "gray82", "grey85", "gray85", "grey89", "gray89", "grey93", "gray93"]

/-- Why a text is not read as a style: it names none, or reading it fails. -/
inductive Fault where
  | unnamed
  | broken
  deriving DecidableEq, Repr

/-- Code points in small letters. -/
def lower (ps : List Point) : List Point :=
  (ps.splitBy fun p q => p.isHalf == q.isHalf).flatMap fun run =>
    match run.mapM Point.char? with
    | some cs => Text.points (Text.lower (String.ofList cs))
    | none => run

/-- Whether digits are the number of a colour in the palette. -/
def isPaletteNumber (ds : List Char) : Bool :=
  ds.all Char.isDigit && 0 < ds.length && ds.length ≤ 3 &&
    ds.foldl (fun n d => n * 10 + (d.toNat - 0x30)) 0 < 256

/-- Checks the numbers of a mixed colour, which are divided by commas. -/
def checkMixed (cs : List Char) : Except Fault Unit :=
  let parts := Text.splitAtEach ',' cs
  if parts.length = 3 && parts.all fun ds => ds.all fun d => (Text.digitValue? d).isSome then
    match parts.mapM fun ds => (Text.digitValues? ds).bind Text.ofDigitValues? with
    | some numbers => if numbers.all (· ≤ 255) then .ok () else .error .unnamed
    | none => .error .broken
  else .error .unnamed

/-- Checks a colour with a parenthesis. -/
def checkCall (cs : List Char) : Except Fault Unit :=
  if cs.getLast? ≠ some ')' then .error .unnamed
  else match Text.dropStart? "color(".toList cs.dropLast, Text.dropStart? "rgb(".toList cs.dropLast with
    | some ds, _ => if isPaletteNumber ds then .ok () else .error .unnamed
    | none, some parts => checkMixed parts
    | none, none => .error .unnamed

/-- Whether a word is a hash and six hexadecimal digits. -/
def isHexColor : List Char → Bool
  | '#' :: ds => ds.length = 6 && ds.all fun d => d.isDigit || ('a' ≤ d && d ≤ 'f')
  | _ => false

/-- The name of the colour that a word is: itself in small letters. -/
def colorName (word : List Point) : Except Fault (List Point) :=
  let name := lower word
  match name.mapM Point.char? with
  | none => .error .unnamed
  | some cs =>
      if colors.contains (String.ofList cs) || isHexColor cs then .ok name
      else if .char '(' ∈ word then (checkCall cs).map fun _ => name
      else .error .unnamed

/-- A style: which attributes are on or off, the colours, and a link. -/
structure Named where
  attributes : List (String × Bool)
  color : Option (List Point)
  background : Option (List Point)
  link : Option (List Point)

/-- The style of no words. -/
def plain : Named := ⟨[], none, none, none⟩

/-- A style with an attribute or a colour after it. -/
def Named.with (s : Named) (word : List Point) : Except Fault Named :=
  match attribute? (lower word) with
  | some a => .ok { s with attributes := Json.put a true s.attributes }
  | none => (colorName word).map fun c => { s with color := some c }

/-- The style that words name after those before them. -/
def ofWords (s : Named) : List (List Point) → Except Fault Named
  | [] => .ok s
  | [word] => s.with word
  | word :: next :: rest =>
      if lower word = Text.points "on" then
        match colorName next with
        | .ok c => ofWords { s with background := some c } rest
        | .error fault => .error fault
      else if lower word = Text.points "not" then
        match attribute? next with
        | some a => ofWords { s with attributes := Json.put a false s.attributes } rest
        | none => .error .unnamed
      else if lower word = Text.points "link" then ofWords { s with link := some next } rest
      else match s.with word with
        | .ok s => ofWords s (next :: rest)
        | .error fault => .error fault

/-- The words of a style in their order. -/
def words (s : Named) : List (List Point) :=
  attributes.flatMap (fun a =>
    match Json.get? a.1 s.attributes with
    | some true => [Text.points a.1]
    | some false => [Text.points "not", Text.points a.1]
    | none => []) ++
  s.color.toList ++
  (match s.background with
    | some b => [Text.points "on", b]
    | none => []) ++
  (match s.link with
    | some l => [Text.points "link", l]
    | none => [])

/-- The name of a style. -/
def name (s : Named) : List Point :=
  if (words s).isEmpty then Text.points "none" else [.char ' '].intercalate (words s)

/-- The words of a text, which are divided by blanks. -/
def split : List Point → List (List Point)
  | [] => []
  | p :: ps =>
      if isBlank p then split ps
      else match split ps with
        | word :: rest => if ps.head?.any isBlank then [p] :: word :: rest else (p :: word) :: rest
        | [] => [[p]]

/-- The style that a text names. -/
def read (ps : List Point) : Except Fault Named :=
  if Text.stripBy isBlank ps = Text.points "none" then .ok plain else ofWords plain (split ps)

/-- The normal name of a style; `none` if reading it fails. -/
def normal? (ps : List Point) : Option (List Point) :=
  match read ps with
  | .ok s => some (name s)
  | .error .unnamed => some (lower (Text.stripBy isBlank ps))
  | .error .broken => none

/-- Whether the style of a tag can be painted, which is read from its normal name and its parameters.
A closing tag is not painted. -/
def isPaintable (body : List Point) : Bool :=
  .char '(' ∉ body || body.head? = some (.char '/') ||
    match normal? (nameOf body) with
    | some normal => (normal? (normal ++ .char ' ' :: parametersOf body)).isSome
    | none => false

/-- Whether the styles of a message can be painted. The style of an empty text counts, although no line
may show it. -/
def paints (ps : List Piece) : Bool :=
  ps.all fun
    | .text _ => true
    | .tag body => isPaintable body

/-! ## Styles that are read -/

section Reading

variable {s : Named} {word : List Point} {fault : Fault}

theorem eq_unnamed_of_colorName (h : .char '(' ∉ word) (hfault : colorName word = .error fault) :
    fault = .unnamed := by
  rw [colorName] at hfault
  split at hfault
  · cases hfault
    rfl
  · rw [if_neg h] at hfault
    split at hfault
    · cases hfault
    · cases hfault
      rfl

theorem eq_unnamed_of_with (h : .char '(' ∉ word) (hfault : s.with word = .error fault) :
    fault = .unnamed := by
  rw [Named.with] at hfault
  split at hfault
  · cases hfault
  · cases hcolor : colorName word with
    | ok c =>
        rw [hcolor] at hfault
        cases hfault
    | error fault' =>
        rw [hcolor] at hfault
        cases hfault
        exact eq_unnamed_of_colorName h hcolor

theorem eq_unnamed_of_ofWords {ws : List (List Point)} (h : ∀ w ∈ ws, .char '(' ∉ w)
    (hfault : ofWords s ws = .error fault) : fault = .unnamed := by
  fun_induction ofWords s ws with
  | case1 s => cases hfault
  | case2 s word => exact eq_unnamed_of_with (h word List.mem_cons_self) hfault
  | case3 s word next rest hon c hc ih => exact ih (fun w hw => h w (by simp [hw])) hfault
  | case4 s word next rest hon fault' hc =>
      cases hfault
      exact eq_unnamed_of_colorName (h next (by simp)) hc
  | case5 s word next rest hon hnot a ha ih => exact ih (fun w hw => h w (by simp [hw])) hfault
  | case6 s word next rest hon hnot ha =>
      cases hfault
      rfl
  | case7 s word next rest hon hnot hlink ih => exact ih (fun w hw => h w (by simp [hw])) hfault
  | case8 s word next rest hon hnot hlink s' hs ih =>
      exact ih (fun w hw => h w (List.mem_cons_of_mem word hw)) hfault
  | case9 s word next rest hon hnot hlink fault' hs =>
      cases hfault
      exact eq_unnamed_of_with (h word List.mem_cons_self) hs

theorem mem_of_mem_split {ps w : List Point} {p : Point} (hw : w ∈ split ps) (hp : p ∈ w) : p ∈ ps := by
  induction ps generalizing w with
  | nil => cases hw
  | cons q ps ih =>
      rw [split] at hw
      split at hw
      · exact List.mem_cons_of_mem q (ih hw hp)
      · split at hw
        · next word rest hwords =>
            have hword (h : p ∈ word) := ih (hwords ▸ List.mem_cons_self) h
            have hrest (h : w ∈ rest) := ih (hwords ▸ List.mem_cons_of_mem word h) hp
            grind
        · grind

theorem eq_unnamed_of_read {ps : List Point} (h : .char '(' ∉ ps) (hfault : read ps = .error fault) :
    fault = .unnamed := by
  rw [read] at hfault
  split at hfault
  · cases hfault
  · exact eq_unnamed_of_ofWords (fun w hw hmem => h (mem_of_mem_split hw hmem)) hfault

end Reading

/-- A style without a parenthesis has a normal name. -/
theorem isSome_normal? {ps : List Point} (h : .char '(' ∉ ps) : (normal? ps).isSome = true := by
  rw [normal?]
  split
  · rfl
  · rfl
  · next hbroken => cases eq_unnamed_of_read h hbroken

/-- A message with no parenthesis in its tags can be painted. -/
theorem paints_of_notMem {ps : List Piece} (h : ∀ body, .tag body ∈ ps → .char '(' ∉ body) :
    paints ps = true := by
  refine List.all_eq_true.mpr fun piece hpiece => ?_
  cases piece with
  | text _ => rfl
  | tag body => simp only [isPaintable, h body hpiece, not_false_eq_true, decide_true, Bool.true_or]

end CodeBrief.Terminal.Style
