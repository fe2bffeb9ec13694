import CodeBrief.Text.Basic
import CodeBrief.Text.Width

/-!
# Clusters of characters

A terminal shows some characters as one: a character with the marks that follow
it, and characters with a joiner between them. A cluster is such a group with
the cells that it takes, which are those of its first character. Variation
selector 16 makes some narrow characters wide.

The width of a text is the sum over its clusters, and a text is cropped and cut
into pieces between clusters only.
-/

namespace CodeBrief.Text

/-- Narrow characters that variation selector 16 makes wide. -/
def widenable : Ranges :=
  [(0x23, 0x23), (0x2A, 0x2A), (0x30, 0x39), (0xA9, 0xA9), (0xAE, 0xAE), (0x203C, 0x203C),
   (0x2049, 0x2049), (0x2122, 0x2122), (0x2139, 0x2139), (0x2194, 0x2199), (0x21A9, 0x21AA),
   (0x2328, 0x2328), (0x23CF, 0x23CF), (0x23ED, 0x23EF), (0x23F1, 0x23F2), (0x23F8, 0x23FA),
   (0x24C2, 0x24C2), (0x25AA, 0x25AB), (0x25B6, 0x25B6), (0x25C0, 0x25C0), (0x25FB, 0x25FC),
   (0x2600, 0x2604), (0x260E, 0x260E), (0x2611, 0x2611), (0x2618, 0x2618), (0x261D, 0x261D),
   (0x2620, 0x2620), (0x2622, 0x2623), (0x2626, 0x2626), (0x262A, 0x262A), (0x262E, 0x262F),
   (0x2638, 0x263A), (0x2640, 0x2640), (0x2642, 0x2642), (0x265F, 0x2660), (0x2663, 0x2663),
   (0x2665, 0x2666), (0x2668, 0x2668), (0x267B, 0x267B), (0x267E, 0x267E), (0x2692, 0x2692),
   (0x2694, 0x2697), (0x2699, 0x2699), (0x269B, 0x269C), (0x26A0, 0x26A0), (0x26A7, 0x26A7),
   (0x26B0, 0x26B1), (0x26C8, 0x26C8), (0x26CF, 0x26CF), (0x26D1, 0x26D1), (0x26D3, 0x26D3),
   (0x26E9, 0x26E9), (0x26F0, 0x26F1), (0x26F4, 0x26F4), (0x26F7, 0x26F9), (0x2702, 0x2702),
   (0x2708, 0x2709), (0x270C, 0x270D), (0x270F, 0x270F), (0x2712, 0x2712), (0x2714, 0x2714),
   (0x2716, 0x2716), (0x271D, 0x271D), (0x2721, 0x2721), (0x2733, 0x2734), (0x2744, 0x2744),
   (0x2747, 0x2747), (0x2763, 0x2764), (0x27A1, 0x27A1), (0x2934, 0x2935), (0x2B05, 0x2B07),
   (0x1F170, 0x1F171), (0x1F17E, 0x1F17F), (0x1F321, 0x1F321), (0x1F324, 0x1F32C),
   (0x1F336, 0x1F336), (0x1F37D, 0x1F37D), (0x1F396, 0x1F397), (0x1F399, 0x1F39B),
   (0x1F39E, 0x1F39F), (0x1F3CB, 0x1F3CE), (0x1F3D4, 0x1F3DF), (0x1F3F3, 0x1F3F3),
   (0x1F3F5, 0x1F3F5), (0x1F3F7, 0x1F3F7), (0x1F43F, 0x1F43F), (0x1F441, 0x1F441),
   (0x1F4FD, 0x1F4FD), (0x1F549, 0x1F54A), (0x1F56F, 0x1F570), (0x1F573, 0x1F579),
   (0x1F587, 0x1F587), (0x1F58A, 0x1F58D), (0x1F590, 0x1F590), (0x1F5A5, 0x1F5A5),
   (0x1F5A8, 0x1F5A8), (0x1F5B1, 0x1F5B2), (0x1F5BC, 0x1F5BC), (0x1F5C2, 0x1F5C4),
   (0x1F5D1, 0x1F5D3), (0x1F5DC, 0x1F5DE), (0x1F5E1, 0x1F5E1), (0x1F5E3, 0x1F5E3),
   (0x1F5E8, 0x1F5E8), (0x1F5EF, 0x1F5EF), (0x1F5F3, 0x1F5F3), (0x1F5FA, 0x1F5FA),
   (0x1F6CB, 0x1F6CB), (0x1F6CD, 0x1F6CF), (0x1F6E0, 0x1F6E5), (0x1F6E9, 0x1F6E9),
   (0x1F6F0, 0x1F6F0), (0x1F6F3, 0x1F6F3)]

/-- The joiner, which makes one of its two neighbours. -/
def isJoiner (c : Char) : Bool := c.toNat = 0x200D

/-- The selector that asks for the wide form of a character. -/
def isWideSelector (c : Char) : Bool := c.toNat = 0xFE0F

/-- Characters that are shown as one, and the cells that they take. -/
structure Cluster where
  text : List Char
  width : Nat
  deriving DecidableEq, Repr

/-- Clusters, last first, with a character put to the last one, which takes `more` cells for it. -/
def Cluster.extendLast (c : Char) (more : Nat) : List Cluster → List Cluster
  | [] => [⟨[c], 0⟩]
  | k :: rest => ⟨k.text ++ [c], k.width + more⟩ :: rest

/-- Whether the selector widens what it follows. -/
def widens (base : Option Char) : Bool :=
  match base with
  | some b => widenable.covers b.toNat
  | none => false

/-- What is known of a text up to some point: its clusters, last first, the last character that took cells and was not widened, and whether a joiner came last. -/
structure Clustering where
  found : List Cluster
  base : Option Char
  joined : Bool

/-- The clusters after one more character. -/
def Clustering.add (s : Clustering) (c : Char) : Clustering :=
  if s.joined then ⟨Cluster.extendLast c 0 s.found, s.base, false⟩
  else if isJoiner c then ⟨Cluster.extendLast c 0 s.found, s.base, !s.found.isEmpty⟩
  else if isWideSelector c && widens s.base then ⟨Cluster.extendLast c 1 s.found, none, false⟩
  else if charWidth c = 0 then ⟨Cluster.extendLast c 0 s.found, s.base, false⟩
  else ⟨⟨[c], charWidth c⟩ :: s.found, some c, false⟩

/-- The clusters of a text. -/
def clusters (cs : List Char) : List Cluster :=
  (cs.foldl Clustering.add ⟨[], none, false⟩).found.reverse

/-- The number of terminal cells of a text. -/
def width (cs : List Char) : Nat :=
  total ((clusters cs).map Cluster.width)

/-- As many clusters as a room has cells for; a space stands for the half of a wide one. -/
def cropClusters : (room : Nat) → List Cluster → List Char
  | _, [] => []
  | room, k :: rest =>
      if k.width ≤ room then k.text ++ cropClusters (room - k.width) rest
      else if 0 < room then [' '] else []

/-- The beginning of a text that takes no more than a number of cells. -/
def crop (room : Nat) (cs : List Char) : List Char :=
  cropClusters room (clusters cs)

/-- A text with spaces behind it up to a number of cells. -/
def pad (room : Nat) (cs : List Char) : List Char :=
  cs ++ List.replicate (room - width cs) ' '

/-- A text with spaces in front of it up to a number of cells. -/
def padStart (room : Nat) (cs : List Char) : List Char :=
  List.replicate (room - width cs) ' ' ++ cs

/-- A text in the middle of a number of cells, nearer to the start. -/
def center (room : Nat) (fill : Char) (cs : List Char) : List Char :=
  let free := room - width cs
  List.replicate (free / 2) fill ++ cs ++ List.replicate (free - free / 2) fill

/-- The pieces of clusters that take no more than a number of cells each, with the piece so far. -/
def chopClusters (room : Nat) (piece : List Char) (used : Nat) : List Cluster → List (List Char)
  | [] => if 0 < used then [piece] else []
  | k :: rest =>
      if room < used + k.width then piece :: chopClusters room k.text k.width rest
      else chopClusters room (piece ++ k.text) (used + k.width) rest

/-- The pieces of a text that take no more than a number of cells each. -/
def chop (room : Nat) (cs : List Char) : List (List Char) :=
  chopClusters room [] 0 (clusters cs)

end CodeBrief.Text
