/-!
# Strings that need not be texts

A string of the settings format may name half of a surrogate pair. Two halves that
stand side by side make a character; any other half is none, and a string that has
one is no text, since it cannot be encoded. It is a value like others all the same:
it is kept, compared and written, and only printing it fails.

A string has one form (`Wide`). Halves that make a character are joined
(`Point.join`), and a string without halves is a text.
-/

namespace CodeBrief.Text

/-- A character, or the ten bits of one half of a surrogate pair. -/
inductive Point where
  | char (c : Char)
  | high (bits : Fin 0x400)
  | low (bits : Fin 0x400)
  deriving DecidableEq, Repr

namespace Point

/-- The number of a code point. -/
def code : Point → Nat
  | char c => c.toNat
  | high bits => 0xD800 + bits
  | low bits => 0xDC00 + bits

/-- What a unit of sixteen bits stands for by itself. -/
def ofUnit (n : Nat) : Point :=
  if 0xD800 ≤ n ∧ n < 0xDC00 then high (Fin.ofNat 0x400 (n - 0xD800))
  else if 0xDC00 ≤ n ∧ n < 0xE000 then low (Fin.ofNat 0x400 (n - 0xDC00))
  else char (Char.ofNat n)

/-- The character that a code point is. -/
def char? : Point → Option Char
  | char c => some c
  | _ => none

/-- Whether a code point is half of a pair. -/
def isHalf (p : Point) : Bool := p.char?.isNone

/-- The character that two halves make. -/
def paired (high low : Fin 0x400) : Char :=
  Char.ofNat (0x10000 + high * 0x400 + low)

/-- Code points with the halves joined that make a character. -/
def join : List Point → List Point
  | .high a :: .low b :: rest => .char (paired a b) :: join rest
  | p :: rest => p :: join rest
  | [] => []

/-- Whether no two halves stand side by side that make a character. -/
def isApart : List Point → Bool
  | .high _ :: .low _ :: _ => false
  | _ :: rest => isApart rest
  | [] => true

theorem exists_of_join_eq_low {ps qs : List Point} {b : Fin 0x400} (h : join ps = .low b :: qs) :
    ∃ rest, ps = .low b :: rest := by
  rw [join.eq_def] at h
  split at h
  · cases h
  · next p rest _ =>
      cases h
      exact ⟨rest, rfl⟩
  · cases h

theorem isApart_cons {p : Point} {ps : List Point} (h : isApart ps = true)
    (hp : ∀ a b rest, p = .high a → ps ≠ .low b :: rest) : isApart (p :: ps) = true := by
  rw [isApart.eq_def]
  split
  · next a b rest heq =>
      cases heq
      exact absurd rfl (hp a b rest rfl)
  · next heq =>
      cases heq
      exact h
  · rfl

/-- Joined halves are apart. -/
theorem isApart_join (ps : List Point) : isApart (join ps) = true := by
  fun_induction join ps with
  | case1 a b rest ih => exact isApart_cons ih nofun
  | case2 p rest hnot ih =>
      refine isApart_cons ih fun a b qs hp hjoin => ?_
      obtain ⟨more, hrest⟩ := exists_of_join_eq_low hjoin
      exact hnot a b more (by rw [hp]) hrest
  | case3 => rfl

/-- Halves that are apart are joined already. -/
theorem join_of_isApart {ps : List Point} (h : isApart ps = true) : join ps = ps := by
  fun_induction isApart ps with
  | case1 => cases h
  | case2 p rest hnot ih => rw [join, ih h]; exact hnot
  | case3 => rfl

end Point

/-- The code points of a text. -/
def points (s : String) : List Point := s.toList.map .char

/-- A string that has a half, with its halves apart. -/
structure Broken where
  points : List Point
  hasHalf : points.any Point.isHalf = true
  isApart : Point.isApart points = true
  deriving DecidableEq, Repr

/-- A string: a text, or a string that is none. -/
inductive Wide where
  | text (s : String)
  | broken (b : Broken)
  deriving DecidableEq, Repr

instance : Coe String Wide := ⟨.text⟩

namespace Wide

/-- The text that a string is. -/
def text? : Wide → Option String
  | text s => some s
  | broken _ => none

/-- The code points of a string. -/
def points : Wide → List Point
  | text s => Text.points s
  | broken b => b.points

/-- The string of code points. -/
def ofPoints (ps : List Point) : Wide :=
  if h : (Point.join ps).any Point.isHalf = true then .broken ⟨Point.join ps, h, Point.isApart_join ps⟩
  else .text (String.ofList ((Point.join ps).filterMap Point.char?))

/-- A string with a text in front of it. -/
def after (front : String) : Wide → Wide
  | text s => text (front ++ s)
  | broken b => ofPoints (Text.points front ++ b.points)

end Wide

theorem points_append (s t : String) : points (s ++ t) = points s ++ points t := by
  rw [points, String.toList_append, List.map_append]
  rfl

theorem any_isHalf_points (s : String) : (points s).any Point.isHalf = false := by
  rw [points, List.any_map]
  exact List.any_eq_false.mpr fun _ _ => Bool.false_ne_true

theorem Point.isApart_map_char (cs : List Char) : isApart (cs.map .char) = true := by
  induction cs with
  | nil => rfl
  | cons c cs ih => exact isApart_cons ih nofun

theorem Wide.isApart_points (w : Wide) : Point.isApart w.points = true := by
  cases w with
  | text s => exact Point.isApart_map_char s.toList
  | broken b => exact b.isApart

/-- A string is the string of its code points. -/
theorem Wide.ofPoints_points (w : Wide) : ofPoints w.points = w := by
  have hjoin := Point.join_of_isApart w.isApart_points
  cases w with
  | text s =>
      have hpoints : (Wide.text s).points = Text.points s := rfl
      rw [hpoints] at hjoin ⊢
      rw [ofPoints, dif_neg (by rw [hjoin, any_isHalf_points]; exact Bool.false_ne_true), hjoin,
        Text.points, List.filterMap_map]
      have hchars : Point.char? ∘ Point.char = some := rfl
      rw [hchars, List.filterMap_some, String.ofList_toList]
  | broken b =>
      have hpoints : (Wide.broken b).points = b.points := rfl
      rw [hpoints] at hjoin ⊢
      rw [ofPoints, dif_pos (by rw [hjoin]; exact b.hasHalf)]
      simp only [hjoin]

example : Wide.ofPoints [.high 0x3D, .low 0x204, .char 'a'] = "😄a" := by decide

end CodeBrief.Text
