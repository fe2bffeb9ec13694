import Mathlib.Data.List.DropRight
import CodeBrief.Proofs.Split
import CodeBrief.Proofs.Truncation
import CodeBrief.Session.Basic

/-!
# Extensions of files

An extension is looked at in two ways. A search asks whether the end of a path
is a dot and the extension: the pattern of an extension starts with stars, a star
stands for any text, and so nothing is left of the pattern but its end
(`includes_ofExtensions_iff`). A session asks for the part of a file name behind
its last dot (`Path.lastPart`), which is a part of the extension only.
-/

namespace CodeBrief

/-! ## The end of a text -/

/-- An end of a text without a separator is an end of what is behind the separator. -/
theorem suffix_of_notMem {α : Type} {s a b : List α} {x : α} (hs : x ∉ s) (h : s <:+ a ++ x :: b) :
    s <:+ b := by
  have hb : x :: b <:+ a ++ x :: b := List.suffix_append a (x :: b)
  rcases List.suffix_or_suffix_of_suffix h hb with hshort | hlong
  · rcases List.suffix_cons_iff.mp hshort with rfl | hshort
    · exact absurd List.mem_cons_self hs
    · exact hshort
  · exact absurd (hlong.mem List.mem_cons_self) hs

namespace Glob

open Text (Point Wide)

/-! ## Patterns without anything special -/

theorem someEnd_iff {test : List Char → Bool} {cs : List Char} :
    someEnd test cs = true ↔ ∃ e, e <:+ cs ∧ test e = true := by
  induction cs with
  | nil => simp [someEnd]
  | cons c cs ih =>
      rw [someEnd, Bool.or_eq_true, ih]
      constructor
      · rintro (h | ⟨e, he, h⟩)
        · exact ⟨_, List.suffix_rfl, h⟩
        · exact ⟨e, he.trans (List.suffix_cons c cs), h⟩
      · rintro ⟨e, he, h⟩
        rcases List.suffix_cons_iff.mp he with rfl | he
        · exact .inl h
        · exact .inr ⟨e, he, h⟩

/-- A character that is not special in a pattern. -/
def IsLiteral (p : Point) : Prop := p ≠ .char '*' ∧ p ≠ .char '?' ∧ p ≠ .char '['

instance (p : Point) : Decidable (IsLiteral p) :=
  inferInstanceAs (Decidable (_ ∧ _))

/-- Nothing in a pattern is special. -/
def Literal (ps : Pattern) : Prop := ∀ p ∈ ps, IsLiteral p

instance (ps : Pattern) : Decidable (Literal ps) :=
  List.decidableBAll IsLiteral ps

theorem partsOf_cons {p : Point} (hp : IsLiteral p) (ps : Pattern) :
    partsOf (p :: ps) = .literal p :: partsOf ps := by
  obtain ⟨hstar, hany, hset⟩ := hp
  rw [partsOf.eq_def]
  split
  · next heq => cases heq
  · next heq => exact absurd (List.cons.inj heq).1 hstar
  · next heq => exact absurd (List.cons.inj heq).1 hany
  · next heq => exact absurd (List.cons.inj heq).1 hset
  · next heq =>
      cases heq
      rfl

theorem partsOf_star (ps : Pattern) : partsOf (.char '*' :: ps) = .star :: partsOf ps := by
  rw [partsOf]

theorem partsOf_literal {ps : Pattern} (h : Literal ps) : partsOf ps = ps.map .literal := by
  induction ps with
  | nil => rw [partsOf, List.map_nil]
  | cons p ps ih =>
      obtain ⟨hp, hps⟩ := List.forall_mem_cons.mp h
      rw [partsOf_cons hp, ih hps, List.map_cons]

theorem squeeze_literal (p : Point) (ps : List Part) :
    squeeze (.literal p :: ps) = .literal p :: squeeze ps := by
  rw [squeeze]
  simp

theorem squeeze_star_literal (p : Point) (ps : List Part) :
    squeeze (.star :: .literal p :: ps) = .star :: .literal p :: squeeze ps := by
  rw [squeeze, squeeze_literal]
  simp

theorem squeeze_literals (ps : Pattern) : squeeze (ps.map .literal) = ps.map .literal := by
  induction ps with
  | nil => rfl
  | cons p ps ih => rw [List.map_cons, squeeze_literal, ih]

/-- A star in front of plain characters asks for an end. -/
theorem matchParts_star_literals {p : Pattern} {cs : List Char} :
    matchParts (.star :: p.map .literal) cs = true ↔ p <:+ cs.map .char := by
  simp only [matchParts, someEnd_iff, matchParts_literals, List.suffix_map_iff]

/-- A star, a slash and a star in front of plain characters ask for no more than an end behind a
slash. -/
theorem suffix_of_matchParts_folder {p : Pattern} {cs : List Char}
    (h : matchParts (.star :: .literal (.char '/') :: .star :: p.map .literal) cs = true) :
    p <:+ cs.map .char := by
  rw [matchParts, someEnd_iff] at h
  obtain ⟨e, he, hmatch⟩ := h
  cases e with
  | nil => cases hmatch
  | cons c e =>
      rw [matchParts, Bool.and_eq_true, matchParts_star_literals] at hmatch
      · exact hmatch.2.trans (((List.suffix_cons c e).trans he).map Point.char)
      · simp

/-! ## Patterns of extensions -/

/-- An extension without dots in front. -/
def bare (extension : Wide) : Pattern := extension.points.dropWhile (· == .char '.')

theorem includes_ofExtensions {extensions : List Wide} {path : String} :
    includes (ofExtensions extensions) path = true ↔
      ∃ e ∈ extensions, includes (ofExtensions [e]) path = true := by
  simp [includes, ofExtensions]

theorem Literal.dot_bare {e : Wide} (he : Literal e.points) : Literal (.char '.' :: bare e) :=
  List.forall_mem_cons.mpr ⟨by decide, fun p hp => he p ((List.dropWhile_suffix _).mem hp)⟩

/-- The pattern of an extension with nothing special in it asks for the end of a path. -/
theorem includes_ofExtensions_iff {e : Wide} {path : String} (he : Literal e.points) :
    includes (ofExtensions [e]) path = true ↔ .char '.' :: bare e <:+ Text.points path := by
  let root : Pattern := .char '*' :: .char '.' :: bare e
  have hpattern : ofExtensions [e] = [.char '*' :: .char '*' :: .char '/' :: root] := rfl
  have hdeep : isMatch path (.char '*' :: .char '*' :: .char '/' :: root) =
      matchParts (.star :: .literal (.char '/') :: .star :: (.char '.' :: bare e).map .literal)
        path.toList := by
    rw [isMatch, partsOf_star, partsOf_star, partsOf_cons (by decide), partsOf_star,
      partsOf_literal he.dot_bare]
    rw [squeeze, squeeze_star_literal, List.map_cons, squeeze_star_literal, squeeze_literals]
  have hroot : isMatch path root =
      matchParts (.star :: (.char '.' :: bare e).map .literal) path.toList := by
    rw [isMatch, partsOf_star, partsOf_literal he.dot_bare, List.map_cons,
      squeeze_star_literal, squeeze_literals]
  simp only [includes, hpattern, List.any_cons, List.any_nil, Bool.or_false, hdeep, hroot,
    Bool.or_eq_true, matchParts_star_literals]
  exact ⟨fun h => h.elim suffix_of_matchParts_folder id, .inr⟩

end Glob

namespace Path

/-! ## The part of a name behind its last dot -/

/-- The part of a name behind its last dot, empty if that is the first character. -/
def lastPart (name : List Char) : List Char :=
  if '.' ∈ name.tail then name.rtakeWhile (· ≠ '.') else []

theorem rtakeWhile_append_cons {α : Type} {p : α → Bool} {x : α} (hx : p x = false) (a b : List α) :
    (a ++ x :: b).rtakeWhile p = b.rtakeWhile p := by
  have hstop : (x :: a.reverse).takeWhile p = [] := by simp [hx]
  rw [List.rtakeWhile, List.rtakeWhile, List.reverse_append, List.reverse_cons, List.append_assoc,
    List.singleton_append, List.takeWhile_append, hstop, List.append_nil]
  split
  · next hall => rw [(List.takeWhile_prefix p).eq_of_length hall]
  · rfl

/-- A name that ends in a dot and a text has the last part of that text, unless its only dot comes
first. -/
theorem lastPart_of_suffix {name b : List Char} (h : '.' :: b <:+ name) :
    lastPart name = if '.' ∈ name.tail then b.rtakeWhile (· ≠ '.') else [] := by
  obtain ⟨a, rfl⟩ := h
  rw [lastPart, rtakeWhile_append_cons (by simp)]

theorem dropWhile_suffixOf (name : String) :
    (suffixOf name).toList.dropWhile (· == '.') = lastPart name.toList := by
  rw [suffixOf]
  cases hlast : Text.lastIndexOf? '.' name.toList with
  | none =>
      have hdot := Text.lastIndexOf?_eq_none_iff.mp hlast
      rw [lastPart, if_neg fun h => hdot (List.mem_of_mem_tail h)]
      rfl
  | some i =>
      obtain ⟨a, b, hname, rfl, hb⟩ := Text.exists_of_lastIndexOf? hlast
      have hpart : lastPart (a ++ '.' :: b) = if '.' ∈ (a ++ '.' :: b).tail then b else [] := by
        have hself : b.rtakeWhile (· ≠ '.') = b := List.rtakeWhile_eq_self_iff.mpr fun c hc =>
          decide_eq_true fun h => hb (h ▸ hc)
        rw [lastPart_of_suffix (List.suffix_append a _), hself]
      rw [hname, hpart]
      simp only [List.length_append, List.length_cons, List.drop_left]
      cases a with
      | nil =>
          rw [if_neg fun h => absurd h.1 (Nat.lt_irrefl 0), List.nil_append, List.tail_cons, if_neg hb]
          rfl
      | cons c a =>
          have hdot : '.' ∈ (c :: a ++ '.' :: b).tail := List.mem_append_right a List.mem_cons_self
          rw [if_pos hdot]
          cases b with
          | nil =>
              rw [if_neg fun h => absurd h.2 (by simp)]
              rfl
          | cons d b =>
              have hd : d ≠ '.' := fun h => hb (h ▸ List.mem_cons_self)
              rw [if_pos (by simp), String.toList_ofList, List.dropWhile_cons_of_pos rfl,
                List.dropWhile_cons_of_neg (by simpa using hd)]

/-- An extension is looked up by what is left of it without dots in front. -/
theorem extensionKey_suffixOf (name : String) :
    Session.extensionKey (suffixOf name) = Text.lower (String.ofList (lastPart name.toList)) := by
  rw [Session.extensionKey, dropWhile_suffixOf]

/-! ## The last component of a relative path -/

/-- An end of joined texts in which there is no slash is an end of the last of them. -/
theorem suffix_getLast_of_suffix_join {s : List Char} (hs : '/' ∉ s) {xs : List (List Char)}
    (hxs : xs ≠ []) (h : s <:+ Text.join ['/'] xs) : s <:+ xs.getLast hxs := by
  induction xs with
  | nil => exact absurd rfl hxs
  | cons x xs ih =>
      cases xs with
      | nil => exact h
      | cons y ys =>
          rw [Text.join, List.append_assoc, List.singleton_append] at h
          exact ih (List.cons_ne_nil y ys) (suffix_of_notMem hs h)

theorem suffix_name_of_suffix_relative {s : List Char} (hs : '/' ∉ s) (place : List String)
    {rel : List String} (hrel : rel ≠ []) (h : s <:+ (Search.relative rel).toList) :
    s <:+ (absolute (place ++ rel)).name.toList := by
  have hjoin : (Search.relative rel).toList = Text.join ['/'] (rel.map String.toList) := by
    rw [Search.relative, String.toList_intercalate, Text.join_eq_intercalate]
    rfl
  rw [hjoin] at h
  have hlast := suffix_getLast_of_suffix_join hs (mt List.map_eq_nil_iff.mp hrel) h
  rw [List.getLast_map] at hlast
  have hname : (absolute (place ++ rel)).name = rel.getLast hrel := by
    rw [name, absolute, List.getLast?_append_of_ne_nil place hrel, List.getLast?_eq_some_getLast hrel]
    rfl
  rwa [hname]

end Path

end CodeBrief
