import CodeBrief.Proofs.Extensions
import CodeBrief.Proofs.Path

/-!
# Patterns without anything special

A pattern in which nothing is special stands for itself, so an exclusion of that
kind asks whether the pattern is the whole path or one of its parts, and an
extension of that kind asks for the end of the path, however deep the path leads
(`includes_excludes_literal`). Slashes and line feeds need no care: they are
characters like others, and a star stands for them too.

A part of a path is said by where it stands in the spelling (`Path.IsPart`):
between two slashes, or as the root in front. That reading a path finds just these
parts rests on one fact about splitting, that the pieces of a text are what stands
between two separators and holds none (`Text.mem_splitAtEach_iff`).
-/

namespace CodeBrief

/-! ## Pieces of a text -/

/-- A text stands in another with a separator or nothing on either side. -/
def Text.Between (sep : Char) (p cs : List Char) : Prop :=
  ∃ a b, cs = a ++ p ++ b ∧ (a = [] ∨ [sep] <:+ a) ∧ (b = [] ∨ [sep] <+: b)

theorem Text.between_of_mem {sep : Char} {pieces : List (List Char)} {p : List Char}
    (h : p ∈ pieces) : Between sep p (join [sep] pieces) := by
  obtain ⟨before, after, rfl⟩ := List.append_of_mem h
  have hbehind : ∃ b, join [sep] (p :: after) = p ++ b ∧ (b = [] ∨ [sep] <+: b) := by
    cases after with
    | nil => exact ⟨[], (List.append_nil p).symm, .inl rfl⟩
    | cons q after =>
        refine ⟨[sep] ++ join [sep] (q :: after), ?_, .inr (List.prefix_append _ _)⟩
        rw [join, List.append_assoc]
  obtain ⟨b, hjoin, hb⟩ := hbehind
  by_cases hbefore : before = []
  · subst hbefore
    exact ⟨[], b, hjoin, .inl rfl, hb⟩
  · refine ⟨join [sep] before ++ [sep], b, ?_, .inr (List.suffix_append _ _), hb⟩
    rw [join_append_join hbefore (List.cons_ne_nil p after), hjoin]
    simp only [List.append_assoc]

/-- The pieces of a text are what stands in it between two separators and holds none. -/
theorem Text.mem_splitAtEach_iff {sep : Char} {cs p : List Char} :
    p ∈ splitAtEach sep cs ↔ sep ∉ p ∧ Between sep p cs := by
  constructor
  · intro h
    refine ⟨notMem_of_mem_splitAtEach h, ?_⟩
    rw [← join_splitAtEach sep cs]
    exact between_of_mem h
  · rintro ⟨hsep, a, b, rfl, ha, hb⟩
    have hfront : p ∈ splitAtEach sep (p ++ b) := by
      rcases hb with rfl | ⟨b, rfl⟩
      · rw [List.append_nil, splitAtEach_of_notMem hsep]
        exact List.mem_singleton_self p
      · rw [List.singleton_append, splitAtEach_append_cons hsep]
        exact List.mem_cons_self
    rcases ha with rfl | ⟨a, rfl⟩
    · exact hfront
    · rw [List.append_assoc, List.append_assoc, List.singleton_append, splitAtEach_append_sep]
      exact List.mem_append_right _ hfront

/-! ## Parts of a path -/

/-- A text is a part of a spelled path: it stands there between two slashes and is neither empty nor
a single dot, or it is the root that an absolute path starts at. -/
def Path.IsPart (path part : String) : Prop :=
  (IsComponent part ∧ Text.Between '/' part.toList path.toList) ∨
    (anchorOf path.toList ≠ .relative ∧ part = (anchorOf path.toList).text)

theorem Path.mem_componentsOf_iff {cs : List Char} {c : String} :
    c ∈ componentsOf cs ↔ IsComponent c ∧ Text.Between '/' c.toList cs := by
  have hpiece : c ∈ (Text.splitAtEach '/' cs).map String.ofList ↔ c.toList ∈ Text.splitAtEach '/' cs := by
    rw [List.mem_map]
    constructor
    · rintro ⟨p, hp, rfl⟩
      rwa [String.toList_ofList]
    · exact fun h => ⟨c.toList, h, String.ofList_toList⟩
  rw [componentsOf, List.mem_filter, hpiece, Text.mem_splitAtEach_iff, decide_eq_true_iff, IsComponent]
  constructor
  · rintro ⟨⟨hslash, hbetween⟩, hempty, hdot⟩
    exact ⟨⟨hempty, hdot, hslash⟩, hbetween⟩
  · rintro ⟨⟨hempty, hdot, hslash⟩, hbetween⟩
    exact ⟨⟨hslash, hbetween⟩, hempty, hdot⟩

/-- The parts that a path is read as are the parts of its spelling. -/
theorem Path.mem_parts_iff {path part : String} :
    part ∈ (ofString path).parts ↔ IsPart path part := by
  rw [IsPart, ← mem_componentsOf_iff, parts, ofString]
  cases anchorOf path.toList <;> simp [or_comm]

namespace Glob

open Text (Wide)

/-! ## What a pattern asks for -/

/-- A pattern with nothing special in it stands for itself only. -/
theorem isMatch_literal {p : Pattern} (h : Literal p) (text : String) :
    isMatch text p = true ↔ p = Text.points text := by
  rw [isMatch, partsOf_literal h, squeeze_literals, matchParts_literals]
  rfl

theorem excludes_iff_of_literal {patterns : List Pattern} (h : ∀ p ∈ patterns, Literal p)
    (path : String) :
    excludes patterns path = true ↔
      ∃ s, Text.points s ∈ patterns ∧ (s = path ∨ Path.IsPart path s) := by
  have hmatch : ∀ p ∈ patterns, ((isMatch path p ||
      (Path.ofString path).parts.any fun part => isMatch part p) = true ↔
        ∃ s, p = Text.points s ∧ (s = path ∨ Path.IsPart path s)) := by
    intro p hp
    simp only [Bool.or_eq_true, List.any_eq_true, isMatch_literal (h p hp), Path.mem_parts_iff]
    constructor
    · rintro (heq | ⟨part, hpart, heq⟩)
      · exact ⟨path, heq, .inl rfl⟩
      · exact ⟨part, heq, .inr hpart⟩
    · rintro ⟨s, heq, rfl | hpart⟩
      · exact .inl heq
      · exact .inr ⟨s, hpart, heq⟩
  rw [excludes, List.any_eq_true]
  constructor
  · rintro ⟨p, hp, hexcluded⟩
    obtain ⟨s, rfl, hs⟩ := (hmatch p hp).mp hexcluded
    exact ⟨s, hp, hs⟩
  · rintro ⟨s, hp, hs⟩
    exact ⟨Text.points s, hp, (hmatch _ hp).mpr ⟨s, rfl, hs⟩⟩

theorem includes_iff_of_literal {extensions : List Wide} (h : ∀ e ∈ extensions, Literal e.points)
    (path : String) :
    includes (ofExtensions extensions) path = true ↔
      ∃ e ∈ extensions, .char '.' :: bare e <:+ Text.points path := by
  rw [includes_ofExtensions]
  exact exists_congr fun e => and_congr_right fun he => includes_ofExtensions_iff (h e he)

/-- Where nothing is special, a path is wanted if it ends in a dot and an extension, the dots in
front of the extension left out; it is excluded if a pattern is the path or a part of it. -/
theorem includes_excludes_literal {extensions : List Wide} {patterns : List Pattern}
    (hextensions : ∀ e ∈ extensions, Literal e.points) (hpatterns : ∀ p ∈ patterns, Literal p)
    (path : String) :
    (includes (ofExtensions extensions) path = true ↔
      ∃ e ∈ extensions, .char '.' :: bare e <:+ Text.points path) ∧
    (excludes patterns path = true ↔
      ∃ s, Text.points s ∈ patterns ∧ (s = path ∨ Path.IsPart path s)) :=
  ⟨includes_iff_of_literal hextensions path, excludes_iff_of_literal hpatterns path⟩

/-- A folder that is named with a line feed, an extension with dots in front and a closing bracket. -/
theorem includes_excludes_literal_line_feed :
    let extensions : List Wide := ["py", "..x]"]
    let patterns := ["dist", "b\nc"].map Text.points
    (∀ e ∈ extensions, Literal e.points) ∧ (∀ p ∈ patterns, Literal p) ∧
    includes (ofExtensions extensions) "/a//b\nc/./d.x]" = true ∧
    excludes patterns "/a//b\nc/./d.x]" = true := by
  intro extensions patterns
  have hextensions : ∀ e ∈ extensions, Literal e.points := by decide
  have hpatterns : ∀ p ∈ patterns, Literal p := by decide
  obtain ⟨hincludes, hexcludes⟩ :=
    includes_excludes_literal hextensions hpatterns "/a//b\nc/./d.x]"
  refine ⟨hextensions, hpatterns, hincludes.mpr ⟨"..x]", by decide, ?_⟩,
    hexcludes.mpr ⟨"b\nc", by decide, .inr (.inl ⟨by decide, ?_⟩)⟩⟩
  · exact ⟨Text.points "/a//b\nc/./d", by decide⟩
  · exact ⟨"/a//".toList, "/./d.x]".toList, by decide, .inr ⟨"/a/".toList, by decide⟩,
      .inr ⟨"./d.x]".toList, by decide⟩⟩

end Glob

end CodeBrief
