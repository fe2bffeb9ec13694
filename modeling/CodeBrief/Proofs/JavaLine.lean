import CodeBrief.Proofs.JavaSource

/-!
# Lines of code

What every written line has in common. A text that is trimmed, opens no comment
and is not copied goes to the code step as it is, whatever its margins
(`step_around`), and its braces are counted piece by piece.
-/

namespace CodeBrief.Java

open Text

/-! ## Names -/

theorem TypeName.notMem (t : TypeName) {ks : List (List Char)}
    (h : ∀ k ∈ ks, k ∈ reserved ∧ k ∉ primitives) : t.text ∉ ks :=
  fun hmem => (h _ hmem).2 (t.unreserved (h _ hmem).1)

/-- A name can stand wherever a type can. -/
def Name.asType (n : Name) : TypeName :=
  ⟨n.text, n.isWord, fun h => absurd h n.unreserved⟩

theorem controlWords_reserved : ∀ k ∈ controlWords, k ∈ reserved ∧ k ∉ primitives := by decide

theorem fieldModifiers_reserved : ∀ k ∈ fieldModifiers, k ∈ reserved ∧ k ∉ primitives := by decide

/-! ## Lines of code -/

/-- A text that the scanner takes for code when it stands on a line. -/
structure CodeLine (text : List Char) : Prop where
  trimmed : Trimmed text
  no_comment : occursIn ['/', '*'] text = false
  no_note : startsWith ['/', '/'] text = false
  not_copied : isCopied text = false

theorem opensComment_eq_false {text : List Char} (h : occursIn ['/', '*'] text = false) :
    opensComment text = false := by
  rw [opensComment, indexOf?_eq_none h]

theorem braceBalance_append (a b : List Char) :
    braceBalance (a ++ b) = braceBalance a + braceBalance b := by
  simp only [braceBalance, List.count_append]
  omega

theorem braceBalance_of_notMem {a : List Char} (ho : '{' ∉ a) (hc : '}' ∉ a) :
    braceBalance a = 0 := by
  rw [braceBalance, List.count_eq_zero.mpr ho, List.count_eq_zero.mpr hc]
  rfl

theorem Blanks.notMem (b : Blanks) {c : Char} (hc : isBlank c = false) : c ∉ b.text := by
  intro h
  rw [b.blank c h] at hc
  cases hc

theorem Margins.braceBalance_around (m : Margins) (text : List Char) :
    braceBalance (m.around text) = braceBalance text := by
  have hb (b : Blanks) : braceBalance b.text = 0 :=
    braceBalance_of_notMem (b.notMem (by decide)) (b.notMem (by decide))
  rw [Margins.around, braceBalance_append, braceBalance_append, hb, hb]
  omega

theorem Margins.strip_around (m : Margins) {text : List Char} (h : Trimmed text) :
    strip (m.around text) = text :=
  strip_append m.left.blank m.right.blank h

/-- The margins of a line of code do not matter. -/
theorem step_around {text : List Char} (h : CodeLine text) {st : State}
    (hst : st.inComment = false) (m : Margins) :
    step st (m.around text) = stepCode st text text := by
  have hempty : text.isEmpty = false := by simpa using h.trimmed.ne_nil
  simp only [step, m.strip_around h.trimmed, hst, opensComment_eq_false h.no_comment, hempty,
    h.no_note, h.not_copied, Bool.or_self, Bool.false_eq_true, if_false]
  simp only [stepCode, m.braceBalance_around]

theorem Margins.notMem_around (m : Margins) {text : List Char} (h : '\n' ∉ text) :
    '\n' ∉ m.around text := by
  simp only [Margins.around, List.mem_append, not_or]
  exact ⟨⟨m.left.one_line, h⟩, m.right.one_line⟩

theorem codeLine_brace {c : Char} (hc : c ∈ ['{', '}']) : CodeLine [c] := by
  simp only [List.mem_cons, List.not_mem_nil, or_false] at hc
  rcases hc with rfl | rfl
  all_goals
    refine ⟨⟨List.cons_ne_nil _ _, ?_, ?_⟩, by decide, by decide, by decide⟩ <;>
      (rintro _ ⟨⟩; decide)

theorem withoutAnnotations_cons {c : Char} {cs : List Char} (h : c ≠ '@') :
    withoutAnnotations (c :: cs) = c :: cs := by
  have hnone : afterAnnotation? (c :: cs) = none := by
    rw [afterAnnotation?]
    intro rest hrest
    exact h (List.cons.inj hrest).1
  rw [withoutAnnotations, List.length_cons, skipAnnotations, hnone]

/-- A line without parentheses, semicolon and equals sign is no member. -/
theorem member?_eq_none {c : Char} {cs n : List Char} (ha : c ≠ '@') (hp : '(' ∉ c :: cs)
    (hs : ';' ∉ c :: cs) (he : '=' ∉ c :: cs) : member? n (c :: cs) = none := by
  have hm : isMethod (c :: cs) = false := by
    rw [isMethod, List.contains_eq_mem, decide_eq_false hp]
    rfl
  have hf : isField (c :: cs) = false := by
    rw [isField, List.contains_eq_mem ';', List.contains_eq_mem '=', decide_eq_false hs,
      decide_eq_false he]
    simp
  rw [member?, withoutAnnotations_cons ha]
  simp [hm, hf]

end CodeBrief.Java
