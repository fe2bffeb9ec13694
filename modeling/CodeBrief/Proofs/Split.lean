import CodeBrief.Text.Basic

/-!
# Joining and splitting

Splitting at a character and joining with one are the standard `splitOn` and
`intercalate` (`splitAtEach_eq_splitOn`, `join_eq_intercalate`), so pieces without
the character come back as they were joined. The first success along a list is
the standard `findSome?` (`firstM_eq_findSome?`).
-/

namespace CodeBrief

theorem firstM_eq_findSome? {α β : Type} (f : α → Option β) (xs : List α) :
    xs.firstM f = xs.findSome? f := by
  induction xs with
  | nil => rfl
  | cons x xs ih =>
      rw [List.firstM, List.findSome?_cons, ih]
      cases f x <;> rfl

end CodeBrief

namespace CodeBrief.Text

theorem mem_join {c : Char} {sep : List Char} {xs : List (List Char)}
    (h : c ∈ join sep xs) : c ∈ sep ∨ ∃ x ∈ xs, c ∈ x := by
  induction xs with
  | nil => cases h
  | cons x xs ih =>
      cases xs with
      | nil => exact Or.inr ⟨x, List.mem_cons_self, h⟩
      | cons y ys =>
          rw [join, List.mem_append, List.mem_append] at h
          rcases h with (h | h) | h
          · exact Or.inr ⟨x, List.mem_cons_self, h⟩
          · exact Or.inl h
          · rcases ih h with h | ⟨z, hz, h⟩
            · exact Or.inl h
            · exact Or.inr ⟨z, List.mem_cons_of_mem x hz, h⟩

theorem join_append {x : List Char} {xs : List (List Char)} (hxs : xs ≠ [])
    (sep rest : List Char) :
    join sep (x :: xs) ++ rest = x ++ (sep ++ (join sep xs ++ rest)) := by
  cases xs with
  | nil => exact absurd rfl hxs
  | cons y ys =>
      rw [join]
      simp only [List.append_assoc]

/-- Joined pieces start with one of them. -/
theorem join_eq_append {xs : List (List Char)} (hne : xs ≠ []) (sep rest : List Char) :
    ∃ x ∈ xs, ∃ r, join sep xs ++ rest = x ++ r := by
  obtain ⟨x, xs, rfl⟩ := List.exists_cons_of_ne_nil hne
  refine ⟨x, List.mem_cons_self, ?_⟩
  cases xs with
  | nil => exact ⟨rest, rfl⟩
  | cons y ys => exact ⟨_, join_append (List.cons_ne_nil y ys) sep rest⟩

theorem join_eq_append_last {xs : List (List Char)} (hne : xs ≠ []) (sep : List Char) :
    ∃ x ∈ xs, ∃ r, join sep xs = r ++ x := by
  induction xs with
  | nil => exact absurd rfl hne
  | cons x xs ih =>
      cases xs with
      | nil => exact ⟨x, List.mem_cons_self, [], rfl⟩
      | cons y ys =>
          obtain ⟨z, hz, r, hr⟩ := ih (List.cons_ne_nil y ys)
          refine ⟨z, List.mem_cons_of_mem x hz, x ++ sep ++ r, ?_⟩
          rw [join, hr, List.append_assoc (x ++ sep) r z]

theorem join_append_join {sep : List Char} {xs ys : List (List Char)} (hx : xs ≠ []) (hy : ys ≠ []) :
    join sep (xs ++ ys) = join sep xs ++ (sep ++ join sep ys) := by
  induction xs with
  | nil => exact absurd rfl hx
  | cons x xs ih =>
      cases xs with
      | nil =>
          obtain ⟨y, ys, rfl⟩ := List.exists_cons_of_ne_nil hy
          rw [List.singleton_append, join, join, List.append_assoc]
      | cons x' xs =>
          rw [List.cons_append, List.cons_append, join, ← List.cons_append,
            ih (List.cons_ne_nil x' xs), join]
          simp only [List.append_assoc]

/-- Rows joined one by one and then with each other are joined as one row. -/
theorem join_map_join {sep : List Char} {rows : List (List (List Char))} (h : ∀ row ∈ rows, row ≠ []) :
    join sep (rows.map (join sep)) = join sep rows.flatten := by
  induction rows with
  | nil => rfl
  | cons row rows ih =>
      have hrest := ih fun r hr => h r (List.mem_cons_of_mem row hr)
      cases rows with
      | nil => rw [List.map_singleton, List.flatten_singleton, join]
      | cons row' rows =>
          have hne : (row' :: rows).flatten ≠ [] := by
            rw [List.flatten_cons]
            exact List.append_ne_nil_of_left_ne_nil (h row' (by simp)) _
          show _ = join sep (row ++ (row' :: rows).flatten)
          rw [List.map_cons, List.map_cons, join, ← List.map_cons, hrest,
            join_append_join (h row List.mem_cons_self) hne, List.append_assoc]

theorem join_eq_intercalate (sep : List Char) (pieces : List (List Char)) :
    join sep pieces = sep.intercalate pieces := by
  induction pieces with
  | nil => rfl
  | cons p rest ih =>
      cases rest with
      | nil => exact List.intercalate_singleton.symm
      | cons q rest => rw [join, ih, List.intercalate_cons_cons]

theorem splitAtEach_eq_splitOn (sep : Char) (cs : List Char) :
    splitAtEach sep cs = cs.splitOn sep := by
  rw [List.splitOn_eq_splitOnP]
  induction cs with
  | nil => rfl
  | cons c cs ih =>
      obtain ⟨p, rest, hs⟩ := List.exists_cons_of_ne_nil (splitAtEach_ne_nil sep cs)
      rw [splitAtEach, List.splitOnP_cons_eq_if_modifyHead, ← ih, hs]
      by_cases h : c = sep
      · rw [if_pos h, if_pos (beq_iff_eq.mpr h)]
      · rw [if_neg h, if_neg (mt beq_iff_eq.mp h)]
        rfl

/-- Pieces without the separator come back, provided that there are any. -/
theorem splitAtEach_join {sep : Char} {pieces : List (List Char)} (hne : pieces ≠ [])
    (h : ∀ p ∈ pieces, sep ∉ p) : splitAtEach sep (join [sep] pieces) = pieces := by
  rw [join_eq_intercalate, splitAtEach_eq_splitOn, List.splitOn_intercalate sep h hne]

/-- A separator divides the pieces in front of it from those behind it. -/
theorem splitAtEach_append_sep (sep : Char) (a b : List Char) :
    splitAtEach sep (a ++ sep :: b) = splitAtEach sep a ++ splitAtEach sep b := by
  rw [splitAtEach_eq_splitOn, splitAtEach_eq_splitOn, splitAtEach_eq_splitOn]
  exact List.splitOn_append_cons_self a b

theorem splitAtEach_append_cons {sep : Char} {p rest : List Char} (h : sep ∉ p) :
    splitAtEach sep (p ++ sep :: rest) = p :: splitAtEach sep rest := by
  rw [splitAtEach_eq_splitOn, splitAtEach_eq_splitOn, List.splitOn_append_cons_self_of_not_mem h]

theorem splitAtEach_of_notMem {sep : Char} {p : List Char} (h : sep ∉ p) :
    splitAtEach sep p = [p] := by
  have hpieces : ∀ q ∈ [p], sep ∉ q := by simpa using h
  exact splitAtEach_join (List.cons_ne_nil p []) hpieces

theorem notMem_of_mem_splitAtEach {sep : Char} {cs p : List Char} (h : p ∈ splitAtEach sep cs) :
    sep ∉ p := by
  induction cs generalizing p with
  | nil =>
      obtain rfl := List.mem_singleton.mp h
      exact List.not_mem_nil
  | cons c cs ih =>
      obtain ⟨q, rest, hs⟩ := List.exists_cons_of_ne_nil (splitAtEach_ne_nil sep cs)
      rw [splitAtEach, hs] at h
      rw [hs] at ih
      split at h
      · rcases List.mem_cons.mp h with rfl | h
        · exact List.not_mem_nil
        · exact ih h
      · next hc =>
          rcases List.mem_cons.mp h with rfl | h
          · exact List.not_mem_cons_of_ne_of_not_mem (Ne.symm hc) (ih List.mem_cons_self)
          · exact ih (List.mem_cons_of_mem _ h)

end CodeBrief.Text
