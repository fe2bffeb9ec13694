import Mathlib.Data.List.Nodup
import Mathlib.Data.List.Sort
import Mathlib.Data.List.Perm.Basic
import Mathlib.Data.String.Basic
import CodeBrief.Prompt.Priority

/-!
# Files of different paths are ordered alike however they come

The order of files is a total preorder that ties no two files of different paths
(`path_eq_of_precedes`). A stable sort puts its input, last item first, into the
sorted rest, each item in front of the first that it may stand before
(`mergeSort_eq_foldr`), and two items that are not tied may go in either way
round (`orderedInsert_comm`). So files of different paths in front of a list may
change places without a change of the result (`rank_append_perm`); nothing is
asked of the files behind them, which may repeat a path of theirs.
-/

namespace CodeBrief.Priority

theorem leChars_iff (as bs : List Char) : leChars as bs = true ↔ ¬bs < as := by
  induction as generalizing bs with
  | nil => simp [leChars]
  | cons a as ih =>
      cases bs with
      | nil => simp [leChars]
      | cons b bs =>
          rw [leChars, Bool.or_eq_true, decide_eq_true_iff, Bool.and_eq_true, beq_iff_eq, ih,
            List.cons_lt_cons_iff]
          rcases lt_trichotomy a b with h | rfl | h
          · simp [h, h.ne', h.not_gt]
          · simp
          · simp [h, h.ne', h.not_gt]

theorem leChars_toList_iff (s t : String) : leChars s.toList t.toList = true ↔ s ≤ t := by
  rw [leChars_iff, ← String.lt_iff_toList_lt, not_lt]

/-! ## Files and their scores -/

section Precedes

variable {a b : ContextFile × Nat}

theorem precedes_iff :
    precedes a b = true ↔ b.2 < a.2 ∨ a.2 = b.2 ∧ a.1.path ≤ b.1.path := by
  simp [precedes, leChars_toList_iff]

theorem precedes_trans (a b c : ContextFile × Nat) (hab : precedes a b = true)
    (hbc : precedes b c = true) : precedes a c = true := by
  rw [precedes_iff] at *
  rcases hab with hab | ⟨hab, hpab⟩
  · left
    omega
  · rcases hbc with hbc | ⟨hbc, hpbc⟩
    · left
      omega
    · exact Or.inr ⟨hab.trans hbc, le_trans hpab hpbc⟩

theorem precedes_total (a b : ContextFile × Nat) : (precedes a b || precedes b a) = true := by
  rw [Bool.or_eq_true, precedes_iff, precedes_iff]
  rcases Nat.lt_trichotomy a.2 b.2 with h | h | h
  · exact Or.inr (Or.inl h)
  · rcases le_total a.1.path b.1.path with hp | hp
    · exact Or.inl (Or.inr ⟨h, hp⟩)
    · exact Or.inr (Or.inr ⟨h.symm, hp⟩)
  · exact Or.inl (Or.inl h)

/-- Files that are tied have one path. -/
theorem path_eq_of_precedes (hab : precedes a b = true) (hba : precedes b a = true) :
    a.1.path = b.1.path := by
  rw [precedes_iff] at hab hba
  have hpab : a.1.path ≤ b.1.path := by
    rcases hab with h | ⟨-, h⟩
    · omega
    · exact h
  have hpba : b.1.path ≤ a.1.path := by
    rcases hba with h | ⟨-, h⟩
    · omega
    · exact h
  exact le_antisymm hpab hpba

end Precedes

/-! ## Sorting by insertion -/

section Insertion

variable {α : Type} {le : α → α → Bool}

theorem orderedInsert_append {a : α} {l₁ l₂ : List α} (h₁ : ∀ b ∈ l₁, ¬le a b = true)
    (h₂ : ∀ b ∈ l₂, le a b = true) :
    List.orderedInsert (le · ·) a (l₁ ++ l₂) = l₁ ++ a :: l₂ := by
  induction l₁ with
  | nil =>
      cases l₂ with
      | nil => rfl
      | cons b l₂ => exact if_pos (h₂ b List.mem_cons_self)
  | cons b l₁ ih =>
      have htail := ih fun c hc => h₁ c (List.mem_cons_of_mem _ hc)
      rw [List.cons_append, List.orderedInsert_cons, if_neg (h₁ b List.mem_cons_self), htail,
        List.cons_append]

variable (htrans : ∀ a b c, le a b = true → le b c = true → le a c = true)
  (htotal : ∀ a b, (le a b || le b a) = true)

include htrans htotal

/-- A stable sort is insertion one by one. -/
theorem mergeSort_eq_foldr (l : List α) :
    l.mergeSort le = l.foldr (List.orderedInsert (le · ·)) [] := by
  induction l with
  | nil => exact List.mergeSort_nil
  | cons a l ih =>
      obtain ⟨l₁, l₂, hcons, htail, hfront⟩ := List.mergeSort_cons htrans htotal a l
      have hsorted := List.pairwise_mergeSort htrans htotal (a :: l)
      rw [hcons, List.pairwise_append, List.pairwise_cons] at hsorted
      have hback : ∀ b ∈ l₂, le a b = true := hsorted.2.1.1
      rw [List.foldr_cons, ← ih, hcons, htail, orderedInsert_append (by simpa using hfront) hback]

/-- Two items that are not tied may be inserted either way round. -/
theorem orderedInsert_comm {a b : α} (hstrict : ¬(le a b = true ∧ le b a = true)) (l : List α) :
    List.orderedInsert (le · ·) a (List.orderedInsert (le · ·) b l) =
      List.orderedInsert (le · ·) b (List.orderedInsert (le · ·) a l) := by
  have hab := htotal a b
  induction l with
  | nil =>
      by_cases h : le a b = true <;> by_cases h' : le b a = true <;>
        simp_all [List.orderedInsert_cons]
  | cons c l ih =>
      -- If only one of the two may stand before `c`, transitivity says how they compare.
      have habc := htrans a b c
      have hbac := htrans b a c
      by_cases hac : le a c = true <;> by_cases hbc : le b c = true <;>
        by_cases h : le a b = true <;> by_cases h' : le b a = true <;>
        simp_all [List.orderedInsert_cons]

end Insertion

/-! ## The order of files -/

theorem rankedWithScores_eq_foldr (files : List ContextFile) :
    rankedWithScores files =
      (files.map fun f => (f, score f)).foldr (List.orderedInsert (precedes · ·)) [] :=
  mergeSort_eq_foldr precedes_trans precedes_total _

/-- Files of different paths may stand in any order in front of others. -/
theorem rank_append_perm {front front' : List ContextFile} (h : front.Perm front')
    (hpaths : (front.map (·.path)).Nodup) (back : List ContextFile) :
    rank (front ++ back) = rank (front' ++ back) := by
  have hcomm : ∀ x ∈ front.map fun f => (f, score f), ∀ y ∈ front.map fun f => (f, score f), ∀ z,
      List.orderedInsert (precedes · ·) y (List.orderedInsert (precedes · ·) x z) =
        List.orderedInsert (precedes · ·) x (List.orderedInsert (precedes · ·) y z) := by
    intro x hx y hy z
    obtain ⟨f, hf, rfl⟩ := List.mem_map.mp hx
    obtain ⟨g, hg, rfl⟩ := List.mem_map.mp hy
    by_cases hfg : g = f
    · rw [hfg]
    · refine orderedInsert_comm precedes_trans precedes_total (fun htied => ?_) z
      exact hfg (List.inj_on_of_nodup_map hpaths hg hf (path_eq_of_precedes htied.1 htied.2))
  rw [rank, rank, rankedWithScores_eq_foldr, rankedWithScores_eq_foldr, List.map_append,
    List.map_append, List.foldr_append, List.foldr_append, (h.map _).foldr_eq' hcomm]

end CodeBrief.Priority
