import Mathlib.Data.List.Nodup
import CodeBrief.Proofs.FileTree
import CodeBrief.Proofs.Priority
import CodeBrief.Workspace.Search

/-!
# Sorting a tree moves nothing

A tree stands for files and folders as they are on a disk if every folder has
each name once (`Distinct`). Sorting the entries of its folders leaves every file
at its place (`at?_sorted`), and the names in every folder rise afterwards
(`ordered_sorted`).
-/

namespace CodeBrief

/-! ## Trees with each name once -/

namespace FileTree

/-- Every folder of a tree has entries of distinct names. -/
inductive Distinct : FileTree → Prop
  | file (bytes : List UInt8) : Distinct (.file bytes)
  | folder {es : List (String × FileTree)} (names : (es.map (·.1)).Nodup)
      (entries : ∀ e ∈ es, Distinct e.2) : Distinct (.folder es)

/-- Every folder of a tree has entries of rising names. -/
inductive Ordered : FileTree → Prop
  | file (bytes : List UInt8) : Ordered (.file bytes)
  | folder {es : List (String × FileTree)} (names : es.Pairwise (·.1 < ·.1))
      (entries : ∀ e ∈ es, Ordered e.2) : Ordered (.folder es)

theorem distinct_folder_iff {es : List (String × FileTree)} :
    Distinct (.folder es) ↔ (es.map (·.1)).Nodup ∧ ∀ e ∈ es, Distinct e.2 :=
  ⟨fun | .folder names entries => ⟨names, entries⟩, fun h => .folder h.1 h.2⟩

theorem mem_of_find? {name : String} {es : List (String × FileTree)} {t : FileTree}
    (h : find? name es = some t) : (name, t) ∈ es := by
  induction es with
  | nil => cases h
  | cons e es ih =>
      obtain ⟨n, u⟩ := e
      rw [find?] at h
      split at h
      · next hn =>
          cases h
          exact hn ▸ List.mem_cons_self
      · exact List.mem_cons_of_mem _ (ih h)

theorem find?_eq_some_iff {es : List (String × FileTree)} (hnames : (es.map (·.1)).Nodup)
    {name : String} {t : FileTree} : find? name es = some t ↔ (name, t) ∈ es := by
  refine ⟨mem_of_find?, fun h => ?_⟩
  induction es with
  | nil => cases h
  | cons e es ih =>
      obtain ⟨n, u⟩ := e
      rw [List.map_cons, List.nodup_cons] at hnames
      rw [find?]
      rcases List.mem_cons.mp h with heq | hmem
      · cases heq
        exact if_pos rfl
      · have hne : n ≠ name := by
          rintro rfl
          exact hnames.1 (List.mem_map.mpr ⟨_, hmem, rfl⟩)
        rw [if_neg hne, ih hnames.2 hmem]

theorem Ordered.distinct {t : FileTree} (h : t.Ordered) : t.Distinct := by
  induction h with
  | file bytes => exact .file bytes
  | folder names _ ih =>
      refine .folder ?_ ih
      rw [List.nodup_iff_pairwise_ne, List.pairwise_map]
      exact names.imp fun hlt => ne_of_lt hlt

end FileTree

namespace Search

open FileTree (Distinct Ordered at? find? at?_cons)

theorem sortedEntries_eq_map (es : List (String × FileTree)) :
    sortedEntries es = es.map fun e => (e.1, sorted e.2) := by
  induction es with
  | nil => rw [sortedEntries, List.map_nil]
  | cons e es ih => rw [sortedEntries, ih, List.map_cons]

theorem mem_sortedEntries {es : List (String × FileTree)} {name : String} {t : FileTree} :
    (name, t) ∈ sortedEntries es ↔ ∃ u, (name, u) ∈ es ∧ sorted u = t := by
  rw [sortedEntries_eq_map, List.mem_map]
  constructor
  · rintro ⟨e, he, heq⟩
    cases heq
    exact ⟨e.2, he, rfl⟩
  · rintro ⟨u, hu, rfl⟩
    exact ⟨_, hu, rfl⟩

theorem map_fst_sortedEntries (es : List (String × FileTree)) :
    (sortedEntries es).map (·.1) = es.map (·.1) := by
  rw [sortedEntries_eq_map, List.map_map]
  rfl

/-- The entries of a sorted folder. -/
def inOrder (es : List (String × FileTree)) : List (String × FileTree) :=
  (sortedEntries es).mergeSort fun a b => Priority.leChars a.1.toList b.1.toList

theorem sorted_folder (es : List (String × FileTree)) : sorted (.folder es) = .folder (inOrder es) := by
  rw [sorted, inOrder]

theorem inOrder_perm (es : List (String × FileTree)) : (inOrder es).Perm (sortedEntries es) :=
  List.mergeSort_perm _ _

theorem nodup_inOrder {es : List (String × FileTree)} (h : (es.map (·.1)).Nodup) :
    ((inOrder es).map (·.1)).Nodup := by
  rw [((inOrder_perm es).map _).nodup_iff, map_fst_sortedEntries]
  exact h

theorem pairwise_inOrder {es : List (String × FileTree)} (h : (es.map (·.1)).Nodup) :
    (inOrder es).Pairwise (·.1 < ·.1) := by
  have hle : (inOrder es).Pairwise (·.1 ≤ ·.1) := by
    have htrans : ∀ a b c : String × FileTree, Priority.leChars a.1.toList b.1.toList = true →
        Priority.leChars b.1.toList c.1.toList = true →
        Priority.leChars a.1.toList c.1.toList = true := by
      intro a b c
      rw [Priority.leChars_toList_iff, Priority.leChars_toList_iff, Priority.leChars_toList_iff]
      exact le_trans
    have htotal : ∀ a b : String × FileTree, (Priority.leChars a.1.toList b.1.toList ||
        Priority.leChars b.1.toList a.1.toList) = true := by
      intro a b
      rw [Bool.or_eq_true, Priority.leChars_toList_iff, Priority.leChars_toList_iff]
      exact le_total _ _
    exact (List.pairwise_mergeSort htrans htotal _).imp fun h => (Priority.leChars_toList_iff _ _).mp h
  have hne := nodup_inOrder h
  rw [List.nodup_iff_pairwise_ne, List.pairwise_map] at hne
  exact (hle.and hne).imp fun h => lt_of_le_of_ne h.1 h.2

theorem ordered_sorted {t : FileTree} (h : t.Distinct) : (sorted t).Ordered := by
  induction h with
  | file bytes =>
      rw [sorted]
      exact .file bytes
  | folder names _ ih =>
      rw [sorted_folder]
      refine .folder (pairwise_inOrder names) fun e he => ?_
      obtain ⟨u, hu, hsorted⟩ := mem_sortedEntries.mp ((inOrder_perm _).mem_iff.mp he)
      exact hsorted ▸ ih _ hu

theorem find?_inOrder {es : List (String × FileTree)} (h : (es.map (·.1)).Nodup) (name : String) :
    find? name (inOrder es) = (find? name es).map sorted := by
  ext t
  rw [FileTree.find?_eq_some_iff (nodup_inOrder h), (inOrder_perm es).mem_iff, mem_sortedEntries,
    Option.map_eq_some_iff]
  simp only [FileTree.find?_eq_some_iff h]

/-- Sorting moves nothing to another place. -/
theorem at?_sorted {t : FileTree} (h : t.Distinct) (p : List String) :
    at? p (sorted t) = (at? p t).map sorted := by
  induction p generalizing t with
  | nil => rfl
  | cons name p ih =>
      rw [at?_cons, at?_cons]
      cases h with
      | file bytes =>
          rw [sorted]
          rfl
      | @folder es names entries =>
          rw [sorted_folder, FileTree.entries, FileTree.entries, find?_inOrder names]
          cases hfind : find? name es with
          | none => rfl
          | some u => exact ih (entries _ (FileTree.mem_of_find? hfind))

theorem at?_sorted_file {t : FileTree} (h : t.Distinct) {p : List String} {bytes : List UInt8} :
    at? p (sorted t) = some (.file bytes) ↔ at? p t = some (.file bytes) := by
  rw [at?_sorted h, Option.map_eq_some_iff]
  constructor
  · rintro ⟨u, hu, hsorted⟩
    cases u with
    | file b =>
        rw [sorted] at hsorted
        rw [hu, hsorted]
    | folder es =>
        rw [sorted_folder] at hsorted
        cases hsorted
  · intro hp
    exact ⟨_, hp, by rw [sorted]⟩

end Search
end CodeBrief
