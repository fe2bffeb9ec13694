import CodeBrief.Proofs.Place
import CodeBrief.Proofs.Search
import CodeBrief.Session.Workspace

/-!
# What a search of a disk gives

The tree of a disk has each name of a folder once, and its names are such as can
stand between two slashes (`Disk.Proper`). On such a disk a search below a place
gives files below it whose paths are included (`Search.IsFound`), each once and no
more than it was asked for, and a disk with a root of this kind is the same
workspace whatever folder relative paths start from.
-/

namespace CodeBrief

namespace FileTree

/-- Every entry of a folder has a name that a path can have as a component. -/
inductive Named : FileTree → Prop
  | file (bytes : List UInt8) : Named (.file bytes)
  | folder {es : List (String × FileTree)} (names : ∀ e ∈ es, Path.IsName e.1)
      (entries : ∀ e ∈ es, Named e.2) : Named (.folder es)

theorem named_folder_iff {es : List (String × FileTree)} :
    Named (.folder es) ↔ (∀ e ∈ es, Path.IsName e.1) ∧ ∀ e ∈ es, Named e.2 :=
  ⟨fun | .folder names entries => ⟨names, entries⟩, fun h => .folder h.1 h.2⟩

/-- A tree in which something stands at a place has entries, one of them on the way. -/
theorem exists_of_at?_cons {t u : FileTree} {name : String} {rest : List String}
    (h : at? (name :: rest) t = some u) :
    ∃ es v, t = .folder es ∧ (name, v) ∈ es ∧ at? rest v = some u := by
  rw [at?_cons] at h
  obtain ⟨v, hv, hrest⟩ := Option.bind_eq_some_iff.mp h
  cases t with
  | file bytes => cases hv
  | folder es => exact ⟨es, v, rfl, mem_of_find? hv, hrest⟩

theorem Named.isPlace {t u : FileTree} (ht : t.Named) {place : List String}
    (h : at? place t = some u) : Path.IsPlace place := by
  induction place generalizing t with
  | nil => exact List.forall_mem_nil _
  | cons name rest ih =>
      obtain ⟨es, v, rfl, hv, hrest⟩ := exists_of_at?_cons h
      obtain ⟨hnames, hentries⟩ := named_folder_iff.mp ht
      exact List.forall_mem_cons.mpr ⟨hnames _ hv, ih (hentries _ hv) hrest⟩

theorem Named.at? {t u : FileTree} (ht : t.Named) {place : List String}
    (h : at? place t = some u) : u.Named := by
  induction place generalizing t with
  | nil =>
      cases h
      exact ht
  | cons name rest ih =>
      obtain ⟨es, v, rfl, hv, hrest⟩ := exists_of_at?_cons h
      exact ih ((named_folder_iff.mp ht).2 _ hv) hrest

theorem Distinct.at? {t u : FileTree} (ht : t.Distinct) {place : List String}
    (h : at? place t = some u) : u.Distinct := by
  induction place generalizing t with
  | nil =>
      cases h
      exact ht
  | cons name rest ih =>
      obtain ⟨es, v, rfl, hv, hrest⟩ := exists_of_at?_cons h
      exact ih ((distinct_folder_iff.mp ht).2 _ hv) hrest

end FileTree

/-- A disk as an operating system shows it: each name once in a folder, none with a slash or
meaning the folder itself or the one above, and a current folder named in the same way. -/
structure Disk.Proper (d : Disk) : Prop where
  distinct : d.root.Distinct
  named : d.root.Named
  cwd : Path.IsPlace d.cwd

/-- A disk with one folder that holds files. -/
theorem Disk.proper_of_files {root : String} {files : List (String × List UInt8)}
    {cwd : List String} (hroot : Path.IsName root) (hnames : ∀ f ∈ files, Path.IsName f.1)
    (hnodup : (files.map (·.1)).Nodup) (hcwd : Path.IsPlace cwd) :
    Proper ⟨.folder [(root, .folder (files.map fun f => (f.1, .file f.2)))], cwd⟩ where
  distinct := by
    simp only [FileTree.distinct_folder_iff, List.forall_mem_singleton, List.map_map,
      List.forall_mem_map]
    exact ⟨List.nodup_singleton root, hnodup, fun f _ => .file f.2⟩
  named := by
    simp only [FileTree.named_folder_iff, List.forall_mem_singleton, List.forall_mem_map]
    exact ⟨hroot, hnames, fun f _ => .file f.2⟩
  cwd := hcwd

/-- The root of a workspace does not move with the folder that relative paths start from. -/
theorem Disk.workspace_absolute (d : Disk) {place : List String} (h : Path.IsPlace place) :
    d.workspace (some (.absolute place)) =
      ⟨some (.absolute place), d.cwd, Search.findFiles d (.absolute place), d.readText⟩ := by
  simp only [workspace, resolve, Option.map_some, Path.resolve_absolute h]

namespace Search

theorem nodup_listing (q : Query) (place : List String) {t : FileTree} (h : t.Ordered) :
    (listing q place t).Nodup := by
  rw [List.nodup_iff_pairwise_ne]
  refine (pairwise_listing q place h).imp fun {p p'} hbefore heq => ?_
  exact not_before_self p' (heq ▸ hbefore)

/-- A listed file stands in the tree, below its root, and its path is included. -/
theorem at?_of_mem_listing {q : Query} {p : List String} {es : List (String × FileTree)}
    (hdistinct : (FileTree.folder es).Distinct) (h : p ∈ listing q [] (sorted (.folder es))) :
    p ≠ [] ∧ (∃ bytes, FileTree.at? p (.folder es) = some (.file bytes)) ∧
      q.includes (relative p) = true := by
  have hmem : [] ++ p ∈ listing q [] (sorted (.folder es)) := h
  obtain ⟨hne, ⟨bytes, hbytes⟩, hincl, _⟩ := (mem_listing (ordered_sorted hdistinct).distinct).mp hmem
  exact ⟨hne, ⟨bytes, (at?_sorted_file hdistinct).mp hbytes⟩, hincl⟩

/-- A way down from a place to a file whose path is included. -/
structure IsFound (d : Disk) (place : List String) (globs : List Glob.Pattern)
    (rel : List String) : Prop where
  ne_nil : rel ≠ []
  isPlace : Path.IsPlace rel
  file : ∃ bytes, d.root.at? (place ++ rel) = some (.file bytes)
  included : Glob.includes globs (relative rel) = true

/-- A search below a place gives files below it, each once, and no more than it may. -/
theorem exists_of_findFiles {d : Disk} (hd : d.Proper) {place : List String}
    {globs exclude : List Glob.Pattern} {limit : Int} {paths : List Path}
    (h : findFiles d (.absolute place) globs exclude limit = .ok paths) :
    ∃ rels : List (List String), paths = rels.map (fun p => .absolute (place ++ p)) ∧
      rels.Nodup ∧ (∀ p ∈ rels, IsFound d place globs p) ∧ rels.length ≤ limit.toNat := by
  rw [findFiles] at h
  split at h
  · next es hes =>
      split at h
      · cases h
        exact ⟨[], rfl, List.nodup_nil, List.forall_mem_nil _, Nat.zero_le _⟩
      · split at h
        · cases h
        · next ignored hignored =>
            cases h
            have hdistinct := hd.distinct.at? hes
            have hnamed := hd.named.at? hes
            refine ⟨_, rfl, ?_, ?_, ?_⟩
            · rw [walk_eq_take]
              exact (nodup_listing _ [] (ordered_sorted hdistinct)).sublist (List.take_sublist _ _)
            · intro p hp
              rw [walk_eq_take] at hp
              obtain ⟨hne, ⟨bytes, hbytes⟩, hincl⟩ :=
                at?_of_mem_listing hdistinct (List.mem_of_mem_take hp)
              have hfile : d.root.at? (place ++ p) = some (.file bytes) := by
                rw [FileTree.at?_append, show FileTree.at? place d.root = _ from hes]
                exact hbytes
              exact ⟨hne, hnamed.isPlace hbytes, ⟨bytes, hfile⟩, hincl⟩
            · rw [walk_eq_take]
              exact List.length_take_le _ _
  · cases h

end Search

end CodeBrief
