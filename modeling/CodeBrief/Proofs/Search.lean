import Mathlib.Data.List.Infix
import CodeBrief.Proofs.SortedTree

/-!
# A search gives the beginning of one listing

A tree has a listing of its wanted files that does not depend on how many are
asked for: the files of a folder by name, then what is in its subfolders by name
(`Before`), where a file is listed if nothing on the way down to it is excluded
(`Query.Reaches`). The walk gives its first files (`walk_eq_take`), so asking for
fewer never changes which come first.

What is listed (`mem_listing`) follows the way down to a file, one name at a time:
a file of the folder is tested by its own path, and a file below a subfolder is
one of the listing of the subfolder, provided that this is entered.
-/

namespace CodeBrief.Search

open FileTree (Distinct Ordered at? find? at?_cons)

/-! ## The listing -/

mutual

/-- The wanted files of a tree. -/
def listing (q : Query) (place : List String) : FileTree → List (List String)
  | .file _ => []
  | .folder es => filesIn q place es ++ listingIn q place es

/-- The wanted files in the folders among entries. -/
def listingIn (q : Query) (place : List String) : List (String × FileTree) → List (List String)
  | [] => []
  | (name, t) :: rest =>
      (if t.isFolder && !q.excludes (relative (place ++ [name])) then listing q (place ++ [name]) t
        else []) ++
      listingIn q place rest

end

/-- Taking from two lists one after the other, the second only if there is room. -/
theorem take_append_eq {α : Type} (xs ys : List α) (room : Nat) :
    (if (xs.take room).length < room then xs.take room ++ ys.take (room - (xs.take room).length)
      else xs.take room) = (xs ++ ys).take room := by
  rw [List.take_append, List.length_take]
  split
  · next h =>
      have hlen : min room xs.length = xs.length := by omega
      rw [hlen]
  · next h =>
      have hnone : room - xs.length = 0 := by omega
      rw [hnone, List.take_zero, List.append_nil]

mutual

/-- A walk gives the first files of the listing. -/
theorem walk_eq_take (q : Query) (place : List String) (room : Nat) (t : FileTree) :
    walk q place room t = (listing q place t).take room := by
  match t with
  | .file bytes => rw [walk, listing, List.take_nil]
  | .folder es =>
      rw [walk, listing, ← take_append_eq]
      simp only [walkFolders_eq_take q place _ es]

theorem walkFolders_eq_take (q : Query) (place : List String) (room : Nat)
    (es : List (String × FileTree)) :
    walkFolders q place room es = (listingIn q place es).take room := by
  match es with
  | [] => rw [walkFolders, listingIn, List.take_nil]
  | (name, t) :: rest =>
      rw [walkFolders, listingIn]
      split
      · rw [← take_append_eq]
        simp only [walk_eq_take q (place ++ [name]) room t, walkFolders_eq_take q place _ rest]
      · rw [List.nil_append]
        exact walkFolders_eq_take q place room rest

end

/-! ## What is listed -/

/-- A place is wanted if its path is included and no path on the way down to it is excluded. -/
def Query.Reaches (q : Query) (place rel : List String) : Prop :=
  q.includes (relative (place ++ rel)) = true ∧
    ∀ r, r ≠ [] → r <+: rel → q.excludes (relative (place ++ r)) = false

theorem reaches_singleton {q : Query} {place : List String} {name : String} :
    q.Reaches place [name] ↔ q.wants (place ++ [name]) = true := by
  rw [Query.wants, Bool.and_eq_true, Bool.not_eq_true', Query.Reaches, and_comm]
  refine and_congr_left fun _ => ⟨fun h => h [name] (List.cons_ne_nil _ _) List.prefix_rfl, ?_⟩
  intro h r hr hprefix
  obtain ⟨rest, rfl, hrest⟩ := (List.prefix_cons_iff.mp hprefix).resolve_left hr
  rw [List.prefix_nil.mp hrest]
  exact h

theorem reaches_cons {q : Query} {place rel : List String} {name : String} :
    q.Reaches place (name :: rel) ↔
      q.excludes (relative (place ++ [name])) = false ∧ q.Reaches (place ++ [name]) rel := by
  have hassoc (r : List String) : place ++ [name] ++ r = place ++ name :: r := by
    rw [List.append_assoc, List.singleton_append]
  constructor
  · rintro ⟨hincl, hexcl⟩
    refine ⟨hexcl [name] (List.cons_ne_nil _ _) ⟨rel, rfl⟩, by rwa [hassoc], fun r hr hprefix => ?_⟩
    rw [hassoc]
    exact hexcl (name :: r) (List.cons_ne_nil _ _) (List.cons_prefix_cons.mpr ⟨rfl, hprefix⟩)
  · rintro ⟨hname, hincl, hexcl⟩
    refine ⟨by rwa [hassoc] at hincl, fun r hr hprefix => ?_⟩
    obtain ⟨rest, rfl, hrest⟩ := (List.prefix_cons_iff.mp hprefix).resolve_left hr
    by_cases h : rest = []
    · rw [h]
      exact hname
    · rw [← hassoc]
      exact hexcl rest h hrest

theorem mem_filesIn {q : Query} {place p : List String} {es : List (String × FileTree)} :
    p ∈ filesIn q place es ↔
      ∃ name bytes, (name, FileTree.file bytes) ∈ es ∧ q.wants (place ++ [name]) = true ∧
        p = place ++ [name] := by
  rw [filesIn, List.mem_filterMap]
  constructor
  · rintro ⟨⟨name, t⟩, he, hsome⟩
    split at hsome
    · next hwanted =>
        cases hsome
        cases t with
        | file bytes => exact ⟨name, bytes, he, by simpa [FileTree.isFolder] using hwanted, rfl⟩
        | folder es => simp [FileTree.isFolder] at hwanted
    · cases hsome
  · rintro ⟨name, bytes, he, hwanted, rfl⟩
    exact ⟨_, he, by simp [FileTree.isFolder, hwanted]⟩

theorem mem_listingIn {q : Query} {place p : List String} {es : List (String × FileTree)} :
    p ∈ listingIn q place es ↔
      ∃ name sub, (name, FileTree.folder sub) ∈ es ∧
        q.excludes (relative (place ++ [name])) = false ∧
        p ∈ listing q (place ++ [name]) (.folder sub) := by
  induction es with
  | nil => simp [listingIn]
  | cons e es ih =>
      obtain ⟨n, t⟩ := e
      rw [listingIn, List.mem_append, ih]
      cases t with
      | file bytes => simp [FileTree.isFolder]
      | folder sub =>
          simp only [FileTree.isFolder, Bool.true_and, List.mem_cons, Prod.mk.injEq,
            FileTree.folder.injEq]
          constructor
          · rintro (h | ⟨name, sub', he, hrest⟩)
            · split at h
              · next hexcl => exact ⟨n, sub, Or.inl ⟨rfl, rfl⟩, by simpa using hexcl, h⟩
              · cases h
            · exact ⟨name, sub', Or.inr he, hrest⟩
          · rintro ⟨name, sub', ⟨rfl, rfl⟩ | he, hexcl, h⟩
            · left
              rw [hexcl]
              exact h
            · exact Or.inr ⟨name, sub', he, hexcl, h⟩

mutual

/-- What is listed of a tree lies below its place. -/
theorem exists_of_mem_listing {q : Query} {place p : List String} {t : FileTree}
    (h : p ∈ listing q place t) : ∃ name rest, p = place ++ name :: rest := by
  match t with
  | .file bytes =>
      rw [listing] at h
      cases h
  | .folder es =>
      rw [listing, List.mem_append] at h
      rcases h with h | h
      · obtain ⟨name, _, _, _, rfl⟩ := mem_filesIn.mp h
        exact ⟨name, [], rfl⟩
      · obtain ⟨name, next, rest, _, rfl⟩ := exists_of_mem_listingIn h
        exact ⟨name, next :: rest, rfl⟩

/-- What is listed of the folders among entries lies below one of them. -/
theorem exists_of_mem_listingIn {q : Query} {place p : List String}
    {es : List (String × FileTree)} (h : p ∈ listingIn q place es) :
    ∃ name next rest, (∃ e ∈ es, e.1 = name) ∧ p = place ++ name :: next :: rest := by
  match es with
  | [] =>
      rw [listingIn] at h
      cases h
  | (name, t) :: es =>
      rw [listingIn, List.mem_append] at h
      rcases h with h | h
      · split at h
        · obtain ⟨next, rest, rfl⟩ := exists_of_mem_listing h
          refine ⟨name, next, rest, ⟨_, List.mem_cons_self, rfl⟩, ?_⟩
          rw [List.append_assoc, List.singleton_append]
        · cases h
      · obtain ⟨name', next, rest, ⟨e, he, hname⟩, rfl⟩ := exists_of_mem_listingIn h
        exact ⟨name', next, rest, ⟨e, List.mem_cons_of_mem _ he, hname⟩, rfl⟩

end

/-- A file of the folder itself. -/
theorem mem_listing_singleton {q : Query} {place : List String} {name : String}
    {es : List (String × FileTree)} :
    place ++ [name] ∈ listing q place (.folder es) ↔
      ∃ bytes, (name, FileTree.file bytes) ∈ es ∧ q.wants (place ++ [name]) = true := by
  rw [listing, List.mem_append, mem_filesIn]
  constructor
  · rintro (⟨n, bytes, he, hwants, heq⟩ | h)
    · cases List.append_cancel_left heq
      exact ⟨bytes, he, hwants⟩
    · obtain ⟨n, next, rest, _, heq⟩ := exists_of_mem_listingIn h
      cases List.append_cancel_left heq
  · rintro ⟨bytes, he, hwants⟩
    exact Or.inl ⟨name, bytes, he, hwants, rfl⟩

/-- A file below a subfolder. -/
theorem mem_listing_cons_cons {q : Query} {place rest : List String} {name next : String}
    {es : List (String × FileTree)} :
    place ++ name :: next :: rest ∈ listing q place (.folder es) ↔
      ∃ sub, (name, FileTree.folder sub) ∈ es ∧
        q.excludes (relative (place ++ [name])) = false ∧
        place ++ [name] ++ next :: rest ∈ listing q (place ++ [name]) (.folder sub) := by
  have hassoc (n : String) (r : List String) : place ++ [n] ++ r = place ++ n :: r := by
    rw [List.append_assoc, List.singleton_append]
  rw [listing, List.mem_append, mem_filesIn, mem_listingIn]
  constructor
  · rintro (⟨n, bytes, _, _, heq⟩ | ⟨n, sub, he, hexcl, hsub⟩)
    · cases List.append_cancel_left heq
    · obtain ⟨next', rest', heq⟩ := exists_of_mem_listing hsub
      rw [hassoc] at heq
      cases List.append_cancel_left heq
      exact ⟨sub, he, hexcl, by rwa [hassoc]⟩
  · rintro ⟨sub, he, hexcl, hsub⟩
    rw [hassoc] at hsub
    exact Or.inr ⟨name, sub, he, hexcl, hsub⟩

/-- The listing has exactly the wanted files. -/
theorem mem_listing {q : Query} {place rel : List String} {t : FileTree} (h : t.Distinct) :
    place ++ rel ∈ listing q place t ↔
      rel ≠ [] ∧ (∃ bytes, at? rel t = some (.file bytes)) ∧ q.Reaches place rel := by
  induction rel generalizing place t with
  | nil =>
      refine ⟨fun hmem => ?_, fun hrel => absurd rfl hrel.1⟩
      obtain ⟨name, rest, heq⟩ := exists_of_mem_listing hmem
      exact absurd (List.append_cancel_left heq) (List.cons_ne_nil _ _).symm
  | cons name rel ih =>
      cases h with
      | file bytes => simp [listing, at?_cons, FileTree.entries, find?]
      | @folder es names entries =>
          have hfind {u : FileTree} : find? name es = some u ↔ (name, u) ∈ es :=
            FileTree.find?_eq_some_iff names
          cases rel with
          | nil =>
              have hat : at? [name] (.folder es) = find? name es :=
                @FileTree.at?_concat (.folder es) [] es rfl name
              rw [mem_listing_singleton, hat, reaches_singleton]
              simp only [← hfind]
              constructor
              · rintro ⟨bytes, he, hwants⟩
                exact ⟨List.cons_ne_nil _ _, ⟨bytes, he⟩, hwants⟩
              · rintro ⟨-, ⟨bytes, he⟩, hwants⟩
                exact ⟨bytes, he, hwants⟩
          | cons next rel =>
              rw [mem_listing_cons_cons, reaches_cons, at?_cons, FileTree.entries]
              constructor
              · rintro ⟨sub, he, hexcl, hsub⟩
                rw [ih (entries _ he)] at hsub
                rw [hfind.mpr he]
                exact ⟨List.cons_ne_nil _ _, hsub.2.1, hexcl, hsub.2.2⟩
              · rintro ⟨-, ⟨bytes, hfile⟩, hexcl, hreaches⟩
                obtain ⟨u, hu, hfile⟩ := Option.bind_eq_some_iff.mp hfile
                cases u with
                | file b => cases hfile
                | folder sub =>
                    have he := hfind.mp hu
                    refine ⟨sub, he, hexcl, ?_⟩
                    rw [ih (entries _ he)]
                    exact ⟨List.cons_ne_nil _ _, ⟨bytes, hfile⟩, hreaches⟩

/-! ## The order of the listing -/

/-- The order of files by place: where two ways part, a file comes before a folder, and names
of a kind rise. -/
def Before : List String → List String → Prop
  | [a], [b] => a < b
  | [_], _ :: _ :: _ => True
  | a :: a' :: p, b :: b' :: q => a < b ∨ a = b ∧ Before (a' :: p) (b' :: q)
  | _, _ => False

theorem before_append (place : List String) {a b : String} {p q : List String} :
    Before (place ++ a :: p) (place ++ b :: q) ↔ Before (a :: p) (b :: q) := by
  induction place with
  | nil => rfl
  | cons c place ih =>
      rw [← ih]
      cases place with
      | nil => simp [Before]
      | cons d place => simp [Before]

theorem not_before_self (p : List String) : ¬Before p p := by
  induction p with
  | nil => simp [Before]
  | cons a p ih =>
      cases p with
      | nil => simp [Before]
      | cons b p => simpa [Before] using ih

theorem pairwise_filesIn (q : Query) (place : List String) {es : List (String × FileTree)}
    (h : es.Pairwise (·.1 < ·.1)) : (filesIn q place es).Pairwise Before := by
  refine h.filterMap _ fun e e' hlt p hp p' hp' => ?_
  split at hp
  · cases hp
    split at hp'
    · cases hp'
      rw [before_append]
      exact hlt
    · cases hp'
  · cases hp

mutual

/-- The listing of an ordered tree is in order. -/
theorem pairwise_listing (q : Query) (place : List String) {t : FileTree} (h : t.Ordered) :
    (listing q place t).Pairwise Before := by
  match t, h with
  | .file _, _ =>
      rw [listing]
      exact .nil
  | .folder es, .folder names entries =>
      rw [listing, List.pairwise_append]
      refine ⟨pairwise_filesIn q place names, pairwise_listingIn q place names entries, ?_⟩
      intro p hp p' hp'
      obtain ⟨name, _, _, _, rfl⟩ := mem_filesIn.mp hp
      obtain ⟨name', next, rest, _, rfl⟩ := exists_of_mem_listingIn hp'
      rw [before_append]
      exact trivial

theorem pairwise_listingIn (q : Query) (place : List String) {es : List (String × FileTree)}
    (names : es.Pairwise (·.1 < ·.1)) (entries : ∀ e ∈ es, Ordered e.2) :
    (listingIn q place es).Pairwise Before := by
  match es with
  | [] =>
      rw [listingIn]
      exact .nil
  | (name, t) :: es =>
      rw [List.pairwise_cons] at names
      rw [listingIn, List.pairwise_append]
      refine ⟨?_, pairwise_listingIn q place names.2 fun e he => entries e (List.mem_cons_of_mem _ he), ?_⟩
      · split
        · exact pairwise_listing q (place ++ [name]) (entries _ List.mem_cons_self)
        · exact .nil
      · intro p hp p' hp'
        split at hp
        · obtain ⟨next, rest, rfl⟩ := exists_of_mem_listing hp
          obtain ⟨name', next', rest', ⟨e, he, rfl⟩, rfl⟩ := exists_of_mem_listingIn hp'
          rw [List.append_assoc, List.singleton_append, before_append]
          exact Or.inl (names.1 e he)
        · cases hp

end

/-! ## The search -/

/-- A search below a folder gives the first files of one list whatever it is asked for: the files
with an included path and no excluded path on the way down, each once and in order. -/
theorem findFiles_eq_take {d : Disk} {root : Path} {es : List (String × FileTree)}
    {ignored : List String} (hroot : d.root.at? root.components = some (.folder es))
    (hdistinct : (FileTree.folder es).Distinct)
    (hignored : ignorePatterns (.folder es) = some ignored) (globs exclude : List Glob.Pattern) :
    ∃ files : List (List String),
      (∀ p, p ∈ files ↔ (∃ bytes, at? p (.folder es) = some (.file bytes)) ∧
        Glob.includes globs (relative p) = true ∧
        ∀ r, r ≠ [] → r <+: p →
          Glob.excludes (exclude ++ ignored.map Text.points) (relative r) = false) ∧
      files.Nodup ∧ files.Pairwise Before ∧
      ∀ limit : Int, findFiles d root globs exclude limit =
        .ok ((files.take limit.toNat).map fun p => .absolute (root.components ++ p)) := by
  have hordered := ordered_sorted hdistinct
  let q : Query := ⟨Glob.includes globs, Glob.excludes (exclude ++ ignored.map Text.points)⟩
  have hsorted : (listing q [] (sorted (.folder es))).Pairwise Before :=
    pairwise_listing q [] hordered
  refine ⟨listing q [] (sorted (.folder es)), fun p => ?_, ?_, hsorted, fun limit => ?_⟩
  · have hmem : [] ++ p ∈ listing q [] (sorted (.folder es)) ↔ _ := mem_listing hordered.distinct
    simp only [at?_sorted_file hdistinct] at hmem
    rw [← List.nil_append p, hmem]
    refine ⟨fun h => h.2, fun h => ⟨?_, h⟩⟩
    -- The root is a folder, so a file has a name.
    rintro rfl
    obtain ⟨⟨bytes, hfile⟩, _⟩ := h
    cases hfile
  · rw [List.nodup_iff_pairwise_ne]
    refine hsorted.imp fun {p p'} hbefore heq => ?_
    exact not_before_self p' (heq ▸ hbefore)
  · rw [findFiles, hroot]
    simp only [hignored]
    split
    · next hle => rw [Int.toNat_of_nonpos hle, List.take_zero, List.map_nil]
    · rw [walk_eq_take]

/-- A root with an ignore file, a folder that comes before another by its capital, and an ignored
folder further down. -/
theorem findFiles_eq_take_ignored_folder :
    let tree : List (String × FileTree) :=
      [("src", .folder [("b.py", .file []), ("build", .folder [("x.py", .file [])]),
        ("a.py", .file [])]),
      ("z.py", .file []), (".gitignore", .file (Text.Utf8.encode "build/\n")),
      ("A", .folder [("c.py", .file [])])]
    let d : Disk := ⟨.folder [("p", .folder tree)], []⟩
    d.root.at? ["p"] = some (.folder tree) ∧ (FileTree.folder tree).Distinct ∧
    ignorePatterns (.folder tree) = some ["build"] ∧
    ∃ files : List (List String), files.Nodup ∧ files.Pairwise Before ∧
      ["src", "a.py"] ∈ files ∧ ["src", "build", "x.py"] ∉ files ∧
      findFiles d (.absolute ["p"]) [Text.points "**/*.py"] [] 3 =
        .ok ((files.take 3).map fun p => .absolute ("p" :: p)) := by
  intro tree d
  have hroot : d.root.at? ["p"] = some (.folder tree) := rfl
  have hdistinct : (FileTree.folder tree).Distinct := by
    simp [tree, FileTree.distinct_folder_iff, Distinct.file]
  have hignored : ignorePatterns (.folder tree) = some ["build"] := by decide +kernel
  obtain ⟨files, hmem, hnodup, hbefore, hfind⟩ :=
    @findFiles_eq_take d (.absolute ["p"]) tree ["build"] hroot hdistinct hignored
      [Text.points "**/*.py"] []
  refine ⟨hroot, hdistinct, hignored, files, hnodup, hbefore, ?_, ?_, hfind 3⟩
  · have hway : ∀ r ∈ ["src", "a.py"].inits, r ≠ [] →
        Glob.excludes ([] ++ ["build"].map Text.points) (relative r) = false := by decide +kernel
    rw [hmem]
    exact ⟨⟨[], rfl⟩, by decide +kernel, fun r hr hprefix =>
      hway r ((List.mem_inits r _).mpr hprefix) hr⟩
  · rw [hmem]
    rintro ⟨-, -, hexcl⟩
    have hbuild := hexcl ["src", "build"] (List.cons_ne_nil _ _) ⟨["x.py"], rfl⟩
    exact absurd hbuild (by decide +kernel)

end CodeBrief.Search
