import Mathlib
import CodeBrief.Proofs.ProperDisk
import CodeBrief.Proofs.Settings
import CodeBrief.Proofs.Utf8
import CodeBrief.Session.Basic

/-!
# Source files are collected one by one

A search finds places first and reads afterwards, so what a file holds has a say
in its own source file only: the sources are the found files that can be read, in
the order found (`Collection.files_of_collect`), and on a disk all of them can
(`Disk.readText_absolute`), since bytes that are no text are marked.

The one file that is read before the search is the ignore file of the root, and
it is read strictly. A refresh comes to an end exactly if that file is text
(`refresh_ok_iff`).
-/

namespace CodeBrief

/-! ## Reading a place -/

namespace FileTree

/-- Following names leads to where they stand. -/
theorem follow_of_at? {t u : FileTree} {place rel : List String} (hrel : Path.IsPlace rel)
    (h : at? (place ++ rel) t = some u) : t.follow place rel = .ok (place ++ rel) := by
  induction rel generalizing place with
  | nil => rw [follow, List.append_nil]
  | cons name rel ih =>
      obtain ⟨hname, hnames⟩ := List.forall_mem_cons.mp hrel
      have hassoc : place ++ name :: rel = place ++ [name] ++ rel := by
        rw [List.append_assoc, List.singleton_append]
      have hbelow := h
      rw [at?_append] at hbelow
      obtain ⟨v, hv, hbelow⟩ := Option.bind_eq_some_iff.mp hbelow
      rw [at?_cons] at hbelow
      obtain ⟨next, hnext, _⟩ := Option.bind_eq_some_iff.mp hbelow
      cases v with
      | file bytes => cases hnext
      | folder es =>
          have hfind : find? name es = some next := hnext
          rw [follow, hv]
          simp only [if_neg hname.2, hfind]
          rw [hassoc] at h ⊢
          exact ih hnames h

end FileTree

/-- The text of the file at a place, with marks for what is no text. -/
theorem Disk.readText_absolute {d : Disk} {place : List String} {bytes : List UInt8}
    (hplace : Path.IsPlace place) (h : d.root.at? place = some (.file bytes)) :
    d.readText (.absolute place) = .ok (String.ofList (Text.Utf8.decode bytes)) := by
  have hfollow : d.place? (.absolute place) = .ok place := FileTree.follow_of_at? hplace h
  rw [readText, readBytes, lookUp, hfollow]
  simp only [bind, Except.bind, h]
  rfl

/-! ## Collecting -/

namespace Collection

/-- The source file of a text at a path, under a limit of length. -/
def sourceOf (limit : Int) (path : Path) (text : String) : ContextFile :=
  .ofPath path (truncate (Summary.summarizeFile path.text text limit) limit) .source

theorem fileOf_fst (w : Workspace) (limit : Int) (path : Path) :
    (fileOf w limit path).1 = (w.read path).toOption.map (sourceOf limit path) := by
  rw [fileOf]
  cases w.read path <;> rfl

theorem takeSigned_of_length_le {α : Type} {n : Int} {xs : List α} (h : xs.length ≤ n.toNat)
    (hn : 0 < n) : takeSigned n xs = xs := by
  rw [takeSigned, if_pos (Int.le_of_lt hn), List.take_of_length_le h]

/-- The source files that are collected are those of the found paths that can be read. -/
theorem files_of_collect {w : Workspace} {root : Path} (hroot : w.root = some root)
    {extensions exclude : List Text.Wide} {maxFiles maxLength : Int} {files : List ContextFile}
    {notices : List Notice}
    (h : collect w extensions exclude maxFiles maxLength = .ok (files, notices)) :
    (∃ why, w.find (Glob.ofExtensions extensions) (exclude.map Text.Wide.points) maxFiles = .error why ∧
        why ≠ .ignoreFileNotText ∧ files = []) ∨
      ∃ paths, w.find (Glob.ofExtensions extensions) (exclude.map Text.Wide.points) maxFiles = .ok paths ∧
        files = (takeSigned maxFiles paths).filterMap fun path =>
          (w.read path).toOption.map (sourceOf maxLength path) := by
  rw [collect, hroot] at h
  simp only at h
  split at h
  · cases h
  · next why hne hwhy =>
      cases h
      exact .inl ⟨why, hwhy, hne, rfl⟩
  · next paths hpaths =>
      cases h
      refine .inr ⟨paths, hpaths, ?_⟩
      rw [List.filterMap_map]
      exact List.filterMap_congr fun path _ => fileOf_fst w maxLength path

/-- Collecting below a root fails only if the search does, and only for its ignore file. -/
theorem collect_eq_error_iff {w : Workspace} {root : Path} (hroot : w.root = some root)
    {extensions exclude : List Text.Wide} {maxFiles maxLength : Int} {why : Search.Failure} :
    collect w extensions exclude maxFiles maxLength = .error why ↔
      w.find (Glob.ofExtensions extensions) (exclude.map Text.Wide.points) maxFiles = .error .ignoreFileNotText ∧
        why = .ignoreFileNotText := by
  rw [collect, hroot]
  simp only
  split
  · next hfind => simp [hfind, eq_comm]
  · next hother hfind =>
      rw [hfind]
      exact iff_of_false (by simp) fun h => hother (Except.error.inj h.1)
  · next hfind =>
      rw [hfind]
      exact iff_of_false (by simp) (by simp)

end Collection

namespace Search

theorem ignorePatterns_eq_none_iff {es : List (String × FileTree)} :
    ignorePatterns (.folder es) = none ↔
      ∃ bytes, FileTree.find? ignoreFile es = some (.file bytes) ∧
        Text.Utf8.decode? bytes = none := by
  rw [ignorePatterns, FileTree.entries]
  split
  · next bytes hbytes => simp [hbytes]
  · next hnone =>
      refine iff_of_false (by simp) ?_
      rintro ⟨bytes, hbytes, -⟩
      exact hnone bytes hbytes

/-- A search fails for the ignore file of its root exactly if that is a file and no text. -/
theorem findFiles_eq_ignoreFileNotText_iff {d : Disk} {place : List String} {globs exclude : List Glob.Pattern}
    {limit : Int} (hlimit : 0 < limit) :
    findFiles d (.absolute place) globs exclude limit = .error .ignoreFileNotText ↔
      ∃ bytes, d.root.at? (place ++ [ignoreFile]) = some (.file bytes) ∧
        Text.Utf8.decode? bytes = none := by
  have hroot : (Path.absolute place).components = place := rfl
  rw [findFiles, hroot]
  split
  · next es hes =>
      rw [if_neg (Int.not_le.mpr hlimit), FileTree.at?_concat hes, ← ignorePatterns_eq_none_iff]
      split
      · next hnone => simp [hnone]
      · next ignored hignored => simp [hignored]
  · next hfolder =>
      refine iff_of_false (by simp) ?_
      rintro ⟨bytes, hbytes, -⟩
      rw [FileTree.at?_append] at hbytes
      obtain ⟨t, ht, hfile⟩ := Option.bind_eq_some_iff.mp hbytes
      obtain ⟨es, _, rfl, -, -⟩ := FileTree.exists_of_at?_cons hfile
      exact hfolder es ht

/-- A search that fails for another reason has no folder to search. -/
theorem folderAt_of_findFiles_error {d : Disk} {place : List String} {globs exclude : List Glob.Pattern} {limit : Int}
    {why : Failure} (h : findFiles d (.absolute place) globs exclude limit = .error why)
    (hwhy : why ≠ .ignoreFileNotText) : d.root.folderAt place = false := by
  rw [findFiles] at h
  split at h
  · split at h
    · cases h
    · split at h
      · cases h
        exact absurd rfl hwhy
      · cases h
  · next hfolder =>
      rw [Bool.eq_false_iff]
      intro hplace
      obtain ⟨es, hes⟩ := FileTree.folderAt_iff.mp hplace
      exact hfolder es hes

end Search

namespace Session

/-- Refreshing below a root fails only for its ignore file. -/
theorem refresh_eq_error_iff {s : Session} {w : Workspace} {root : Path} (hroot : w.root = some root)
    {why : Search.Failure} :
    s.refresh w = .error why ↔
      w.find (Glob.ofExtensions s.context.extensions)
          (s.context.excludePatterns.map Text.Wide.points) s.context.maxFiles =
          .error .ignoreFileNotText ∧ why = .ignoreFileNotText := by
  rw [← Collection.collect_eq_error_iff hroot, refresh]
  cases Collection.collect w s.context.extensions s.context.excludePatterns s.context.maxFiles
    s.context.maxFileLength <;> simp [Except.map]

theorem collect_of_refresh {s t : Session} {w : Workspace} {notices : List Notice}
    (h : s.refresh w = .ok (t, notices)) :
    Collection.collect w s.context.extensions s.context.excludePatterns s.context.maxFiles
      s.context.maxFileLength = .ok (t.sources, notices) := by
  rw [refresh] at h
  cases hc : Collection.collect w s.context.extensions s.context.excludePatterns
      s.context.maxFiles s.context.maxFileLength with
  | error why =>
      rw [hc] at h
      cases h
  | ok found =>
      rw [hc] at h
      cases h
      rfl

/-- Whatever the files below a root hold, and whichever of them cannot be read, the sources can be
collected anew exactly if the ignore file of the root is text. They are then the found files that
can be read, each made of its own text alone; and each stands on the disk with a text to be read. -/
theorem refresh_ok_iff {d : Disk} (hd : d.Proper) {place : List String}
    (hplace : Path.IsPlace place) {s : Session} (hvalid : s.context.Valid)
    (read : Path → Except FileTree.Trouble String) :
    let c := s.context
    let w : Workspace := { d.workspace (some (.absolute place)) with read := read }
    ((∃ t notices, s.refresh w = .ok (t, notices)) ↔
      ∀ bytes, d.root.at? (place ++ [Search.ignoreFile]) = some (.file bytes) →
        ∃ text, Text.Utf8.decode? bytes = some text) ∧
    ∀ t notices, s.refresh w = .ok (t, notices) →
      (d.root.folderAt place = false ∧ t.sources = []) ∨
        ∃ paths, w.find (Glob.ofExtensions c.extensions) (c.excludePatterns.map Text.Wide.points)
            c.maxFiles = .ok paths ∧
          t.sources = paths.filterMap (fun path =>
            (read path).toOption.map (Collection.sourceOf c.maxFileLength path)) ∧
          ∀ path ∈ paths, ∃ bytes, d.root.at? path.components = some (.file bytes) ∧
            d.readText path = .ok (String.ofList (Text.Utf8.decode bytes)) := by
  intro c w
  have hw : w = ⟨some (.absolute place), d.cwd, Search.findFiles d (.absolute place), read⟩ := by
    simp only [w, d.workspace_absolute hplace]
  have hroot : w.root = some (.absolute place) := congrArg Workspace.root hw
  have hfind : w.find = Search.findFiles d (.absolute place) := congrArg Workspace.find hw
  have herror (why : Search.Failure) : s.refresh w = .error why ↔
      (∃ bytes, d.root.at? (place ++ [Search.ignoreFile]) = some (.file bytes) ∧
        Text.Utf8.decode? bytes = none) ∧ why = .ignoreFileNotText := by
    rw [refresh_eq_error_iff hroot, hfind, Search.findFiles_eq_ignoreFileNotText_iff hvalid.1]
  refine ⟨⟨?_, ?_⟩, fun t notices h => ?_⟩
  · rintro ⟨t, notices, h⟩ bytes hbytes
    cases htext : Text.Utf8.decode? bytes with
    | some text => exact ⟨text, rfl⟩
    | none => cases h.symm.trans ((herror _).mpr ⟨⟨bytes, hbytes, htext⟩, rfl⟩)
  · intro htext
    cases h : s.refresh w with
    | ok found => exact ⟨found.1, found.2, rfl⟩
    | error why =>
        obtain ⟨⟨bytes, hbytes, hnone⟩, -⟩ := (herror why).mp h
        obtain ⟨text, hsome⟩ := htext bytes hbytes
        cases hsome.symm.trans hnone
  · rcases Collection.files_of_collect hroot (collect_of_refresh h) with
      ⟨why, hwhy, hne, hnil⟩ | ⟨paths, hpaths, hsources⟩
    · rw [hfind] at hwhy
      exact .inl ⟨Search.folderAt_of_findFiles_error hwhy hne, hnil⟩
    · have hsearch := hpaths
      rw [hfind] at hsearch
      obtain ⟨rels, rfl, -, hrels, hlength⟩ := Search.exists_of_findFiles hd hsearch
      refine .inr ⟨_, hpaths, ?_, ?_⟩
      · rw [hsources, Collection.takeSigned_of_length_le (by rwa [List.length_map]) hvalid.1]
      · intro path hpath
        obtain ⟨rel, hrel, rfl⟩ := List.mem_map.mp hpath
        obtain ⟨bytes, hbytes⟩ := (hrels rel hrel).file
        have hway := Path.isPlace_append.mpr ⟨hplace, (hrels rel hrel).isPlace⟩
        exact ⟨bytes, hbytes, Disk.readText_absolute hway hbytes⟩

/-- An ignore file that is text, a file that is none, and one that cannot be read. -/
theorem refresh_ok_iff_marked :
    let tree : List (String × FileTree) :=
      [(Search.ignoreFile, .file [0x78, 0x2f]), ("a.py", .file [0x78, 0xff]), ("b.py", .file [])]
    let d : Disk := ⟨.folder [("p", .folder tree)], []⟩
    let read (path : Path) : Except FileTree.Trouble String :=
      if path.name = "b.py" then .error .missing else d.readText path
    let w : Workspace := { d.workspace (some (.absolute ["p"])) with read := read }
    let s := start ⟨⟨2, 50000, 3000, ["py"], []⟩, []⟩
    ∃ t notices, s.refresh w = .ok (t, notices) ∧
      t.sources = [⟨"/p/a.py", "a.py", "x\uFFFD", .source, false⟩] := by
  intro tree d read w s
  have hproper : d.Proper := @Disk.proper_of_files "p"
    [(Search.ignoreFile, [0x78, 0x2f]), ("a.py", [0x78, 0xff]), ("b.py", [])] []
    (by decide) (by decide) (by decide) (by decide)
  have hplace : Path.IsPlace ["p"] := by decide
  have hvalid : s.context.Valid := ⟨by decide, by decide, by decide⟩
  obtain ⟨hok, hall⟩ := refresh_ok_iff hproper hplace hvalid read
  obtain ⟨t, notices, h⟩ := hok.mpr fun bytes hbytes => by
    have hignore : d.root.at? (["p"] ++ [Search.ignoreFile]) = some (.file [0x78, 0x2f]) := rfl
    cases hignore.symm.trans hbytes
    exact ⟨"x/".toList, by cbv⟩
  refine ⟨t, notices, h, ?_⟩
  rcases hall t notices h with ⟨hfolder, _⟩ | ⟨paths, hpaths, hsources, _⟩
  · cases hfolder
  · have hfind : w.find (Glob.ofExtensions ["py"]) [] 2 =
        .ok [.absolute ["p", "a.py"], .absolute ["p", "b.py"]] := by cbv
    cases hfind.symm.trans hpaths
    rw [hsources]
    cbv

/-- An ignore file that is no text, beside a file that is. -/
theorem refresh_ignore_file_no_text :
    let tree : List (String × FileTree) := [("a.py", .file []), (Search.ignoreFile, .file [0xff])]
    let d : Disk := ⟨.folder [("p", .folder tree)], []⟩
    let s := start ⟨Settings.defaultContext, []⟩
    s.context.Valid ∧ s.refresh (d.workspace (some (.absolute ["p"]))) = .error .ignoreFileNotText := by
  refine ⟨Settings.defaultContext_valid, ?_⟩
  cbv

end Session

end CodeBrief
