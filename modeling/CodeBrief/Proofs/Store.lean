import CodeBrief.Proofs.FileTree
import CodeBrief.Proofs.JsonBreaks
import CodeBrief.Proofs.Settings
import CodeBrief.Settings.Store

/-!
# Settings are loaded as they were saved

A round trip goes through every layer of the format, and each layer has its
inverse: the file system (the place that was written to is the place that is
looked up, `lookUp_save`), the bytes (`decode?_encode`), the line breaks
(`normalizeBreaks_writeValue`), the syntax (`read_write`) and the checks
(`Project.check_members`). The only settings that do not survive are those with
a limit of so many digits that the reader refuses it.

Nothing is assumed of the disk or of the root. If settings cannot be saved there,
it is for a reason that has nothing to do with them.
-/

namespace CodeBrief.Settings

open Json (Value)
open Text (Wide)

/-! ## Settings as values -/

/-- The limits of context settings have at most `n` digits each. -/
def Context.DigitsWithin (c : Context) (n : Nat) : Prop :=
  (Text.digits c.maxFiles.natAbs).length ≤ n ∧
    (Text.digits c.maxPromptLength.natAbs).length ≤ n ∧
    (Text.digits c.maxFileLength.natAbs).length ≤ n

theorem storableItems_str (room : Nat) (ss : List Wide) :
    Json.StorableItems room (ss.map .str) := by
  induction ss with
  | nil => exact trivial
  | cons s ss ih => exact ⟨trivial, ih⟩

/-- The lists of context settings take one place for lists and objects inside one another. -/
theorem Context.storableMembers {c : Context} (h : c.DigitsWithin Json.digitLimit) (room : Nat) :
    Json.StorableMembers (room + 1) c.members := by
  obtain ⟨hfiles, hprompt, hlength⟩ := h
  exact ⟨hfiles, hprompt, hlength, ⟨room, rfl, storableItems_str room c.extensions⟩,
    ⟨room, rfl, storableItems_str room c.excludePatterns⟩, trivial⟩

theorem Project.storable {p : Project} (h : p.context.DigitsWithin Json.digitLimit) :
    p.toValue.Storable Json.nestingLimit := by
  have hnames : (p.members.map Prod.fst).Nodup := by
    rw [Project.members]
    exact (by decide : (["name", "root_path", "context"] : List Wide).Nodup)
  have hcontext : (p.context.members.map Prod.fst).Nodup := by
    rw [Context.members]
    exact (by decide : (["max_context_files", "max_prompt_length", "max_file_content_length",
      "extensions", "exclude_patterns"] : List Wide).Nodup)
  exact ⟨hnames, _, rfl, trivial, trivial, ⟨hcontext, _, rfl, Context.storableMembers h _⟩, trivial⟩

/-- The text of a settings file, as it is after the translation of line breaks, is parsed as
the settings. -/
theorem parse_fileText {p : Project} (hvalid : p.context.Valid)
    (hdigits : p.context.DigitsWithin Json.digitLimit) (path : String) :
    parse path (Text.normalizeBreaks (fileText p).toList) = .ok p := by
  have hstorable := Project.storable hdigits
  have hread := Json.read_write .ascii hstorable
  rw [fileText]
  rw [Json.write, String.toList_ofList] at hread ⊢
  rw [Json.normalizeBreaks_writeValue .ascii 0 hstorable, parse, hread, Project.toValue]
  simp only [Project.check_members hvalid]

/-! ## Settings on disk -/

/-- What `save` does: with the folders made, it puts the file where no folder stands. -/
theorem save_eq_ok {d d' : Disk} {root : Path} {p : Project} (h : save d root p = .ok d') :
    ∃ t place es, d.makeFolders (folderPath root) = .ok (t, place) ∧
      t.at? place = some (.folder es) ∧
      (∀ sub, FileTree.find? fileName es ≠ some (.folder sub)) ∧
      d' = { d with
        root := t.put (place ++ [fileName]) (.file (Text.Utf8.encode (fileText p))) } := by
  rw [save] at h
  split at h
  · cases h
  · next t place hmake =>
      split at h
      · next es hes =>
          split at h
          · cases h
          · next hnone =>
              cases h
              exact ⟨t, place, es, hmake, hes, hnone, rfl⟩
      · cases h

/-- Where settings can be saved, any other settings can be saved. -/
theorem save_ok_of_save_ok {d d' : Disk} {root : Path} {p : Project}
    (h : save d root p = .ok d') (q : Project) : ∃ d'', save d root q = .ok d'' := by
  obtain ⟨t, place, es, hmake, hes, hnone, _⟩ := save_eq_ok h
  rw [save, hmake]
  simp only [hes]
  exact ⟨_, rfl⟩

/-- The disk has a settings folder for a root, at the place that its path leads to, and settings
in it. -/
def Keeps (d : Disk) (root : Path) (p : Project) : Prop :=
  ∃ place es, d.place? (folderPath root) = .ok place ∧ d.root.at? place = some (.folder es) ∧
    FileTree.find? fileName es = some (.file (Text.Utf8.encode (fileText p)))

/-- Settings that were saved are in the folder that the path of the settings folder leads to. -/
theorem keeps_of_save {d d' : Disk} {root : Path} {p : Project} (h : save d root p = .ok d') :
    Keeps d' root p := by
  obtain ⟨t, place, es, hmake, hes, hnone, rfl⟩ := save_eq_ok h
  generalize hnew : FileTree.file (Text.Utf8.encode (fileText p)) = new
  have hplace : t.folderAt place = true := FileTree.folderAt_iff.mpr ⟨es, hes⟩
  have hfree : t.folderAt (place ++ [fileName]) = false := by
    rw [FileTree.folderAt, FileTree.at?_concat hes]
    split
    · next u hu =>
        cases u with
        | file bytes => rfl
        | folder sub => exact absurd hu (hnone sub)
    · rfl
  have hkeeps := FileTree.keepsFolders_put new hfree
  have hat := FileTree.at?_put_self t (place ++ [fileName]) new
  obtain ⟨es', hes'⟩ := FileTree.folderAt_iff.mp (hkeeps place hplace)
  have hfind : FileTree.find? fileName es' = some new := by
    rw [← FileTree.at?_concat hes', hat]
  -- The new file is no folder, so it does not bend the way along which the folders were made.
  obtain ⟨_, hfollow⟩ := FileTree.follow_makeFolders [] hmake hplace hkeeps
  rw [List.append_nil] at hfollow
  exact ⟨place, es', hfollow, hes', hnew ▸ hfind⟩

/-- The file in the settings folder is the one that the path of the settings file leads to. -/
theorem lookUp_of_keeps {d : Disk} {root : Path} {p : Project} (h : Keeps d root p) :
    d.lookUp (filePath root) = .ok (.file (Text.Utf8.encode (fileText p))) := by
  obtain ⟨place, es, hfolder, hes, hfind⟩ := h
  have hplace : d.place? (filePath root) = .ok (place ++ [fileName]) := by
    have hsteps : d.place? (filePath root) =
        (d.place? (folderPath root)).bind fun there => d.root.follow there [fileName] :=
      FileTree.follow_append d.root [fileName]
    rw [hsteps, hfolder, Except.bind, FileTree.follow, hes]
    simp only []
    rw [if_neg (by decide), hfind]
    rfl
  rw [Disk.lookUp, hplace]
  simp only [bind, Except.bind, FileTree.at?_concat hes, hfind]

/-- The settings file that was written is the one that is looked up. -/
theorem lookUp_save {d d' : Disk} {root : Path} {p : Project} (h : save d root p = .ok d') :
    d'.lookUp (filePath root) = .ok (.file (Text.Utf8.encode (fileText p))) :=
  lookUp_of_keeps (keeps_of_save h)

/-- Where the settings folder of a root is, the root is. -/
theorem exists_of_keeps {d : Disk} {root : Path} {p : Project} (h : Keeps d root p) :
    d.exists? root = true := by
  obtain ⟨place, es, hfolder, -, -⟩ := h
  have hsteps : d.place? (folderPath root) =
      (d.place? root).bind fun there => d.root.follow there [folderName] :=
    FileTree.follow_append d.root [folderName]
  rw [hsteps] at hfolder
  cases hroot : d.place? root with
  | error trouble =>
      rw [hroot] at hfolder
      cases hfolder
  | ok there =>
      rw [hroot, Except.bind, FileTree.follow] at hfolder
      rw [Disk.exists?, Disk.lookUp, hroot]
      simp only [bind, Except.bind]
      split at hfolder
      · next sub hsub => rw [hsub]; rfl
      · cases hfolder
      · cases hfolder

/-- Saving settings where they are already changes nothing on the disk. -/
theorem save_of_keeps {d : Disk} {root : Path} {p : Project} (h : Keeps d root p) :
    save d root p = .ok d := by
  obtain ⟨place, es, hfolder, hes, hfind⟩ := h
  have hmake : d.makeFolders (folderPath root) = .ok (d.root, place) :=
    FileTree.makeFolders_of_follow hfolder
  have hput : d.root.put (place ++ [fileName]) (.file (Text.Utf8.encode (fileText p))) = d.root :=
    FileTree.put_self ((FileTree.at?_concat hes fileName).trans hfind)
  rw [save, hmake]
  simp only [hes, hfind, hput]

/-- Valid settings whose limits have at most 4300 digits are loaded as they were saved, and
whether they can be saved depends on the disk and the root alone. -/
theorem load_save {p : Project} (hvalid : p.context.Valid) (hdigits : p.context.DigitsWithin 4300)
    (d : Disk) (root : Path) :
    (∀ d', save d root p = .ok d' → load d' root = .ok p) ∧
      ∀ q d', save d root q = .ok d' → ∃ d'', save d root p = .ok d'' := by
  refine ⟨fun d' h => ?_, fun q d' h => save_ok_of_save_ok h p⟩
  rw [load, lookUp_save h]
  simp only [Text.Utf8.decode?_encode]
  exact parse_fileText hvalid hdigits _

/-- Quotes, backslashes, control characters, line breaks of every kind, characters that take two
units and a limit of thirty digits, saved below a root that is yet to be made. -/
theorem load_save_awkward_strings :
    ∃ d', save ⟨.folder [], []⟩ (Path.absolute ["srv", "app"])
        ⟨"\"\\/\r\n\r", "\t\x00\x1f\x7f😀",
          ⟨1, 123456789012345678901234567890, 7, ["é\u2028", ""], []⟩⟩ = .ok d' ∧
      load d' (Path.absolute ["srv", "app"]) =
        .ok ⟨"\"\\/\r\n\r", "\t\x00\x1f\x7f😀",
          ⟨1, 123456789012345678901234567890, 7, ["é\u2028", ""], []⟩⟩ := by
  refine ⟨_, rfl, (load_save ?_ ?_ ⟨.folder [], []⟩ _).1 _ rfl⟩
  · rw [Context.Valid]
    decide
  · rw [Context.DigitsWithin]
    decide +kernel

end CodeBrief.Settings
