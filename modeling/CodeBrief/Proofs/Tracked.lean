import Mathlib
import CodeBrief.Proofs.Collected
import CodeBrief.Proofs.Extensions

/-!
# Saving a file that was collected

A file is collected for an extension that its path ends in, and when it is saved
it is looked at again by the part of its name behind the last dot. Saving it
collects the sources anew exactly if that part is one of the extensions
(`saved_source_iff`), and the two agree for a plain extension without a dot
inside. They part where an extension has a dot inside, of which only what is
behind it is looked at, and where a name is nothing but a dot and an extension,
of which nothing is.
-/

namespace CodeBrief

open Text (Point Wide)

/-- Nothing in an extension is special in a pattern or separates the components of a path. -/
def Glob.Plain (e : Wide) : Prop := Literal e.points ∧ .char '/' ∉ e.points

/-- What a plain extension asks for at the end of a path is text. -/
theorem Glob.Plain.exists_suffix {e : Wide} (h : Plain e) {path : String}
    (hincl : includes (ofExtensions [e]) path = true) :
    ∃ b : List Char, bare e = b.map .char ∧ '/' ∉ '.' :: b ∧ '.' :: b <:+ path.toList := by
  obtain ⟨dotted, hend, heq⟩ := List.suffix_map_iff.mp ((includes_ofExtensions_iff h.1).mp hincl)
  cases dotted with
  | nil => cases heq
  | cons c b =>
      obtain ⟨hc, hb⟩ := List.cons.inj heq
      obtain rfl := Point.char.inj hc
      refine ⟨b, hb, fun hmem => ?_, hend⟩
      rcases List.mem_cons.mp hmem with hslash | hmem
      · cases hslash
      · have hbare : .char '/' ∈ bare e := hb ▸ List.mem_map_of_mem hmem
        exact h.2 ((List.dropWhile_suffix _).mem hbare)

namespace Collection

theorem mem_of_mem_takeSigned {α : Type} {n : Int} {xs : List α} {x : α}
    (h : x ∈ takeSigned n xs) : x ∈ xs := by
  rw [takeSigned] at h
  split at h <;> exact List.mem_of_mem_take h

/-- What is collected below a place are files found there. -/
theorem exists_of_mem_collect {d : Disk} (hd : d.Proper) {place : List String}
    (hplace : Path.IsPlace place) {extensions exclude : List Text.Wide} {maxFiles maxLength : Int}
    {files : List ContextFile} {notices : List Notice}
    (h : collect (d.workspace (some (.absolute place))) extensions exclude maxFiles maxLength =
      .ok (files, notices)) {f : ContextFile} (hf : f ∈ files) :
    ∃ rel text, Search.IsFound d place (Glob.ofExtensions extensions) rel ∧
      f = sourceOf maxLength (.absolute (place ++ rel)) text := by
  rw [d.workspace_absolute hplace] at h
  rcases files_of_collect rfl h with ⟨_, _, _, rfl⟩ | ⟨paths, hpaths, rfl⟩
  · cases hf
  · obtain ⟨rels, rfl, -, hrels, -⟩ := Search.exists_of_findFiles hd hpaths
    obtain ⟨path, hpath, hfile⟩ := List.mem_filterMap.mp hf
    obtain ⟨rel, hrel, rfl⟩ := List.mem_map.mp (mem_of_mem_takeSigned hpath)
    obtain ⟨text, -, rfl⟩ := Option.map_eq_some_iff.mp hfile
    exact ⟨rel, text, hrels rel hrel, rfl⟩

end Collection

namespace Session

theorem tracks_iff {s : Session} {path : String} :
    s.tracks path = true ↔ ∃ e : String, ↑e ∈ s.context.extensions ∧
      extensionKey e = extensionKey (Path.ofString path).extension := by
  have htext {e : String} :
      e ∈ s.context.extensions.filterMap Wide.text? ↔ ↑e ∈ s.context.extensions := by
    rw [List.mem_filterMap]
    constructor
    · rintro ⟨w, hw, heq⟩
      cases w with
      | text t =>
          cases heq
          exact hw
      | broken b => cases heq
    · exact fun hw => ⟨_, hw, rfl⟩
  simp only [tracks, List.contains_iff_mem, List.mem_map, htext]

/-- Saving a file does what a refresh does, and says so, exactly if its extension is asked for. -/
theorem saved_eq_refresh_iff {s : Session} {now : Workspace} {path : String} :
    s.saved now path = (s.refresh now).map (fun r => (r.1, true, r.2)) ↔ s.tracks path = true := by
  rw [saved]
  split
  · next h => exact iff_of_true rfl h
  · next h =>
      refine iff_of_false ?_ h
      cases s.refresh now with
      | error why => simp [Except.map]
      | ok found => simp [Except.map]

theorem context_of_refresh {s t : Session} {w : Workspace} {notices : List Notice}
    (h : s.refresh w = .ok (t, notices)) : t.context = s.context := by
  rw [refresh, collect_of_refresh h] at h
  exact (congrArg (fun r => r.1.context) (Except.ok.inj h)).symm

/-- A collected file has been found for some extension. When it is saved, the sources are collected
anew exactly if the part of its name behind the last dot is an extension, in whatever case. If the
extension that it was found for is plain, its name ends in it, and that part is what stands behind
the last dot of the extension; but if the only dot of the name comes first, there is no such part. -/
theorem saved_source_iff {d : Disk} (hd : d.Proper) {place : List String}
    (hplace : Path.IsPlace place) {s t : Session} {notices : List Notice}
    (h : s.refresh (d.workspace (some (.absolute place))) = .ok (t, notices)) {f : ContextFile}
    (hf : f ∈ t.sources) :
    (∀ now, t.saved now f.path = (t.refresh now).map (fun r => (r.1, true, r.2)) ↔
      ∃ e : String, ↑e ∈ s.context.extensions ∧
        extensionKey e = Text.lower (String.ofList (Path.lastPart f.name.toList))) ∧
    ∃ rel, f.path = (Path.absolute (place ++ rel)).text ∧ ∃ e ∈ s.context.extensions,
      Glob.includes (Glob.ofExtensions [e]) (Search.relative rel) = true ∧
      (Glob.Plain e → ∃ b : List Char, Glob.bare e = b.map .char ∧ '.' :: b <:+ f.name.toList ∧
        Path.lastPart f.name.toList =
          if '.' ∈ f.name.toList.tail then b.rtakeWhile (· ≠ '.') else []) := by
  obtain ⟨rel, text, hfound, rfl⟩ := Collection.exists_of_mem_collect hd hplace (collect_of_refresh h) hf
  have hway := Path.isPlace_append.mpr ⟨hplace, hfound.isPlace⟩
  refine ⟨fun now => ?_, rel, rfl, ?_⟩
  · have hread : (Path.ofString (Path.absolute (place ++ rel)).text).extension =
        Path.suffixOf (Path.absolute (place ++ rel)).name := by
      rw [Path.ofString_text_absolute hway.isComponent, Path.extension]
    rw [saved_eq_refresh_iff, tracks_iff, context_of_refresh h]
    simp only [Collection.sourceOf, ContextFile.ofPath, hread, Path.extensionKey_suffixOf]
  · obtain ⟨e, he, hincl⟩ := Glob.includes_ofExtensions.mp hfound.included
    refine ⟨e, he, hincl, fun hplain => ?_⟩
    obtain ⟨b, hb, hslash, hend⟩ := hplain.exists_suffix hincl
    have hname := Path.suffix_name_of_suffix_relative hslash place hfound.ne_nil hend
    exact ⟨b, hb, hname, Path.lastPart_of_suffix hname⟩

/-- A name with two dots, and an extension in capitals with a dot in front. -/
theorem saved_source_iff_capitals :
    let d : Disk := ⟨.folder [("p", .folder [("a.b.PY", .file [])])], []⟩
    let s := start ⟨⟨2, 50000, 3000, [".PY"], []⟩, []⟩
    ∃ t notices, s.refresh (d.workspace (some (.absolute ["p"]))) = .ok (t, notices) ∧
      t.sources = [⟨"/p/a.b.PY", "a.b.PY", "", .source, false⟩] ∧
      ∀ now, t.saved now "/p/a.b.PY" = (t.refresh now).map (fun r => (r.1, true, r.2)) := by
  intro d s
  have hproper : d.Proper := @Disk.proper_of_files "p" [("a.b.PY", [])] []
    (by decide) (by decide) (by decide) (by decide)
  have hplace : Path.IsPlace ["p"] := by decide
  let f : ContextFile := ⟨"/p/a.b.PY", "a.b.PY", "", .source, false⟩
  have hrefresh : s.refresh (d.workspace (some (.absolute ["p"]))) =
      .ok ({ s with sources := [f] }, []) := by cbv
  refine ⟨_, _, hrefresh, rfl, ?_⟩
  obtain ⟨hiff, -⟩ := saved_source_iff hproper hplace hrefresh (List.mem_singleton_self f)
  intro now
  refine (hiff now).mpr ⟨".PY", List.mem_singleton_self _, by decide⟩

/-- A file is collected for an extension with a dot inside, and saving it goes unnoticed. -/
theorem saved_source_inner_dot :
    let d : Disk := ⟨.folder [("p", .folder [("a.test.py", .file [0x78])])], []⟩
    let w := d.workspace (some (.absolute ["p"]))
    let s := start ⟨⟨2, 50000, 3000, ["test.py"], []⟩, []⟩
    ∃ t notices, s.refresh w = .ok (t, notices) ∧
      t.sources = [⟨"/p/a.test.py", "a.test.py", "x", .source, false⟩] ∧
      t.saved w "/p/a.test.py" = .ok (t, false, []) := by
  intro d w s
  let t : Session := { s with sources := [⟨"/p/a.test.py", "a.test.py", "x", .source, false⟩] }
  have hrefresh : s.refresh w = .ok (t, []) := by cbv
  have huntracked : t.tracks "/p/a.test.py" = false := by decide +kernel
  refine ⟨t, [], hrefresh, rfl, ?_⟩
  rw [saved, huntracked]
  rfl

end Session

end CodeBrief
