import CodeBrief.Proofs.Assembly
import CodeBrief.Proofs.Path
import CodeBrief.Proofs.Priority

/-!
# A prompt does not depend on the order in which references were added

The reference files of a session stand in the order of their first addition, and
the order of files keeps tied files as they stand. It still makes no difference
to a prompt how a session came by its references: no two of them have one path,
so none are tied with one another, and a reference that is tied with a source
file of its path stands before it in every session.

What a run of calls keeps is `Keyed`: the paths are distinct, and a reference is
made of its path and its text alone, so that the texts by path say all there is
to know about the references but their order.
-/

namespace CodeBrief

namespace References

/-- The text of the reference file at a path. -/
def textAt? (r : References) (path : String) : Option String :=
  (r.files.find? (·.path = path)).map (·.content)

/-- The paths are distinct, and each file is made of its path and its text. -/
structure Keyed (r : References) : Prop where
  distinct : (r.files.map (·.path)).Nodup
  made : ∀ f ∈ r.files, f = .ofPath (.ofString f.path) f.content .reference

theorem map_path_insert (f : ContextFile) (files : List ContextFile) :
    (insert f files).map (·.path) =
      if f.path ∈ files.map (·.path) then files.map (·.path)
      else files.map (·.path) ++ [f.path] := by
  induction files with
  | nil => rfl
  | cons g rest ih =>
      rw [insert]
      by_cases h : g.path = f.path
      · rw [if_pos h, List.map_cons, List.map_cons, if_pos (List.mem_cons.mpr (Or.inl h.symm)), h]
      · have hmem : f.path ∈ (g :: rest).map (·.path) ↔ f.path ∈ rest.map (·.path) := by
          rw [List.map_cons, List.mem_cons]
          exact or_iff_right (Ne.symm h)
        rw [if_neg h, List.map_cons, ih]
        by_cases hrest : f.path ∈ rest.map (·.path)
        · rw [if_pos hrest, if_pos (hmem.mpr hrest), List.map_cons]
        · rw [if_neg hrest, if_neg (mt hmem.mp hrest), List.map_cons, List.cons_append]

theorem nodup_map_path_insert {f : ContextFile} {files : List ContextFile}
    (h : (files.map (·.path)).Nodup) : ((insert f files).map (·.path)).Nodup := by
  rw [map_path_insert]
  split
  · exact h
  · next hnew =>
      refine List.nodup_append.mpr ⟨h, List.nodup_singleton _, ?_⟩
      rintro p hp q hq rfl
      obtain rfl := List.mem_singleton.mp hq
      exact hnew hp

theorem Keyed.add {r r' : References} {w : Workspace} {path : String} (hr : r.Keyed)
    (hcwd : ∀ c ∈ w.cwd, Path.IsComponent c) (h : r.add w path = .ok r') : r'.Keyed := by
  rw [References.add] at h
  cases htext : w.read (key w.cwd path) with
  | error why => rw [htext] at h; cases h
  | ok text =>
      rw [htext] at h
      cases h
      have hkey : Path.ofString (key w.cwd path).text = key w.cwd path :=
        Path.ofString_text_absolute (Path.isComponent_of_mem_locate hcwd path)
      refine ⟨nodup_map_path_insert hr.distinct, fun f hf => ?_⟩
      rcases mem_insert hf with rfl | hmem
      · exact congrArg (ContextFile.ofPath · text .reference) hkey.symm
      · exact hr.made f hmem

theorem Keyed.remove {r : References} {cwd : List String} {path : String} (hr : r.Keyed) :
    (r.remove cwd path).Keyed where
  distinct := hr.distinct.sublist (List.filter_sublist.map _)
  made f hf := hr.made f (List.mem_filter.mp hf).1

theorem Keyed.find?_eq_some_iff {r : References} (hr : r.Keyed) {path : String} {f : ContextFile} :
    r.files.find? (·.path = path) = some f ↔ f ∈ r.files ∧ f.path = path := by
  constructor
  · intro h
    exact ⟨List.mem_of_find?_eq_some h, by simpa using List.find?_some h⟩
  · rintro ⟨hf, rfl⟩
    cases hfind : r.files.find? (·.path = f.path) with
    | none => exact absurd (decide_eq_true rfl) (List.find?_eq_none.mp hfind f hf)
    | some g =>
        have hpath : g.path = f.path := by simpa using List.find?_some hfind
        rw [List.inj_on_of_nodup_map hr.distinct (List.mem_of_find?_eq_some hfind) hf hpath]

theorem Keyed.textAt?_eq_some_iff {r : References} (hr : r.Keyed) {path text : String} :
    r.textAt? path = some text ↔ ∃ f ∈ r.files, f.path = path ∧ f.content = text := by
  simp only [textAt?, Option.map_eq_some_iff, hr.find?_eq_some_iff, and_assoc]

/-- References with the same texts by path are the same files in some order. -/
theorem Keyed.perm {r r' : References} (hr : r.Keyed) (hr' : r'.Keyed)
    (h : ∀ path, r.textAt? path = r'.textAt? path) : r.files.Perm r'.files := by
  have hsub {a b : References} (ha : a.Keyed) (hb : b.Keyed)
      (hab : ∀ path, a.textAt? path = b.textAt? path) : ∀ f ∈ a.files, f ∈ b.files := by
    intro f hf
    have htext := hab f.path
    rw [ha.textAt?_eq_some_iff.mpr ⟨f, hf, rfl, rfl⟩, eq_comm, hb.textAt?_eq_some_iff] at htext
    obtain ⟨g, hg, hpath, hcontent⟩ := htext
    have hfg : f = g := by rw [ha.made f hf, hb.made g hg, hpath, hcontent]
    exact hfg ▸ hg
  rw [List.perm_ext_iff_of_nodup hr.distinct.of_map hr'.distinct.of_map]
  intro f
  exact ⟨hsub hr hr' h f, hsub hr' hr (fun path => (h path).symm) f⟩

end References

namespace Session

/-- The session that a run of calls leads to from a start. -/
def run (settings : Settings.Live String) (calls : List Call) : Session :=
  calls.foldl after (start settings)

/-- The folder from which a call reads the path of a reference is named by components. -/
def Call.Placed : Call → Prop
  | .addReference w _ => ∀ c ∈ w.cwd, Path.IsComponent c
  | _ => True

theorem references_refresh {s t : Session} {w : Workspace} {notices : List Notice}
    (h : s.refresh w = .ok (t, notices)) : t.references = s.references := by
  rw [refresh] at h
  cases hc : Collection.collect w s.context.extensions s.context.excludePatterns
      s.context.maxFiles s.context.maxFileLength with
  | error why => rw [hc] at h; cases h
  | ok found =>
      rw [hc] at h
      cases h
      rfl

theorem references_saved {s t : Session} {w : Workspace} {path : String} {r : Bool × List Notice}
    (h : s.saved w path = .ok (t, r)) : t.references = s.references := by
  rw [saved] at h
  split at h
  · cases hr : s.refresh w with
    | error why => rw [hr] at h; cases h
    | ok found =>
        rw [hr] at h
        cases h
        exact references_refresh hr
  · cases h
    rfl

theorem references_update {s t : Session} {changes : List (String × Json.Value)}
    {told : List (String × Settings.Context)} (h : s.update changes = .ok (t, told)) :
    t.references = s.references := by
  rw [update] at h
  cases hu : s.settings.update changes with
  | error why => rw [hu] at h; cases h
  | ok r =>
      rw [hu] at h
      cases h
      rfl

/-- One call keeps references keyed. -/
theorem keyed_after {s : Session} (hs : s.references.Keyed) {c : Call} (hc : c.Placed) :
    (s.after c).references.Keyed := by
  cases c with
  | refresh w =>
      rw [after]
      split
      · next h => exact (references_refresh h).symm ▸ hs
      · exact hs
  | saved w path =>
      rw [after]
      split
      · next h => exact (references_saved h).symm ▸ hs
      · exact hs
  | addReference w path =>
      rw [after, addReference]
      split
      · next r hr => exact hs.add hc hr
      · exact hs
  | removeReference cwd path =>
      rw [after, removeReference]
      split
      · exact hs.remove
      · exact hs
  | clearReferences => exact ⟨List.nodup_nil, List.forall_mem_nil _⟩
  | update changes =>
      rw [after]
      split
      · next h => exact (references_update h).symm ▸ hs
      · exact hs
  | clearSources => exact hs
  | subscribe listener => exact hs
  | unsubscribe listener => exact hs
  | close => exact hs

/-- A run of calls leads to keyed references. -/
theorem keyed_run {settings : Settings.Live String} {calls : List Call}
    (h : ∀ c ∈ calls, c.Placed) : (run settings calls).references.Keyed := by
  suffices hfrom : ∀ s : Session, s.references.Keyed →
      (calls.foldl after s).references.Keyed from
    hfrom (start settings) ⟨List.nodup_nil, List.forall_mem_nil _⟩
  induction calls with
  | nil => exact fun s hs => hs
  | cons c calls ih =>
      intro s hs
      exact ih (fun d hd => h d (List.mem_cons_of_mem _ hd)) (s.after c)
        (keyed_after hs (h c List.mem_cons_self))

/-- What a prompt is made of: the settings, and the files in packing order. -/
theorem assemble_congr {s t : Session} (hcontext : s.context = t.context)
    (hlength : s.files.length = t.files.length)
    (hrank : Priority.rank s.files = Priority.rank t.files) (question : String) :
    s.assemble question = t.assemble question := by
  have hpacked : s.packed question = t.packed question := by
    rw [packed_eq, packed_eq, hrank, hcontext, hlength]
  rw [assemble, assemble, hpacked, hcontext]

/-- Two runs that end with the same settings, the same source files and the same text for each
reference path give the same prompt around every question. Their reference files are the same in
an order of their own. -/
theorem assemble_eq_of_same_texts {settings settings' : Settings.Live String}
    {calls calls' : List Call} (hplaced : ∀ c ∈ calls, c.Placed)
    (hplaced' : ∀ c ∈ calls', c.Placed)
    (hcontext : (run settings calls).context = (run settings' calls').context)
    (hsources : (run settings calls).sources = (run settings' calls').sources)
    (hreferences : ∀ path, (run settings calls).references.textAt? path =
      (run settings' calls').references.textAt? path) :
    (∀ question, (run settings calls).assemble question =
      (run settings' calls').assemble question) ∧
    (run settings calls).references.files.Perm (run settings' calls').references.files := by
  have hkeyed : (run settings calls).references.Keyed := keyed_run hplaced
  have hperm := hkeyed.perm (keyed_run hplaced') hreferences
  refine ⟨fun question => assemble_congr hcontext ?_ ?_ question, hperm⟩
  · rw [files, files, List.length_append, List.length_append, hperm.length_eq, hsources]
  · rw [files, files, hsources]
    exact Priority.rank_append_perm hperm hkeyed.distinct _

/-- A file that is both a source and a reference, and two references of equal score, added in one
order and in the other with a detour. -/
theorem assemble_eq_of_same_texts_detour :
    let w : Workspace :=
      ⟨some (.absolute ["p"]), ["p"], fun _ _ _ => .ok [.absolute ["p", "b.py"]],
        fun p => .ok p.name⟩
    let settings : Settings.Live String := ⟨Settings.defaultContext, []⟩
    let s := run settings [.refresh w, .addReference w "a.py", .addReference w "b.py"]
    let t := run settings [.addReference w "b.py", .addReference w "c.py", .addReference w "../p/a.py",
      .refresh w, .removeReference ["p"] "/p/c.py", .addReference w "/p/b.py"]
    s.references.files ≠ t.references.files ∧
    ∀ question, s.assemble question = t.assemble question := by
  intro w settings s t
  have hcwd : ∀ c ∈ w.cwd, Path.IsComponent c := by decide
  have hfiles : s.references.files = [⟨"/p/a.py", "a.py", "a.py", .reference, false⟩,
      ⟨"/p/b.py", "b.py", "b.py", .reference, false⟩] := by decide +kernel
  have hfiles' : t.references.files = [⟨"/p/b.py", "b.py", "b.py", .reference, false⟩,
      ⟨"/p/a.py", "a.py", "a.py", .reference, false⟩] := by decide +kernel
  have hcontext : s.context = t.context := by decide +kernel
  have hsources : s.sources = t.sources := by decide +kernel
  have hplaced : ∀ c ∈ [Call.refresh w, .addReference w "a.py", .addReference w "b.py"],
      c.Placed := by
    simpa [Call.Placed] using hcwd
  have hplaced' : ∀ c ∈ [Call.addReference w "b.py", .addReference w "c.py",
      .addReference w "../p/a.py", .refresh w, .removeReference ["p"] "/p/c.py",
      .addReference w "/p/b.py"], c.Placed := by
    simpa [Call.Placed] using hcwd
  have htexts : ∀ path, s.references.textAt? path = t.references.textAt? path := by
    intro path
    rw [References.textAt?, References.textAt?, hfiles, hfiles']
    by_cases ha : "/p/a.py" = path
    · subst ha
      rfl
    · by_cases hb : "/p/b.py" = path
      · subst hb
        rfl
      · simp [ha, hb]
  refine ⟨?_, (assemble_eq_of_same_texts hplaced hplaced' hcontext hsources htexts).1⟩
  rw [hfiles, hfiles']
  decide

end Session
end CodeBrief
