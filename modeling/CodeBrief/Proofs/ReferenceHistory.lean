import Mathlib.Data.List.DropRight
import CodeBrief.Proofs.Place
import CodeBrief.Proofs.ReferenceOrder

/-!
# References are what their history says

A store of references is changed in place: a file added again takes the place of
the one with its path, and a file removed leaves no trace. What it holds is still
a matter of the calls alone. For a path only the calls since its last removal
count. The last of them that added a file there says what the store holds for the
path, and the first one says where it stands.

`listed` reads the files off a history in this way, without a store, and
`run_files` says that a store agrees with it after every run of calls. The
induction goes by the last call of a run: each of the three answers that a history
gives for a path (`since`, `last?`, `first?`) is known after one more call, and so
is the list.
-/

namespace CodeBrief.References

/-! ## Calls and runs -/

/-- A call on a store of references, with what it sees of the workspace. -/
inductive Call where
  | add (w : Workspace) (path : String)
  | remove (cwd : List String) (path : String)
  | clear
  | has (cwd : List String) (path : String)

/-- The store after a call, and the answer of a call that has one. -/
def perform (r : References) : Call → References × Option Bool
  | .add w path =>
      match r.add w path with
      | .ok r' => (r', some true)
      | .error _ => (r, some false)
  | .remove cwd path =>
      if r.contains (key cwd path).text then (r.remove cwd path, some true) else (r, some false)
  | .clear => ({}, none)
  | .has cwd path => (r, some (r.contains (key cwd path).text))

/-- The store that a run of calls leads to. -/
def run (calls : List Call) : References :=
  calls.foldl (fun r c => (r.perform c).1) {}

/-! ## What a history says -/

namespace Call

/-- The file that a call reads and adds. -/
def added? : Call → Option ContextFile
  | .add w path =>
      match w.read (key w.cwd path) with
      | .ok text => some (.ofPath (key w.cwd path) text .reference)
      | .error _ => none
  | _ => none

/-- The file that a call adds at a path. -/
def addedAt? (path : String) (c : Call) : Option ContextFile :=
  c.added?.filter (·.path = path)

/-- Whether a call takes away what is at a path. -/
def removes (path : String) : Call → Bool
  | .remove cwd spelled => (key cwd spelled).text = path
  | .clear => true
  | _ => false

end Call

/-- The calls since the last one that took away what was at a path. -/
def since (path : String) (calls : List Call) : List Call :=
  calls.rtakeWhile fun c => !c.removes path

/-- The last file added at a path since it was removed. -/
def last? (path : String) (calls : List Call) : Option ContextFile :=
  ((since path calls).filterMap (Call.addedAt? path)).getLast?

/-- The position of the first call that added a file at a path since it was removed. -/
def first? (path : String) (calls : List Call) : Option Nat :=
  ((since path calls).findIdx? fun c => (c.addedAt? path).isSome).map
    (calls.length - (since path calls).length + ·)

/-- What a history lists for a file that was added at a position: the last one added at its path,
if nothing was added there before. -/
def listedAt? (calls : List Call) (i : Nat) (f : ContextFile) : Option ContextFile :=
  if first? f.path calls = some i then last? f.path calls else none

/-- The files of a history, each at the position of its first addition and as it was last added. -/
def listed (calls : List Call) : List ContextFile :=
  (List.range calls.length).filterMap fun i =>
    (calls[i]?.bind Call.added?).bind (listedAt? calls i)

/-! ## One more call -/

variable {calls : List Call} {c : Call} {path : String}

theorem Call.addedAt?_eq_some_iff {f : ContextFile} :
    c.addedAt? path = some f ↔ c.added? = some f ∧ f.path = path := by
  simp [addedAt?, Option.filter_eq_some_iff]

theorem since_concat (path : String) (calls : List Call) (c : Call) :
    since path (calls ++ [c]) = if c.removes path then [] else since path calls ++ [c] := by
  rw [since, List.rtakeWhile_concat]
  cases c.removes path <;> rfl

theorem length_since_le (path : String) (calls : List Call) :
    (since path calls).length ≤ calls.length :=
  (List.rtakeWhile_suffix _ _).length_le

theorem last?_concat (path : String) (calls : List Call) (c : Call) :
    last? path (calls ++ [c]) =
      if c.removes path then none else (c.addedAt? path).or (last? path calls) := by
  rw [last?, since_concat]
  split
  · rfl
  · rw [List.filterMap_append, List.getLast?_append]
    cases h : c.addedAt? path with
    | none => simp [h, last?]
    | some f => simp [h]

theorem first?_concat (path : String) (calls : List Call) (c : Call) :
    first? path (calls ++ [c]) =
      if c.removes path then none
      else (first? path calls).or (if (c.addedAt? path).isSome then some calls.length else none) := by
  have hle := length_since_le path calls
  rw [first?, since_concat]
  split
  · rfl
  · have hlength : (calls ++ [c]).length - (since path calls ++ [c]).length =
        calls.length - (since path calls).length := by
      simp
    rw [hlength, List.findIdx?_append, first?]
    cases (since path calls).findIdx? fun c => (c.addedAt? path).isSome with
    | some i => rfl
    | none =>
        cases h : c.addedAt? path with
        | none => simp [h]
        | some f =>
            simp [h]
            omega

theorem isSome_first? (path : String) (calls : List Call) :
    (first? path calls).isSome = (last? path calls).isSome := by
  induction calls using List.reverseRecOn with
  | nil => rfl
  | append_singleton calls c ih =>
      rw [first?_concat, last?_concat]
      split
      · rfl
      · cases c.addedAt? path <;> simp [ih]

/-- A file was added at the position of the first addition. -/
theorem added?_of_first? {i : Nat} (h : first? path calls = some i) :
    ∃ f, calls[i]?.bind Call.added? = some f ∧ f.path = path := by
  induction calls using List.reverseRecOn generalizing i with
  | nil => cases h
  | append_singleton calls c ih =>
      rw [first?_concat] at h
      split at h
      · cases h
      · cases hfirst : first? path calls with
        | some j =>
            rw [hfirst] at h
            cases h
            obtain ⟨f, hf, hpath⟩ := ih hfirst
            obtain ⟨d, hd, hadd⟩ := Option.bind_eq_some_iff.mp hf
            have hlt : i < calls.length := (List.getElem?_eq_some_iff.mp hd).1
            exact ⟨f, by rwa [List.getElem?_append_left hlt], hpath⟩
        | none =>
            rw [hfirst, Option.none_or] at h
            split at h
            · next hadd =>
                cases h
                obtain ⟨f, hf⟩ := Option.isSome_iff_exists.mp hadd
                obtain ⟨hf, hpath⟩ := Call.addedAt?_eq_some_iff.mp hf
                exact ⟨f, by simpa using hf, hpath⟩
            · cases h

theorem lt_of_first? {i : Nat} (h : first? path calls = some i) : i < calls.length := by
  obtain ⟨f, hf, _⟩ := added?_of_first? h
  obtain ⟨d, hd, _⟩ := Option.bind_eq_some_iff.mp hf
  exact (List.getElem?_eq_some_iff.mp hd).1

theorem path_of_last? {f : ContextFile} (h : last? path calls = some f) : f.path = path := by
  rw [last?] at h
  obtain ⟨c, _, hc⟩ := List.mem_filterMap.mp (List.mem_of_getLast? h)
  exact (Call.addedAt?_eq_some_iff.mp hc).2

theorem path_of_listedAt? {i : Nat} {f g : ContextFile} (h : listedAt? calls i f = some g) :
    g.path = f.path := by
  rw [listedAt?] at h
  split at h
  · exact path_of_last? h
  · cases h

/-- A file is listed exactly if it is the last one that was added at its path. -/
theorem mem_listed {f : ContextFile} : f ∈ listed calls ↔ last? f.path calls = some f := by
  rw [listed, List.mem_filterMap]
  constructor
  · rintro ⟨i, _, h⟩
    obtain ⟨g, hg, hlisted⟩ := Option.bind_eq_some_iff.mp h
    have hpath := path_of_listedAt? hlisted
    rw [listedAt?] at hlisted
    split at hlisted
    · rw [hpath]
      exact hlisted
    · cases hlisted
  · intro h
    have hsome : (first? f.path calls).isSome = true := by
      rw [isSome_first?, h]
      rfl
    obtain ⟨i, hi⟩ := Option.isSome_iff_exists.mp hsome
    obtain ⟨g, hg, hpath⟩ := added?_of_first? hi
    refine ⟨i, List.mem_range.mpr (lt_of_first? hi), ?_⟩
    rw [hg, Option.bind_some, listedAt?, hpath, if_pos hi, h]

theorem path_mem_listed : path ∈ (listed calls).map (·.path) ↔ (last? path calls).isSome = true := by
  rw [List.mem_map, Option.isSome_iff_exists]
  constructor
  · rintro ⟨f, hf, rfl⟩
    exact ⟨f, mem_listed.mp hf⟩
  · rintro ⟨f, hf⟩
    have hpath := path_of_last? hf
    refine ⟨f, mem_listed.mpr ?_, hpath⟩
    rw [hpath, hf]

/-! ## The list after one more call -/

theorem listed_concat (calls : List Call) (c : Call) :
    listed (calls ++ [c]) =
      ((List.range calls.length).filterMap fun i =>
        (calls[i]?.bind Call.added?).bind (listedAt? (calls ++ [c]) i)) ++
      (c.added?.bind (listedAt? (calls ++ [c]) calls.length)).toList := by
  have hrange : List.range (calls ++ [c]).length = List.range calls.length ++ [calls.length] := by
    rw [List.length_append, List.length_singleton, List.range_succ]
  have hlast : (calls ++ [c])[calls.length]? = some c := by simp
  rw [listed, hrange, List.filterMap_append]
  congr 1
  · refine List.filterMap_congr fun i hi => ?_
    rw [List.getElem?_append_left (List.mem_range.mp hi)]
  · rw [List.filterMap_cons, List.filterMap_nil, hlast, Option.bind_some]
    cases c.added?.bind (listedAt? (calls ++ [c]) calls.length) <;> rfl

/-- A call that adds nothing leaves the files that it does not remove. -/
theorem listed_concat_of_added?_eq_none (hadd : c.added? = none) :
    listed (calls ++ [c]) = (listed calls).filter fun f => !c.removes f.path := by
  have hnone (path : String) : c.addedAt? path = none := by
    rw [Call.addedAt?, hadd]
    rfl
  rw [listed_concat, hadd, Option.bind_none, Option.toList_none, List.append_nil, listed,
    List.filter_filterMap]
  refine List.filterMap_congr fun i _ => ?_
  cases calls[i]?.bind Call.added? with
  | none => rfl
  | some f =>
      rw [Option.bind_some, Option.bind_some, listedAt?, first?_concat, last?_concat, hnone]
      cases hremoves : c.removes f.path with
      | true =>
          cases hlisted : listedAt? calls i f with
          | none => rfl
          | some g => simp [Option.filter, path_of_listedAt? hlisted, hremoves]
      | false =>
          have hor : (first? f.path calls).or none = first? f.path calls := Option.or_none
          simp only [Bool.false_eq_true, if_false, Option.isSome_none, Option.none_or, hor]
          show listedAt? calls i f = _
          cases hlisted : listedAt? calls i f with
          | none => rfl
          | some g => simp [Option.filter, path_of_listedAt? hlisted, hremoves]

theorem removes_of_added? {f : ContextFile} (hadd : c.added? = some f) (path : String) :
    c.removes path = false := by
  cases c with
  | add w spelled => rfl
  | _ => cases hadd

theorem first?_concat_of_added? {f : ContextFile} (hadd : c.added? = some f) :
    first? f.path (calls ++ [c]) = (first? f.path calls).or (some calls.length) := by
  have hhere : c.addedAt? f.path = some f := Call.addedAt?_eq_some_iff.mpr ⟨hadd, rfl⟩
  rw [first?_concat, removes_of_added? hadd, hhere]
  rfl

theorem last?_concat_of_added? {f : ContextFile} (hadd : c.added? = some f) :
    last? f.path (calls ++ [c]) = some f := by
  have hhere : c.addedAt? f.path = some f := Call.addedAt?_eq_some_iff.mpr ⟨hadd, rfl⟩
  rw [last?_concat, removes_of_added? hadd, hhere]
  rfl

/-- What was listed is listed still, but for what is now added at its path. -/
theorem listedAt?_concat_of_added? {f g : ContextFile} {i : Nat} (hadd : c.added? = some f)
    (hi : i < calls.length) :
    listedAt? (calls ++ [c]) i g =
      (listedAt? calls i g).map fun h => if h.path = f.path then f else h := by
  -- at the path of the new file the positions stay and the content is new, elsewhere nothing is
  by_cases hpath : g.path = f.path
  · rw [listedAt?, listedAt?, hpath, first?_concat_of_added? hadd, last?_concat_of_added? hadd]
    cases hfirst : first? f.path calls with
    | none =>
        have hne : some calls.length ≠ some i := by
          intro h
          cases h
          omega
        rw [Option.none_or, if_neg hne, if_neg nofun]
        rfl
    | some j =>
        have hsome : (last? f.path calls).isSome = true := by
          rw [← isSome_first?, hfirst]
          rfl
        obtain ⟨h, hh⟩ := Option.isSome_iff_exists.mp hsome
        rw [Option.some_or, hh]
        split
        · show some f = some (if h.path = f.path then f else h)
          rw [if_pos (path_of_last? hh)]
        · rfl
  · have hnone : c.addedAt? g.path = none := by
      rw [Call.addedAt?, hadd]
      simp [Option.filter, Ne.symm hpath]
    have hsame : listedAt? (calls ++ [c]) i g = listedAt? calls i g := by
      rw [listedAt?, first?_concat, last?_concat, removes_of_added? hadd, hnone, listedAt?]
      simp
    rw [hsame]
    cases hlisted : listedAt? calls i g with
    | none => rfl
    | some h =>
        show some h = some (if h.path = f.path then f else h)
        rw [if_neg (path_of_listedAt? hlisted ▸ hpath)]

/-- A call that adds a file puts it where its path was first added, at the end if that is now. -/
theorem listed_concat_of_added? {f : ContextFile} (hadd : c.added? = some f) :
    listed (calls ++ [c]) =
      ((listed calls).map fun g => if g.path = f.path then f else g) ++
        if (last? f.path calls).isSome then [] else [f] := by
  rw [listed_concat]
  congr 1
  · rw [listed, List.map_filterMap]
    refine List.filterMap_congr fun i hi => ?_
    cases calls[i]?.bind Call.added? with
    | none => rfl
    | some g => exact listedAt?_concat_of_added? hadd (List.mem_range.mp hi)
  · rw [hadd, Option.bind_some, listedAt?, first?_concat_of_added? hadd,
      last?_concat_of_added? hadd, ← isSome_first?]
    cases hfirst : first? f.path calls with
    | none => simp
    | some j =>
        have hlt : j < calls.length := lt_of_first? hfirst
        have hne : j ≠ calls.length := by omega
        simp [hne]

/-! ## The store after one more call -/

theorem map_replace_of_notMem {f : ContextFile} {files : List ContextFile}
    (h : f.path ∉ files.map (·.path)) :
    files.map (fun g => if g.path = f.path then f else g) = files := by
  conv_rhs => rw [← List.map_id files]
  refine List.map_congr_left fun g hg => if_neg ?_
  intro hpath
  exact h (List.mem_map.mpr ⟨g, hg, hpath⟩)

theorem insert_eq {f : ContextFile} {files : List ContextFile} (h : (files.map (·.path)).Nodup) :
    insert f files =
      (files.map fun g => if g.path = f.path then f else g) ++
        if f.path ∈ files.map (·.path) then [] else [f] := by
  induction files with
  | nil => rfl
  | cons g rest ih =>
      rw [List.map_cons, List.nodup_cons] at h
      rw [insert]
      by_cases hpath : g.path = f.path
      · have hrest : rest.map (fun x => if x.path = f.path then f else x) = rest :=
          map_replace_of_notMem (hpath ▸ h.1)
        have hmem : f.path ∈ (g :: rest).map (·.path) := List.mem_map.mpr ⟨g, List.mem_cons_self, hpath⟩
        rw [if_pos hpath, if_pos hmem, List.map_cons, if_pos hpath, hrest, List.append_nil]
      · have hmem : f.path ∈ (g :: rest).map (·.path) ↔ f.path ∈ rest.map (·.path) := by
          rw [List.map_cons, List.mem_cons]
          exact or_iff_right (Ne.symm hpath)
        rw [if_neg hpath, ih h.2, List.map_cons, if_neg hpath, List.cons_append]
        simp only [hmem]

theorem contains_iff {r : References} {path : String} :
    r.contains path = true ↔ ∃ f ∈ r.files, f.path = path := by
  simp [contains]

theorem filter_of_contains_eq_false {r : References} {path : String} (h : r.contains path = false) :
    r.files.filter (·.path ≠ path) = r.files := by
  rw [List.filter_eq_self]
  intro f hf
  rw [contains, List.any_eq_false] at h
  simpa using h f hf

/-- The files after a call that adds none, and after one that adds a file. -/
theorem files_perform (r : References) (c : Call) :
    (r.perform c).1.files =
      match c.added? with
      | some f => insert f r.files
      | none => r.files.filter fun f => !c.removes f.path := by
  cases c with
  | add w path =>
      rw [perform, add, Call.added?]
      cases w.read (key w.cwd path) with
      | error why => simp [Except.map, Call.removes]
      | ok text => rfl
  | remove cwd path =>
      have hfilter : r.files.filter (fun f => !(Call.remove cwd path).removes f.path) =
          r.files.filter (·.path ≠ (key cwd path).text) := by
        refine List.filter_congr fun f _ => ?_
        simp [Call.removes, eq_comm]
      rw [perform]
      show _ = r.files.filter _
      rw [hfilter]
      split
      · rfl
      · next h => exact (filter_of_contains_eq_false (Bool.eq_false_iff.mpr h)).symm
  | clear => simp [perform, Call.added?, Call.removes]
  | has cwd path => simp [perform, Call.added?, Call.removes]

theorem run_concat (calls : List Call) (c : Call) : run (calls ++ [c]) = ((run calls).perform c).1 := by
  rw [run, List.foldl_append]
  rfl

theorem nodup_run (calls : List Call) : ((run calls).files.map (·.path)).Nodup := by
  induction calls using List.reverseRecOn with
  | nil => exact List.nodup_nil
  | append_singleton calls c ih =>
      rw [run_concat, files_perform]
      split
      · exact nodup_map_path_insert ih
      · exact ih.sublist (List.filter_sublist.map _)

/-- A store holds the files of its history. -/
theorem files_run (calls : List Call) : (run calls).files = listed calls := by
  induction calls using List.reverseRecOn with
  | nil => rfl
  | append_singleton calls c ih =>
      rw [run_concat, files_perform]
      cases hadd : c.added? with
      | none => rw [listed_concat_of_added?_eq_none hadd, ih]
      | some f =>
          have hnodup := nodup_run calls
          rw [ih] at hnodup
          simp only [ih, insert_eq hnodup, listed_concat_of_added? hadd, path_mem_listed]

/-- A path is in a store exactly if its history has an addition there since it was removed. -/
theorem contains_run (calls : List Call) (path : String) :
    (run calls).contains path = (last? path calls).isSome := by
  have hmem := @path_mem_listed calls path
  rw [Bool.eq_iff_iff, contains_iff, ← hmem, files_run, List.mem_map]

/-- Every file of a store was added by a call of its run. -/
theorem exists_added?_of_mem_run {f : ContextFile} (h : f ∈ (run calls).files) :
    ∃ c ∈ calls, c.added? = some f := by
  rw [files_run, mem_listed, last?] at h
  obtain ⟨c, hc, hadd⟩ := List.mem_filterMap.mp (List.mem_of_getLast? h)
  exact ⟨c, (List.rtakeWhile_suffix _ _).subset hc, (Call.addedAt?_eq_some_iff.mp hadd).1⟩

theorem key_respelled {cwd : List String} (hcwd : Path.IsPlace cwd) {p q : String}
    (h : Path.Respelled cwd p q) : key cwd p = key cwd q := by
  rw [key, key, Path.resolve, Path.resolve, Path.locate_respelled hcwd h]

/-- Whatever run of calls a store has been through, it holds what its history lists, one file for
each path. Adding a file again puts it in place of the old one, and adding one that cannot be read
changes nothing; removing and asking answer by what is held; and no call tells two spellings of a
path apart. -/
theorem run_holds_listed (calls : List Call) :
    let r := run calls
    r.files = listed calls ∧ (r.files.map (·.path)).Nodup ∧
    (∀ (w : Workspace) (path text : String), w.read (key w.cwd path) = .ok text →
      let f := ContextFile.ofPath (key w.cwd path) text .reference
      r.perform (.add w path) =
        (⟨if f.path ∈ r.files.map (·.path) then r.files.map fun g => if g.path = f.path then f else g
          else r.files ++ [f]⟩, some true)) ∧
    (∀ (w : Workspace) (path : String) (why : FileTree.Trouble),
      w.read (key w.cwd path) = .error why → r.perform (.add w path) = (r, some false)) ∧
    (∀ (cwd : List String) (path : String),
      r.perform (.remove cwd path) =
        (⟨r.files.filter (·.path ≠ (key cwd path).text)⟩,
          some (last? (key cwd path).text calls).isSome)) ∧
    (∀ (cwd : List String) (path : String),
      r.perform (.has cwd path) = (r, some (last? (key cwd path).text calls).isSome) ∧
      ((last? (key cwd path).text calls).isSome = true ↔
        ∃ f ∈ r.files, f.path = (key cwd path).text)) ∧
    ∀ (w : Workspace) (p q : String), Path.IsPlace w.cwd → Path.Respelled w.cwd p q →
      ∀ store : References, store.perform (.add w p) = store.perform (.add w q) ∧
        store.perform (.remove w.cwd p) = store.perform (.remove w.cwd q) ∧
        store.perform (.has w.cwd p) = store.perform (.has w.cwd q) := by
  intro r
  have hnodup : (r.files.map (·.path)).Nodup := nodup_run calls
  refine ⟨files_run calls, hnodup, ?_, ?_, ?_, ?_, ?_⟩
  · intro w path text htext f
    have hadd : r.add w path = .ok ⟨insert f r.files⟩ := by
      rw [add, htext]
      rfl
    rw [perform, hadd]
    show (References.mk (insert f r.files), some true) = _
    rw [insert_eq hnodup]
    split
    · rw [List.append_nil]
    · next hnew =>
        rw [map_replace_of_notMem hnew]
  · intro w path why htrouble
    have hadd : r.add w path = .error why := by
      rw [add, htrouble]
      rfl
    rw [perform, hadd]
  · intro cwd path
    have hcontains : r.contains (key cwd path).text = _ := contains_run calls (key cwd path).text
    rw [perform, ← hcontains]
    split
    · next h =>
        rw [h]
        rfl
    · next h =>
        have habsent := Bool.eq_false_iff.mpr h
        rw [filter_of_contains_eq_false habsent, habsent]
  · intro cwd path
    have hcontains : r.contains (key cwd path).text = _ := contains_run calls (key cwd path).text
    rw [perform, ← hcontains]
    exact ⟨rfl, contains_iff⟩
  · intro w p q hcwd h store
    have hkey : key w.cwd p = key w.cwd q := key_respelled hcwd h
    simp only [perform, add, remove, hkey, and_self]

/-- A file that changes and is added again under another spelling, one that is removed and comes
back last, and one that vanishes before it is added again. -/
example :
    let w (text : String) : Workspace := ⟨none, ["p"], fun _ _ _ => .ok [], fun _ => .ok text⟩
    let gone : Workspace := ⟨none, ["p"], fun _ _ _ => .ok [], fun _ => .error .missing⟩
    (run [.add (w "1") "a", .add (w "2") "b", .add (w "3") "c", .add (w "4") "x/..//./c",
        .remove ["p"] "/p/a", .add (w "5") "a", .add gone "../p/b"]).files.map
      (fun f => (f.path, f.content)) = [("/p/b", "2"), ("/p/c", "4"), ("/p/a", "5")] := by
  decide +kernel

end CodeBrief.References
