import CodeBrief.Session.Basic
import CodeBrief.Proofs.Settings

/-!
# The states a session can reach

A session is changed by calls, one after another, and the workspace may be
another one at each of them, so a call brings along what it needs of it. A call
that fails leaves the session as it was. A reachable session is one that some
run of calls leads to from a start with valid settings and any listeners.

Two facts hold in all of them, because each call keeps them: the settings in use
are valid, since an update that is not is refused, and no file is marked as cut,
since both stores make their files anew from a path and a text and packing only
ever cuts copies.
-/

namespace CodeBrief

namespace Session

/-- A call that may change a session, with what it sees of the workspace. -/
inductive Call where
  | refresh (w : Workspace)
  | saved (w : Workspace) (path : String)
  | clearSources
  | addReference (w : Workspace) (path : String)
  | removeReference (cwd : List String) (path : String)
  | clearReferences
  | update (changes : List (String × Json.Value))
  | subscribe (listener : String)
  | unsubscribe (listener : String)
  | close

/-- The session after a call. -/
def after (s : Session) : Call → Session
  | .refresh w =>
      match s.refresh w with
      | .ok (t, _) => t
      | .error _ => s
  | .saved w path =>
      match s.saved w path with
      | .ok (t, _) => t
      | .error _ => s
  | .clearSources => s.clearSources
  | .addReference w path => (s.addReference w path).1
  | .removeReference cwd path => (s.removeReference cwd path).1
  | .clearReferences => s.clearReferences
  | .update changes =>
      match s.update changes with
      | .ok (t, _) => t
      | .error _ => s
  | .subscribe listener => { s with settings := s.settings.subscribe listener }
  | .unsubscribe listener => { s with settings := s.settings.unsubscribe listener }
  | .close => s.close

/-- The sessions that a run of calls leads to. -/
inductive Reachable : Session → Prop where
  | start {settings : Settings.Live String} (h : settings.context.Valid) :
      Reachable (start settings)
  | call {s : Session} (c : Call) (h : Reachable s) : Reachable (s.after c)

/-- What every call keeps. -/
structure Sound (s : Session) : Prop where
  valid : s.context.Valid
  wholeSources : ∀ f ∈ s.sources, f.truncated = false
  wholeReferences : ∀ f ∈ s.references.files, f.truncated = false

end Session

/-! ## The two stores -/

theorem Collection.fileOf_whole {w : Workspace} {limit : Int} {path : Path} {f : ContextFile}
    (h : (fileOf w limit path).1 = some f) : f.truncated = false := by
  rw [fileOf] at h
  split at h
  · cases h
  · cases h
    rfl

/-- A search that fails without a failure of its own gives no files, so nothing cut either. -/
theorem Collection.collect_whole {w : Workspace} {extensions exclude : List Text.Wide}
    {maxFiles maxLength : Int} {found : List ContextFile} {notices : List Notice}
    (h : collect w extensions exclude maxFiles maxLength = .ok (found, notices)) :
    ∀ f ∈ found, f.truncated = false := by
  rw [collect] at h
  split at h
  · cases h
    exact List.forall_mem_nil _
  · split at h
    · cases h
    · cases h
      exact List.forall_mem_nil _
    · cases h
      intro f hf
      obtain ⟨r, hr, hsome⟩ := List.mem_filterMap.mp hf
      obtain ⟨path, _, rfl⟩ := List.mem_map.mp hr
      exact fileOf_whole hsome

theorem References.mem_insert {f g : ContextFile} {files : List ContextFile}
    (h : g ∈ insert f files) : g = f ∨ g ∈ files := by
  induction files with
  | nil => exact Or.inl (List.mem_singleton.mp h)
  | cons x xs ih =>
      rw [insert] at h
      split at h
      · rcases List.mem_cons.mp h with hg | hg
        · exact Or.inl hg
        · exact Or.inr (List.mem_cons_of_mem _ hg)
      · rcases List.mem_cons.mp h with hg | hg
        · exact Or.inr (List.mem_cons.mpr (Or.inl hg))
        · exact (ih hg).imp id (List.mem_cons_of_mem _)

theorem References.add_whole {r r' : References} {w : Workspace} {path : String}
    (hr : ∀ f ∈ r.files, f.truncated = false) (h : r.add w path = .ok r') :
    ∀ f ∈ r'.files, f.truncated = false := by
  rw [add] at h
  cases htext : w.read (key w.cwd path) with
  | error why => rw [htext] at h; cases h
  | ok text =>
      rw [htext] at h
      cases h
      intro f hf
      rcases mem_insert hf with rfl | hmem
      · rfl
      · exact hr f hmem

/-! ## The step and the run -/

namespace Session

variable {s t : Session}

theorem Sound.refresh {w : Workspace} {notices : List Notice} (hs : s.Sound)
    (h : s.refresh w = .ok (t, notices)) : t.Sound := by
  rw [Session.refresh] at h
  cases hc : Collection.collect w s.context.extensions s.context.excludePatterns
      s.context.maxFiles s.context.maxFileLength with
  | error why => rw [hc] at h; cases h
  | ok found =>
      rw [hc] at h
      cases h
      exact ⟨hs.valid, Collection.collect_whole hc, hs.wholeReferences⟩

theorem Sound.saved {w : Workspace} {path : String} {r : Bool × List Notice} (hs : s.Sound)
    (h : s.saved w path = .ok (t, r)) : t.Sound := by
  rw [Session.saved] at h
  split at h
  · cases hr : s.refresh w with
    | error why => rw [hr] at h; cases h
    | ok found =>
        rw [hr] at h
        cases h
        exact hs.refresh hr
  · cases h
    exact hs

theorem Sound.addReference {w : Workspace} {path : String} (hs : s.Sound) :
    (s.addReference w path).1.Sound := by
  rw [Session.addReference]
  split
  · next r hr => exact ⟨hs.valid, hs.wholeSources, References.add_whole hs.wholeReferences hr⟩
  · exact hs

theorem Sound.removeReference {cwd : List String} {path : String} (hs : s.Sound) :
    (s.removeReference cwd path).1.Sound := by
  rw [Session.removeReference]
  split
  · exact ⟨hs.valid, hs.wholeSources,
      fun f hf => hs.wholeReferences f (List.mem_filter.mp hf).1⟩
  · exact hs

theorem Sound.update {changes : List (String × Json.Value)}
    {told : List (String × Settings.Context)} (hs : s.Sound)
    (h : s.update changes = .ok (t, told)) : t.Sound := by
  rw [Session.update] at h
  cases hu : s.settings.update changes with
  | error why => rw [hu] at h; cases h
  | ok r =>
      rw [hu] at h
      cases h
      exact ⟨Settings.Live.valid_of_update hu, hs.wholeSources, hs.wholeReferences⟩

/-- One call keeps a session sound. -/
theorem Sound.after (hs : s.Sound) (c : Call) : (s.after c).Sound := by
  cases c with
  | refresh w =>
      rw [Session.after]
      split
      · next h => exact hs.refresh h
      · exact hs
  | saved w path =>
      rw [Session.after]
      split
      · next h => exact hs.saved h
      · exact hs
  | clearSources => exact ⟨hs.valid, List.forall_mem_nil _, hs.wholeReferences⟩
  | addReference w path => exact hs.addReference
  | removeReference cwd path => exact hs.removeReference
  | clearReferences => exact ⟨hs.valid, hs.wholeSources, List.forall_mem_nil _⟩
  | update changes =>
      rw [Session.after]
      split
      · next h => exact hs.update h
      · exact hs
  | subscribe listener => exact ⟨hs.valid, hs.wholeSources, hs.wholeReferences⟩
  | unsubscribe listener => exact ⟨hs.valid, hs.wholeSources, hs.wholeReferences⟩
  | close => exact ⟨hs.valid, hs.wholeSources, hs.wholeReferences⟩

/-- Every session that a run of calls leads to is sound. -/
theorem Reachable.sound (h : s.Reachable) : s.Sound := by
  induction h with
  | start hv => exact ⟨hv, List.forall_mem_nil _, List.forall_mem_nil _⟩
  | call c _ ih => exact ih.after c

/-- No file of a reachable session is marked as cut. -/
theorem Reachable.whole (h : s.Reachable) : ∀ f ∈ s.files, f.truncated = false := by
  intro f hf
  rcases List.mem_append.mp hf with href | hsrc
  · exact h.sound.wholeReferences f href
  · exact h.sound.wholeSources f hsrc

end Session
end CodeBrief
