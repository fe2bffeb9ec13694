import Mathlib
import CodeBrief.Proofs.Collected
import CodeBrief.Proofs.ReferenceHistory
import CodeBrief.Proofs.Truncation

/-!
# What a session holds

A session over a disk below a root is changed by calls and asked for prompts and
lists between them. What it holds is in order at any time (`Session.InOrder`): the
references are files of distinct paths, and so are the sources, which lie below
the root; all of them are whole and named by their paths. How many sources there
may be, and how long, is a matter of the settings at the last refresh that came to
an end, which the session itself does not remember. A run is therefore watched
from outside (`Watched`), and the settings are noted at every refresh.

The two stores are treated apart. No call looks at one of them to change the
other, so the references of a session are those of a store that saw the calls on
references alone (`references_watch`), and its history says what they are. The
sources are replaced as a whole or not at all, so their invariant is the one of a
collection (`Collection.Found`).
-/

namespace CodeBrief

/-! ## Collected files -/

/-- Files collected below a root under limits of number and length. -/
structure Collection.Found (root : Option Path) (c : Settings.Context)
    (files : List ContextFile) : Prop where
  distinct : (files.map (·.path)).Nodup
  below : ∀ f ∈ files, ∃ r ∈ root, ∃ place content, place ≠ [] ∧
    Path.IsPlace (r.components ++ place) ∧
    f = .ofPath (.absolute (r.components ++ place)) content .source
  number : (files.length : Int) ≤ c.maxFiles
  length : ∀ f ∈ files, (f.content.length : Int) ≤ c.maxFileLength

namespace Collection

theorem Found.nil (root : Option Path) {c : Settings.Context} (hc : c.Valid) :
    Found root c [] where
  distinct := List.nodup_nil
  below := List.forall_mem_nil _
  number := Int.le_of_lt hc.1
  length := List.forall_mem_nil _

/-- The files of distinct places below a place, those left out that cannot be read. -/
theorem found_of_places {w : Workspace} {place : List String} (hplace : Path.IsPlace place)
    {c : Settings.Context} (hc : c.Valid) {rels : List (List String)} (hnodup : rels.Nodup)
    (hrels : ∀ p ∈ rels, p ≠ [] ∧ Path.IsPlace p) (hlength : (rels.length : Int) ≤ c.maxFiles) :
    Found (some (.absolute place)) c (rels.filterMap fun p =>
      (w.read (.absolute (place ++ p))).toOption.map
        (sourceOf c.maxFileLength (.absolute (place ++ p)))) := by
  have hfile {f : ContextFile} (hf : f ∈ rels.filterMap fun p =>
      (w.read (.absolute (place ++ p))).toOption.map
        (sourceOf c.maxFileLength (.absolute (place ++ p)))) :
      ∃ rel ∈ rels, ∃ text,
        f = .ofPath (.absolute (place ++ rel)) (truncate text c.maxFileLength) .source := by
    obtain ⟨rel, hrel, hsome⟩ := List.mem_filterMap.mp hf
    obtain ⟨text, -, rfl⟩ := Option.map_eq_some_iff.mp hsome
    exact ⟨rel, hrel, _, rfl⟩
  refine ⟨?_, ?_, ?_, ?_⟩
  · -- a text of a place says which place it is, because its components are names
    have hpairs : rels.Pairwise fun p q =>
        Path.IsPlace (place ++ p) ∧ Path.IsPlace (place ++ q) ∧ place ++ p ≠ place ++ q := by
      refine (List.nodup_iff_pairwise_ne.mp hnodup).imp_of_mem fun {p q} hp hq hne => ?_
      exact ⟨Path.isPlace_append.mpr ⟨hplace, (hrels p hp).2⟩,
        Path.isPlace_append.mpr ⟨hplace, (hrels q hq).2⟩, fun h => hne (List.append_cancel_left h)⟩
    rw [List.nodup_iff_pairwise_ne, List.pairwise_map]
    refine hpairs.filterMap _ fun p q hpq f hf g hg => ?_
    obtain ⟨hp, hq, hne⟩ := hpq
    obtain ⟨_, -, rfl⟩ := Option.map_eq_some_iff.mp hf
    obtain ⟨_, -, rfl⟩ := Option.map_eq_some_iff.mp hg
    intro htext
    exact hne (Path.text_absolute_inj hp hq htext)
  · intro f hf
    obtain ⟨rel, hrel, text, rfl⟩ := hfile hf
    exact ⟨_, rfl, rel, _, (hrels rel hrel).1,
      Path.isPlace_append.mpr ⟨hplace, (hrels rel hrel).2⟩, rfl⟩
  · have hle := List.length_filterMap_le
      (fun p => (w.read (.absolute (place ++ p))).toOption.map
        (sourceOf c.maxFileLength (.absolute (place ++ p)))) rels
    omega
  · intro f hf
    obtain ⟨rel, hrel, text, rfl⟩ := hfile hf
    have hle := length_truncate_le text c.maxFileLength
    have hpos : 0 < c.maxFileLength := hc.2.2
    show ((truncate text c.maxFileLength).length : Int) ≤ c.maxFileLength
    omega

/-- What a disk gives below a root is found there within the limits. -/
theorem found_of_collect {d : Disk} (hd : d.Proper) {root : Option Path}
    (hroot : ∀ r ∈ root, ∃ place, Path.IsPlace place ∧ r = .absolute place)
    {c : Settings.Context} (hc : c.Valid) {files : List ContextFile} {notices : List Notice}
    (h : collect (d.workspace root) c.extensions c.excludePatterns c.maxFiles c.maxFileLength =
      .ok (files, notices)) : Found root c files := by
  have hpos : 0 < c.maxFiles := hc.1
  cases root with
  | none =>
      cases h
      exact .nil none hc
  | some r =>
      obtain ⟨place, hplace, rfl⟩ := hroot r rfl
      rw [d.workspace_absolute hplace] at h
      rcases files_of_collect rfl h with ⟨why, -, -, rfl⟩ | ⟨paths, hpaths, rfl⟩
      · exact .nil _ hc
      · obtain ⟨rels, rfl, hnodup, hrels, hlength⟩ := Search.exists_of_findFiles hd hpaths
        rw [takeSigned_of_length_le (by rwa [List.length_map]) hpos, List.filterMap_map]
        refine found_of_places hplace hc hnodup (fun p hp => ?_) (by omega)
        exact ⟨(hrels p hp).ne_nil, (hrels p hp).isPlace⟩

end Collection

namespace Session

/-! ## Runs -/

/-- A question to a session. -/
inductive Query where
  | prompt (question : String)
  | ranked
  | stats
  | sources
  | references

/-- What a session answers. -/
inductive Answer where
  | prompt (p : AssembledPrompt)
  | ranked (files : List (ContextFile × Nat))
  | stats (n : Stats)
  | files (files : List ContextFile)

/-- The files that an answer hands out. -/
def Answer.handedOut : Answer → List ContextFile
  | .prompt p => p.included
  | .ranked scored => scored.map (·.1)
  | .stats _ => []
  | .files listed => listed

/-- The answer to a question, and the session after it. -/
def ask (s : Session) : Query → Answer × Session
  | .prompt question => (.prompt (s.assemble question), s)
  | .ranked => (.ranked s.ranked, s)
  | .stats => (.stats s.stats, s)
  | .sources => (.files s.sources, s)
  | .references => (.files s.references.files, s)

/-- A call that may change a session, or a question between two of them. -/
inductive Event where
  | call (c : Call)
  | ask (q : Query)

/-- The session after an event. -/
def serve (s : Session) : Event → Session
  | .call c => s.after c
  | .ask q => (s.ask q).2

/-- Whether a call collects the source files anew and comes to its end. -/
def Call.refreshes (s : Session) : Call → Bool
  | .refresh w =>
      match s.refresh w with
      | .ok _ => true
      | .error _ => false
  | .saved w path =>
      match s.saved w path with
      | .ok (_, again, _) => again
      | .error _ => false
  | _ => false

def Event.refreshes (s : Session) : Event → Bool
  | .call c => c.refreshes s
  | .ask _ => false

/-- A session, and the settings in use when its source files were last collected. -/
structure Watched where
  session : Session
  collected : Option Settings.Context

/-- What is watched after an event. -/
def Watched.after (x : Watched) (e : Event) : Watched where
  session := x.session.serve e
  collected := if e.refreshes x.session then some x.session.context else x.collected

/-- What is watched of a run of events from a start. -/
def watch (settings : Settings.Live String) (events : List Event) : Watched :=
  events.foldl Watched.after ⟨start settings, none⟩

/-- Whether a call sees a disk, as it is at the moment, below a root. -/
def Call.Below (root : Option Path) : Call → Prop
  | .refresh w => ∃ d : Disk, d.Proper ∧ w = d.workspace root
  | .saved w _ => ∃ d : Disk, d.Proper ∧ w = d.workspace root
  | .addReference w _ => ∃ d : Disk, d.Proper ∧ w = d.workspace root
  | _ => True

def Event.Below (root : Option Path) : Event → Prop
  | .call c => c.Below root
  | .ask _ => True

/-! ## References -/

/-- The call on references that a call on a session is. -/
def Call.onReferences? : Call → Option References.Call
  | .addReference w path => some (.add w path)
  | .removeReference cwd path => some (.remove cwd path)
  | .clearReferences => some .clear
  | _ => none

def Event.onReferences? : Event → Option References.Call
  | .call c => c.onReferences?
  | .ask _ => none

variable {s : Session}

/-- A call on a session is one on its references or leaves them alone. -/
theorem references_after (s : Session) (c : Call) :
    (s.after c).references =
      match c.onReferences? with
      | some rc => (s.references.perform rc).1
      | none => s.references := by
  cases c with
  | refresh w =>
      rw [after]
      split
      · next h => exact references_refresh h
      · rfl
  | saved w path =>
      rw [after]
      split
      · next h => exact references_saved h
      · rfl
  | addReference w path =>
      rw [after, addReference, Call.onReferences?]
      show _ = (s.references.perform (.add w path)).1
      rw [References.perform]
      cases s.references.add w path <;> rfl
  | removeReference cwd path =>
      rw [after, removeReference, Call.onReferences?]
      show _ = (s.references.perform (.remove cwd path)).1
      rw [References.perform, hasReference]
      split <;> rfl
  | update changes =>
      rw [after]
      split
      · next h => exact references_update h
      · rfl
  | clearSources => rfl
  | clearReferences => rfl
  | subscribe listener => rfl
  | unsubscribe listener => rfl
  | close => rfl

theorem references_serve (s : Session) (e : Event) :
    (s.serve e).references =
      match e.onReferences? with
      | some rc => (s.references.perform rc).1
      | none => s.references := by
  cases e with
  | call c => exact references_after s c
  | ask q => cases q <;> rfl

theorem watch_concat (settings : Settings.Live String) (events : List Event) (e : Event) :
    watch settings (events ++ [e]) = (watch settings events).after e := by
  rw [watch, List.foldl_append]
  rfl

/-- The references of a session are those of a store that saw the calls on references alone. -/
theorem references_watch (settings : Settings.Live String) (events : List Event) :
    (watch settings events).session.references =
      References.run (events.filterMap Event.onReferences?) := by
  induction events using List.reverseRecOn with
  | nil => rfl
  | append_singleton events e ih =>
      rw [watch_concat, List.filterMap_append]
      show ((watch settings events).session.serve e).references = _
      rw [references_serve, ih]
      cases h : e.onReferences? with
      | none => simp [h]
      | some rc => simp [h, References.run_concat]

/-- A reference of a session over a disk is a file of a place, as it was read. -/
theorem exists_place_of_mem_references {root : Option Path} {settings : Settings.Live String}
    {events : List Event} (h : ∀ e ∈ events, e.Below root) {f : ContextFile}
    (hf : f ∈ (watch settings events).session.references.files) :
    ∃ place content, Path.IsPlace place ∧ f = .ofPath (.absolute place) content .reference := by
  rw [references_watch] at hf
  obtain ⟨rc, hrc, hadd⟩ := References.exists_added?_of_mem_run hf
  obtain ⟨e, he, honly⟩ := List.mem_filterMap.mp hrc
  cases rc with
  | add w path =>
      obtain ⟨c, rfl⟩ : ∃ c, e = .call c := by
        cases e with
        | call c => exact ⟨c, rfl⟩
        | ask q => cases honly
      obtain rfl : c = .addReference w path := by
        cases c <;> cases honly
        rfl
      obtain ⟨d, hd, rfl⟩ := h _ he
      rw [References.Call.added?] at hadd
      split at hadd
      · next text _ =>
          cases hadd
          exact ⟨_, text, Path.isPlace_locate hd.cwd path, rfl⟩
      · cases hadd
  | _ => cases hadd

/-! ## Sources -/

theorem sources_of_update {s t : Session} {changes : List (String × Json.Value)}
    {told : List (String × Settings.Context)} (h : s.update changes = .ok (t, told)) :
    t.sources = s.sources := by
  rw [update] at h
  cases hu : s.settings.update changes with
  | error why =>
      rw [hu] at h
      cases h
  | ok r =>
      rw [hu] at h
      cases h
      rfl

/-- A saved file is not looked at, or its session is refreshed. -/
theorem refresh_of_saved {s t : Session} {w : Workspace} {path : String} {again : Bool}
    {notices : List Notice} (h : s.saved w path = .ok (t, again, notices)) :
    if again then s.refresh w = .ok (t, notices) else t = s := by
  rw [saved] at h
  split at h
  · cases hr : s.refresh w with
    | error why =>
        rw [hr] at h
        cases h
    | ok found =>
        rw [hr] at h
        cases h
        rfl
  · cases h
    rfl

/-- The sources after a call that refreshes them are what was collected under the settings in use. -/
theorem collect_of_refreshes {root : Option Path} {c : Call} (hbelow : c.Below root)
    (h : c.refreshes s = true) :
    ∃ (d : Disk) (notices : List Notice), d.Proper ∧
      Collection.collect (d.workspace root) s.context.extensions s.context.excludePatterns
        s.context.maxFiles s.context.maxFileLength = .ok ((s.after c).sources, notices) := by
  cases c with
  | refresh w =>
      obtain ⟨d, hd, rfl⟩ := hbelow
      rw [after]
      rw [Call.refreshes] at h
      split at h
      · next t heq =>
          rw [heq]
          exact ⟨d, _, hd, collect_of_refresh heq⟩
      · cases h
  | saved w path =>
      obtain ⟨d, hd, rfl⟩ := hbelow
      rw [after]
      rw [Call.refreshes] at h
      split at h
      · next t again notices heq =>
          rw [heq]
          have hr := refresh_of_saved heq
          rw [if_pos h] at hr
          exact ⟨d, notices, hd, collect_of_refresh hr⟩
      · cases h
  | _ => cases h

/-- The sources after any other call are what they were, or gone. -/
theorem sources_after {c : Call} (h : c.refreshes s = false) :
    (s.after c).sources = s.sources ∨ (s.after c).sources = [] := by
  cases c with
  | refresh w =>
      rw [Call.refreshes] at h
      rw [after]
      cases heq : s.refresh w with
      | ok r =>
          rw [heq] at h
          cases h
      | error why => exact Or.inl rfl
  | saved w path =>
      rw [Call.refreshes] at h
      rw [after]
      cases heq : s.saved w path with
      | ok r =>
          obtain ⟨t, again, notices⟩ := r
          rw [heq] at h
          have hsame := refresh_of_saved heq
          rw [if_neg (by simpa using h)] at hsame
          exact Or.inl (congrArg Session.sources hsame)
      | error why => exact Or.inl rfl
  | clearSources => exact Or.inr rfl
  | addReference w path =>
      rw [after, addReference]
      split <;> exact Or.inl rfl
  | removeReference cwd path =>
      rw [after, removeReference]
      split <;> exact Or.inl rfl
  | clearReferences => exact Or.inl rfl
  | update changes =>
      rw [after]
      split
      · next heq => exact Or.inl (sources_of_update heq)
      · exact Or.inl rfl
  | subscribe listener => exact Or.inl rfl
  | unsubscribe listener => exact Or.inl rfl
  | close => exact Or.inl rfl

/-- What every event keeps of the sources: they were found under the settings that were noted. -/
structure Watched.SourcesFound (root : Option Path) (x : Watched) : Prop where
  sound : x.session.Sound
  uncollected : x.collected = none → x.session.sources = []
  found : ∀ c ∈ x.collected, c.Valid ∧ Collection.Found root c x.session.sources

theorem Watched.SourcesFound.after {root : Option Path}
    (hroot : ∀ r ∈ root, ∃ place, Path.IsPlace place ∧ r = .absolute place) {x : Watched}
    (hx : x.SourcesFound root) {e : Event} (he : e.Below root) :
    (x.after e).SourcesFound root := by
  cases e with
  | ask q => cases q <;> exact hx
  | call c =>
      have hsound : (x.session.after c).Sound := hx.sound.after c
      cases hrefreshes : c.refreshes x.session with
      | true =>
          have hcollected : (x.after (.call c)).collected = some x.session.context := by
            simp [Watched.after, Event.refreshes, hrefreshes]
          obtain ⟨d, notices, hd, hcollect⟩ := collect_of_refreshes he hrefreshes
          have hfound := Collection.found_of_collect hd hroot hx.sound.valid hcollect
          refine ⟨hsound, ?_, ?_⟩
          · rw [hcollected]
            exact nofun
          · rw [hcollected]
            rintro _ ⟨⟩
            exact ⟨hx.sound.valid, hfound⟩
      | false =>
          have hcollected : (x.after (.call c)).collected = x.collected := by
            simp [Watched.after, Event.refreshes, hrefreshes]
          -- the sources stay or go as a whole, in order under the settings that they were found with
          have hsources := sources_after hrefreshes
          refine ⟨hsound, ?_, ?_⟩
          · rw [hcollected]
            intro hnone
            show (x.session.after c).sources = []
            rcases hsources with h | h
            · rw [h, hx.uncollected hnone]
            · exact h
          · rw [hcollected]
            intro c' hc'
            obtain ⟨hvalid, hfound⟩ := hx.found c' hc'
            refine ⟨hvalid, ?_⟩
            show Collection.Found root c' (x.session.after c).sources
            rcases hsources with h | h
            · rw [h]
              exact hfound
            · rw [h]
              exact .nil root hvalid

theorem Watched.SourcesFound.exists_found {root : Option Path} {x : Watched}
    (hx : x.SourcesFound root) : ∃ c, Collection.Found root c x.session.sources := by
  cases hcollected : x.collected with
  | none =>
      rw [hx.uncollected hcollected]
      exact ⟨x.session.context, .nil root hx.sound.valid⟩
  | some c => exact ⟨c, (hx.found c hcollected).2⟩

theorem sourcesFound_watch {root : Option Path}
    (hroot : ∀ r ∈ root, ∃ place, Path.IsPlace place ∧ r = .absolute place)
    {settings : Settings.Live String} (hvalid : settings.context.Valid) {events : List Event}
    (h : ∀ e ∈ events, e.Below root) : (watch settings events).SourcesFound root := by
  induction events using List.reverseRecOn with
  | nil => exact ⟨⟨hvalid, List.forall_mem_nil _, List.forall_mem_nil _⟩, fun _ => rfl, nofun⟩
  | append_singleton events e ih =>
      rw [watch_concat]
      exact (ih fun e' he' => h e' (List.mem_append_left _ he')).after hroot
        (h e (List.mem_append_right _ List.mem_cons_self))

/-! ## Files that are handed out -/

end Session

/-- Packing takes files as they are, or cuts a copy. -/
theorem Packing.exists_of_mem_fill {files : List ContextFile} {t : Tally} {left : Int}
    {f : ContextFile} (h : f ∈ (fill files t left).1) :
    ∃ g ∈ files, f = g ∨ ∃ limit, f = g.cutTo limit := by
  induction files generalizing t left with
  | nil => cases h
  | cons g rest ih =>
      rw [fill] at h
      simp only at h
      split at h
      · rcases List.mem_cons.mp h with rfl | h
        · exact ⟨f, List.mem_cons_self, Or.inl rfl⟩
        · obtain ⟨g', hg', hf⟩ := ih h
          exact ⟨g', List.mem_cons_of_mem _ hg', hf⟩
      · split at h
        · exact ⟨g, List.mem_cons_self, Or.inr ⟨_, List.mem_singleton.mp h⟩⟩
        · cases h

namespace Session

/-- An answer hands out files that the session holds, or cut copies of them. -/
theorem exists_of_mem_handedOut {s : Session} {q : Query} {f : ContextFile}
    (h : f ∈ (s.ask q).1.handedOut) : ∃ g ∈ s.files, f = g ∨ ∃ limit, f = g.cutTo limit := by
  have hrank {g : ContextFile} (hg : g ∈ Priority.rank s.files) : g ∈ s.files :=
    (Priority.rank_perm s.files).mem_iff.mp hg
  cases q with
  | prompt question =>
      have hpacked : f ∈ (s.packed question).included := h
      rw [packed, Packing.included_pack] at hpacked
      obtain ⟨g, hg, hf⟩ := Packing.exists_of_mem_fill hpacked
      exact ⟨g, hrank hg, hf⟩
  | ranked => exact ⟨f, hrank h, Or.inl rfl⟩
  | stats => cases h
  | sources => exact ⟨f, List.mem_append_right _ h, Or.inl rfl⟩
  | references => exact ⟨f, List.mem_append_left _ h, Or.inl rfl⟩

/-! ## What is held -/

/-- The order that a session keeps over a disk below a root, after its sources were last collected
under some settings. -/
structure InOrder (root : Option Path) (collected : Option Settings.Context) (s : Session) :
    Prop where
  referencePaths : (s.references.files.map (·.path)).Nodup
  references : ∀ f ∈ s.references.files, f.kind = .reference ∧
    ∃ place, Path.IsPlace place ∧ f.path = (Path.absolute place).text
  sourcePaths : (s.sources.map (·.path)).Nodup
  sources : ∀ f ∈ s.sources, f.kind = .source ∧ ∃ r ∈ root, ∃ place, place ≠ [] ∧
    Path.IsPlace (r.components ++ place) ∧
    f.path = (Path.absolute (r.components ++ place)).text
  named : ∀ f ∈ s.files, f.name = (Path.ofString f.path).name
  whole : ∀ f ∈ s.files, f.truncated = false
  uncollected : collected = none → s.sources = []
  limited : ∀ c ∈ collected, (s.sources.length : Int) ≤ c.maxFiles ∧
    ∀ f ∈ s.sources, (f.content.length : Int) ≤ c.maxFileLength

theorem name_ofPath_absolute {place : List String} (h : Path.IsPlace place) (content : String)
    (kind : Kind) :
    let f := ContextFile.ofPath (.absolute place) content kind
    f.name = (Path.ofString f.path).name := by
  intro f
  have hread : Path.ofString f.path = .absolute place := Path.ofString_text_absolute h.isComponent
  rw [hread]
  rfl

/-- A session over a disk is in order after every run of calls and questions, whatever the disk
looks like at each of them; and a question changes nothing, though it may cut what it hands out. -/
theorem watch_inOrder {cwd : List String} (hcwd : Path.IsPlace cwd) {spelled : Option String}
    {settings : Settings.Live String} (hvalid : settings.context.Valid) {events : List Event}
    (h : ∀ e ∈ events, e.Below (spelled.map (References.key cwd))) :
    let x := watch settings events
    x.session.InOrder (spelled.map (References.key cwd)) x.collected ∧
    ∀ q, (x.session.ask q).2 = x.session ∧
      ∀ f ∈ (x.session.ask q).1.handedOut,
        ∃ g ∈ x.session.files, f = g ∨ ∃ limit, f = g.cutTo limit := by
  intro x
  have hroot : ∀ r ∈ spelled.map (References.key cwd),
      ∃ place, Path.IsPlace place ∧ r = .absolute place := by
    intro r hr
    obtain ⟨s, _, rfl⟩ := Option.mem_map.mp hr
    exact ⟨_, Path.isPlace_locate hcwd s, rfl⟩
  have hsources : x.SourcesFound (spelled.map (References.key cwd)) :=
    sourcesFound_watch hroot hvalid h
  have hreferences {f : ContextFile} (hf : f ∈ x.session.references.files) :
      ∃ place content, Path.IsPlace place ∧ f = .ofPath (.absolute place) content .reference :=
    exists_place_of_mem_references h hf
  obtain ⟨c, hfound⟩ := hsources.exists_found
  have hnamed : ∀ f ∈ x.session.files, f.name = (Path.ofString f.path).name := by
    intro f hf
    rcases List.mem_append.mp hf with href | hsrc
    · obtain ⟨place, content, hplace, rfl⟩ := hreferences href
      exact name_ofPath_absolute hplace content .reference
    · obtain ⟨r, _, place, content, _, hplace, rfl⟩ := hfound.below f hsrc
      exact name_ofPath_absolute hplace content .source
  have hwhole : ∀ f ∈ x.session.files, f.truncated = false := by
    intro f hf
    rcases List.mem_append.mp hf with href | hsrc
    · exact hsources.sound.wholeReferences f href
    · exact hsources.sound.wholeSources f hsrc
  refine ⟨⟨?_, ?_, hfound.distinct, ?_, hnamed, hwhole, hsources.uncollected, ?_⟩, ?_⟩
  · have hreplay : x.session.references = References.run (events.filterMap Event.onReferences?) :=
      references_watch settings events
    rw [hreplay]
    exact References.nodup_run _
  · intro f hf
    obtain ⟨place, content, hplace, rfl⟩ := hreferences hf
    exact ⟨rfl, place, hplace, rfl⟩
  · intro f hf
    obtain ⟨r, hr, place, content, hne, hplace, rfl⟩ := hfound.below f hf
    exact ⟨rfl, r, hr, place, hne, hplace, rfl⟩
  · intro c' hc'
    have hfound' := (hsources.found c' hc').2
    exact ⟨hfound'.number, hfound'.length⟩
  · intro q
    refine ⟨?_, fun f hf => exists_of_mem_handedOut hf⟩
    cases q <;> rfl

/-- A file is found, changes, and is added under two spellings, and the limit falls below the number of
sources held. -/
theorem watch_inOrder_changed_disk :
    let disk (text : String) : Disk :=
      ⟨.folder [("p", .folder [("b.py", .file (Text.Utf8.encode text)), ("a.py", .file [])])], ["p"]⟩
    let root := (some "../p/.").map (References.key ["p"])
    let w (text : String) : Workspace := (disk text).workspace root
    let settings : Settings.Context := ⟨2, 50000, 3000, ["py"], []⟩
    let events : List Event :=
      [.call (.refresh (w "1")), .call (.addReference (w "2") "b.py"), .ask .sources,
        .call (.update [("max_context_files", .int 1)]), .call (.addReference (w "3") "/p//b.py")]
    let x := watch ⟨settings, []⟩ events
    x.session.InOrder root x.collected ∧
    x.session.references.files = [⟨"/p/b.py", "b.py", "3", .reference, false⟩] ∧
    x.session.sources.map (fun f => (f.path, f.content)) = [("/p/a.py", ""), ("/p/b.py", "1")] ∧
    x.session.context.maxFiles = 1 ∧ x.collected = some settings := by
  intro disk root w settings events x
  have hproper (text : String) : (disk text).Proper := @Disk.proper_of_files "p"
    [("b.py", Text.Utf8.encode text), ("a.py", [])] ["p"] (by decide)
    (List.forall_mem_cons.mpr ⟨show Path.IsName "b.py" by decide, by decide⟩)
    (show ["b.py", "a.py"].Nodup by decide) (by decide)
  have hbelow : ∀ e ∈ events, e.Below root := by
    intro e he
    simp only [events, List.mem_cons, List.not_mem_nil, or_false] at he
    rcases he with rfl | rfl | rfl | rfl | rfl
    · exact ⟨disk "1", hproper "1", rfl⟩
    · exact ⟨disk "2", hproper "2", rfl⟩
    · trivial
    · trivial
    · exact ⟨disk "3", hproper "3", rfl⟩
  have hvalid : settings.Valid := ⟨by decide, by decide, by decide⟩
  have hcwd : Path.IsPlace ["p"] := by decide
  refine ⟨(watch_inOrder hcwd hvalid hbelow).1, ?_, ?_, ?_, ?_⟩
  · rw [references_watch]
    decide +kernel
  · cbv
  · cbv
  · cbv

end Session

end CodeBrief
