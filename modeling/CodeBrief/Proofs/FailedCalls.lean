import Mathlib
import CodeBrief.Proofs.Collected
import CodeBrief.Proofs.LiveSettings
import CodeBrief.Proofs.Reachable
import CodeBrief.Proofs.ReferenceHistory

/-!
# Calls that fail change nothing

A call on a session can end in three ways: it is broken off, it answers no, or it
does what was asked for. Only the last may leave a trace. Since a call that is
broken off in the middle keeps what it has done so far, this is a matter of the
order of its steps, and so every call is written down as the single changes that
it makes of a session (`Session.Steps`). The search for files and the reading of
a file stand before the only change that they lead to, and settings are checked
before they are installed and told.

Two things come of it. Carried out in steps, a call leaves the session that
`Session.after` gives and tells what `Session.update` says (`steps_run`); and which calls
fail can be said without carrying them out (`Call.Fails`). For updates the second needs
that the settings in use are valid, as they are in every reachable session.
-/

namespace CodeBrief

namespace Session

/-! ## Calls in steps -/

/-- A session, and what its listeners have been told. -/
structure Ledger where
  session : Session
  told : List (String × Settings.Context) := []

/-- Why a call is broken off. -/
inductive Breakdown where
  | search (why : Search.Failure)
  | refusal (why : Settings.Refusal)

/-- What is done to a session, step by step. What was done before a breakdown stays done. -/
abbrev Steps := ExceptT Breakdown (StateM Ledger)

namespace Steps

/-- Changes the session. -/
def change (f : Session → Session) : Steps Unit :=
  modify fun x => { x with session := f x.session }

/-- Collects the source files anew. -/
def refresh (w : Workspace) : Steps Unit := do
  let c := (← get).session.context
  match Collection.collect w c.extensions c.excludePatterns c.maxFiles c.maxFileLength with
  | .error why => throw (.search why)
  | .ok found => change fun s => { s with sources := found.1 }

/-- Collects the source files anew if a saved file asks for it, and tells whether it does. -/
def saved (w : Workspace) (path : String) : Steps Bool := do
  if (← get).session.tracks path then
    refresh w
    return true
  else return false

/-- Reads a reference file and adds it, and tells whether it could be read. -/
def addReference (w : Workspace) (path : String) : Steps Bool := do
  let place := References.key w.cwd path
  match w.read place with
  | .error _ => return false
  | .ok text =>
      let f := ContextFile.ofPath place text .reference
      change fun s => { s with references := ⟨References.insert f s.references.files⟩ }
      return true

/-- Takes a reference file away, and tells whether there was one. -/
def removeReference (cwd : List String) (path : String) : Steps Bool := do
  if (← get).session.hasReference cwd path then
    change fun s => { s with references := s.references.remove cwd path }
    return true
  else return false

/-- Does something to the settings of a session. -/
def onSettings {β : Type} (steps : Settings.Live.Steps String β) : Steps β :=
  ExceptT.mk fun x =>
    let (r, y) := steps.run ⟨x.session.settings, x.told, []⟩
    (r.mapError .refusal, ⟨{ x.session with settings := y.live }, y.told⟩)

end Steps

/-- What a call does; some calls give an answer. -/
def Call.steps : Call → Steps (Option Bool)
  | .refresh w => do
      Steps.refresh w
      return none
  | .saved w path => return some (← Steps.saved w path)
  | .clearSources => do
      Steps.change Session.clearSources
      return none
  | .addReference w path => return some (← Steps.addReference w path)
  | .removeReference cwd path => return some (← Steps.removeReference cwd path)
  | .clearReferences => do
      Steps.change Session.clearReferences
      return none
  | .update changes => do
      let _ ← Steps.onSettings (Settings.Live.Steps.update changes)
      return none
  | .subscribe listener => do
      Steps.onSettings (Settings.Live.Call.subscribe listener).steps
      return none
  | .unsubscribe listener => do
      Steps.onSettings (Settings.Live.Call.unsubscribe listener).steps
      return none
  | .close => do
      Steps.onSettings (Settings.Live.Call.unsubscribe listenerName).steps
      return none

/-- How a call ends by the functions of a session: broken off, or perhaps with an answer. -/
def Call.reply (s : Session) : Call → Except Breakdown (Option Bool)
  | .refresh w =>
      match s.refresh w with
      | .ok _ => .ok none
      | .error why => .error (.search why)
  | .saved w path =>
      match s.saved w path with
      | .ok (_, again, _) => .ok (some again)
      | .error why => .error (.search why)
  | .addReference w path => .ok (some (s.addReference w path).2.1)
  | .removeReference cwd path => .ok (some (s.removeReference cwd path).2)
  | .update changes =>
      match s.update changes with
      | .ok _ => .ok none
      | .error why => .error (.refusal why)
  | _ => .ok none

/-- What a call tells listeners by the functions of a session. -/
def Call.tells (s : Session) : Call → List (String × Settings.Context)
  | .update changes =>
      match s.update changes with
      | .ok (_, told) => told
      | .error _ => []
  | _ => []

variable {s : Session}

theorem Steps.get_run (x : Ledger) : (get : Steps Ledger).run x = (.ok x, x) := rfl

theorem Steps.onSettings_run {β : Type} (steps : Settings.Live.Steps String β) (x : Ledger) :
    (onSettings steps).run x =
      let r := steps.run ⟨x.session.settings, x.told, []⟩
      (r.1.mapError .refusal, ⟨{ x.session with settings := r.2.live }, r.2.told⟩) := rfl

theorem Steps.refresh_run (w : Workspace) (x : Ledger) :
    (Steps.refresh w).run x =
      match x.session.refresh w with
      | .ok (t, _) => (.ok (), { x with session := t })
      | .error why => (.error (.search why), x) := by
  simp only [Steps.refresh, run_bind, get_run, Session.refresh]
  cases Collection.collect w x.session.context.extensions x.session.context.excludePatterns
    x.session.context.maxFiles x.session.context.maxFileLength <;> rfl

/-- Carried out in steps, a call comes to what the functions of a session say. -/
theorem steps_run (c : Call) (x : Ledger) :
    c.steps.run x = (c.reply x.session, ⟨x.session.after c, x.told ++ c.tells x.session⟩) := by
  have hsilent (y : Session) : (⟨y, x.told ++ []⟩ : Ledger) = { x with session := y } := by
    rw [List.append_nil]
  cases c with
  | refresh w =>
      simp only [Call.steps, run_bind, Steps.refresh_run, Call.reply, Call.tells, hsilent, after]
      cases x.session.refresh w <;> rfl
  | saved w path =>
      simp only [Call.steps, Steps.saved, run_bind, Steps.get_run, Call.reply, Call.tells, hsilent,
        after, Session.saved]
      cases x.session.tracks path with
      | false => rfl
      | true =>
          simp only [if_true, run_bind, Steps.refresh_run]
          cases x.session.refresh w <;> rfl
  | addReference w path =>
      simp only [Call.steps, Steps.addReference, run_bind, Call.reply, Call.tells, hsilent, after,
        Session.addReference, References.add]
      cases w.read (References.key w.cwd path) <;> rfl
  | removeReference cwd path =>
      simp only [Call.steps, Steps.removeReference, run_bind, Steps.get_run, Call.reply, Call.tells,
        hsilent, after, Session.removeReference]
      cases x.session.hasReference cwd path <;> rfl
  | update changes =>
      simp only [Call.steps, run_bind, Steps.onSettings_run, Settings.Live.Steps.update_run, Call.reply,
        Call.tells, after, Session.update]
      cases x.session.settings.update changes with
      | ok r => rfl
      | error why => simp only [Except.map, hsilent]; rfl
  | clearSources => simp only [hsilent, Call.tells]; rfl
  | clearReferences => simp only [hsilent, Call.tells]; rfl
  | subscribe listener => simp only [hsilent, Call.tells]; rfl
  | unsubscribe listener => simp only [hsilent, Call.tells]; rfl
  | close => simp only [hsilent, Call.tells]; rfl

/-! ## Failure -/

/-- Whether a call was broken off or answered no. -/
def failed : Except Breakdown (Option Bool) → Bool
  | .error _ => true
  | .ok answer => answer == some false

/-- The files below the root cannot be searched because its ignore file is no text. -/
def SearchFails (s : Session) (w : Workspace) : Prop :=
  w.root.isSome = true ∧
    w.find (Glob.ofExtensions s.context.extensions) (s.context.excludePatterns.map Text.Wide.points)
      s.context.maxFiles = .error .ignoreFileNotText

/-- The calls that fail. -/
def Call.Fails (s : Session) : Call → Prop
  | .refresh w => SearchFails s w
  | .saved w path => s.tracks path = true → SearchFails s w
  | .addReference w path => ∃ why, w.read (References.key w.cwd path) = .error why
  | .removeReference cwd path => ∀ f ∈ s.references.files, f.path ≠ (References.key cwd path).text
  | .update changes => ¬s.context.Knows changes ∨ ∀ new, ¬s.context.ChangedBy changes new
  | _ => False

theorem exists_refresh_error_iff {w : Workspace} :
    (∃ why, s.refresh w = .error why) ↔ SearchFails s w := by
  rw [SearchFails]
  cases hroot : w.root with
  | none => simp [refresh, Collection.collect, hroot, Except.map]
  | some root => simp [refresh_eq_error_iff hroot]

/-- Settings in use are left as they are exactly if a name or a value is refused. -/
theorem exists_update_error_iff (hvalid : s.context.Valid) {changes : List (String × Json.Value)} :
    (∃ why, s.update changes = .error why) ↔
      ¬s.context.Knows changes ∨ ∀ new, ¬s.context.ChangedBy changes new := by
  have hupdated := Settings.Live.Updated.of_valid (x := ⟨s.settings, [], []⟩) hvalid changes
  refine Iff.trans ?_ hupdated.refused_iff
  rw [update]
  cases s.settings.update changes <;> simp [Settings.Live.Ledger.enter, Except.map]

theorem failed_reply_iff (hvalid : s.context.Valid) (c : Call) :
    failed (c.reply s) = true ↔ c.Fails s := by
  cases c with
  | refresh w =>
      rw [Call.Fails, ← exists_refresh_error_iff, Call.reply]
      cases s.refresh w <;> simp [failed]
  | saved w path =>
      rw [Call.Fails, ← exists_refresh_error_iff, Call.reply, Session.saved]
      cases s.tracks path with
      | false => simp [failed]
      | true => cases s.refresh w <;> simp [failed, Except.map]
  | addReference w path =>
      rw [Call.Fails, Call.reply, Session.addReference, References.add]
      cases w.read (References.key w.cwd path) <;> simp [failed, Except.map]
  | removeReference cwd path =>
      rw [Call.Fails, Call.reply, Session.removeReference]
      cases hhas : s.hasReference cwd path with
      | true =>
          obtain ⟨f, hf, hpath⟩ := References.contains_iff.mp hhas
          simpa [failed] using ⟨f, hf, hpath⟩
      | false =>
          have hnone := mt References.contains_iff.mpr (Bool.eq_false_iff.mp hhas)
          simpa [failed] using hnone
  | update changes =>
      rw [Call.Fails, ← exists_update_error_iff hvalid, Call.reply]
      cases s.update changes <;> simp [failed]
  | _ => simp [failed, Call.reply, Call.Fails]

/-- A call that fails leaves the session as it was, and no listener has been told anything. -/
theorem unchanged_of_failed_reply {c : Call} (h : failed (c.reply s) = true) :
    s.after c = s ∧ c.tells s = [] := by
  cases c with
  | refresh w =>
      refine ⟨?_, rfl⟩
      rw [Call.reply] at h
      rw [after]
      cases hrefresh : s.refresh w with
      | ok found =>
          rw [hrefresh] at h
          cases h
      | error why => rfl
  | saved w path =>
      refine ⟨?_, rfl⟩
      rw [Call.reply, Session.saved] at h
      rw [after, Session.saved]
      cases htracks : s.tracks path with
      | false => rfl
      | true =>
          cases hrefresh : s.refresh w with
          | ok found =>
              rw [htracks, hrefresh] at h
              cases h
          | error why => rfl
  | addReference w path =>
      refine ⟨?_, rfl⟩
      rw [Call.reply, Session.addReference] at h
      rw [after, Session.addReference]
      cases hadd : s.references.add w path with
      | ok r =>
          rw [hadd] at h
          cases h
      | error why => rfl
  | removeReference cwd path =>
      refine ⟨?_, rfl⟩
      rw [Call.reply, Session.removeReference] at h
      rw [after, Session.removeReference]
      cases hhas : s.hasReference cwd path with
      | true =>
          rw [hhas] at h
          cases h
      | false => rfl
  | update changes =>
      rw [Call.reply] at h
      rw [after, Call.tells]
      cases hupdate : s.update changes with
      | ok r =>
          rw [hupdate] at h
          cases h
      | error why => exact ⟨rfl, rfl⟩
  | _ => cases h

/-! ## Runs -/

/-- The ledger after calls, whether they fail or not. -/
def carryOut (x : Ledger) (calls : List Call) : Ledger :=
  calls.foldl (fun x c => (c.steps.run x).2) x

/-- The calls of a run that do not fail. -/
def succeeding : Ledger → List Call → List Call
  | _, [] => []
  | x, c :: rest =>
      let r := c.steps.run x
      if failed r.1 then succeeding r.2 rest else c :: succeeding r.2 rest

theorem steps_run_of_failed {c : Call} {x : Ledger} (h : failed (c.steps.run x).1 = true) :
    (c.steps.run x).2 = x := by
  rw [steps_run] at h ⊢
  obtain ⟨hsession, htold⟩ := unchanged_of_failed_reply h
  show (⟨x.session.after c, x.told ++ c.tells x.session⟩ : Ledger) = x
  rw [hsession, htold, List.append_nil]

theorem carryOut_succeeding (x : Ledger) (calls : List Call) :
    carryOut x (succeeding x calls) = carryOut x calls := by
  induction calls generalizing x with
  | nil => rfl
  | cons c rest ih =>
      rw [succeeding]
      split
      · next h =>
          rw [steps_run_of_failed h, ih, carryOut, carryOut, List.foldl_cons, steps_run_of_failed h]
      · exact ih _

/-- In a reachable session a call fails exactly if its search, its file, its reference or its changes
are at fault. It then leaves the references in their order, the sources, the settings and their
listeners as they were and has told nobody anything, so that a run comes to the same without it.
Carried out in steps, every call comes to what the functions of a session say. -/
theorem unchanged_of_failed (hs : s.Reachable) (told : List (String × Settings.Context)) (c : Call) :
    let x : Ledger := ⟨s, told⟩
    let r := c.steps.run x
    (failed r.1 = true ↔ c.Fails s) ∧ (failed r.1 = true → r.2 = x) ∧
    r = (c.reply s, ⟨s.after c, told ++ c.tells s⟩) ∧
    ∀ calls, carryOut x (succeeding x calls) = carryOut x calls := by
  intro x r
  have hrun : r = (c.reply s, ⟨s.after c, told ++ c.tells s⟩) := steps_run c x
  refine ⟨?_, fun h => steps_run_of_failed h, hrun, carryOut_succeeding x⟩
  rw [hrun]
  exact failed_reply_iff hs.sound.valid c

/-- A source and a reference are held; then the file is gone, and the ignore file is no text. -/
theorem unchanged_of_failed_gone :
    let disk (es : List (String × FileTree)) : Disk := ⟨.folder [("p", .folder es)], ["p"]⟩
    let w := (disk [("a.py", .file [0x78])]).workspace (some (.absolute ["p"]))
    let w' := (disk [(".gitignore", .file [0xff])]).workspace (some (.absolute ["p"]))
    let settings : Settings.Context := ⟨2, 50000, 3000, ["py"], []⟩
    let s := ((start ⟨settings, ["log"]⟩).after (.refresh w)).after (.addReference w "a.py")
    s.Reachable ∧ s.sources = [⟨"/p/a.py", "a.py", "x", .source, false⟩] ∧
    s.references.files = [⟨"/p/a.py", "a.py", "x", .reference, false⟩] ∧
    ∀ c ∈ [Call.refresh w', .saved w' "a.py", .addReference w' "a.py",
        .removeReference ["p"] "b.py",
        .update [("max_context_files", .int 5), ("max_prompt_length", .int 0)]],
      (c.steps.run ⟨s, []⟩).2 = ⟨s, []⟩ := by
  intro disk w w' settings s
  have hvalid : settings.Valid := ⟨by decide, by decide, by decide⟩
  have hs : s.Reachable := .call _ (.call _ (.start hvalid))
  have hcontext : s.context = settings := by decide +kernel
  have hsearch : SearchFails s w' := by
    rw [SearchFails, hcontext]
    exact ⟨rfl, by cbv⟩
  have hreferences : s.references.files = [⟨"/p/a.py", "a.py", "x", .reference, false⟩] := by
    decide +kernel
  refine ⟨hs, by decide +kernel, hreferences, fun c hc => ?_⟩
  obtain ⟨hiff, hsame, -⟩ := unchanged_of_failed hs [] c
  refine hsame (hiff.mpr ?_)
  simp only [List.mem_cons, List.not_mem_nil, or_false] at hc
  rcases hc with rfl | rfl | rfl | rfl | rfl
  · exact hsearch
  · exact fun _ => hsearch
  · exact ⟨.missing, by decide +kernel⟩
  · show ∀ f ∈ s.references.files, f.path ≠ _
    rw [hreferences]
    decide +kernel
  · exact .inr fun new h => by
      have hlimit : Settings.limit (.int 0) = .ok new.maxPromptLength := h.maxPromptLength
      cases hlimit

end Session
end CodeBrief
