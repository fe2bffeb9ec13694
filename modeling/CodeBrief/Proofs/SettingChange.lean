import Mathlib
import CodeBrief.Proofs.LoadedSettings
import CodeBrief.Proofs.ReadNumbers

/-!
# A setting is changed and then told

`config set` saves the changed settings and then prints what it has set. Whatever goes
wrong before the settings are saved leaves the disk as it was; saving is the last
thing that can change it. What is printed is a message with markup, though, and
repeats the value as the user typed it. A value that closes a tag which is not
open cannot be shown, and neither can a string with half of a surrogate pair, so the
run crashes with the change made. That is the only way to a failure that leaves a
trace, whatever else the terminal refuses to show (`setSetting_told`).

Settings that are saved are loaded again, since their limits came from texts that the
reader takes (`Settings.Project.Lasting`).
-/

namespace CodeBrief.Command

open Json (Value)
open Settings (Project filePath load save)
open Terminal (Markup.shown Vocabulary)
open Text (Wide)

variable {terminal : Vocabulary} {c : Console} {d : Disk} {root : Path} {p q : Project} {path key : Option String}
  {word k : String} {v : Value}

/-! ## The words -/

/-- The words of a command that sets a value; behind two dashes any key and value may stand. -/
theorem read_set_dashes (d : Disk) (key word : String) :
    Request.read d ["config", "set", "--", key, word] =
      .ok ⟨false, .setSetting none ((some key).filter (· ≠ "")) (some word)⟩ := rfl

/-- The value that a word stands for: what it spells, or else itself as a text; `none` if a number in
it is too long or its values are nested too deep. -/
def typed? (word : String) : Option Value :=
  match Json.read word.toList with
  | .ok v => some v
  | .error (.syntaxAt ..) => some (.str word)
  | .error .numberTooLong | .error .nestedTooDeep => none

theorem short_of_typed? (h : typed? word = some v) : v.Short := by
  rw [typed?] at h
  split at h
  · next w hread =>
      cases h
      exact Json.short_of_read hread
  · cases h
    exact .str word
  · cases h
  · cases h

/-- A key and a word ask for a value at a key, with which the settings `p` become `q`. -/
structure Asks (p : Project) (key : Option String) (word k : String) (v : Value) (q : Project) :
    Prop where
  key : key = some k
  typed : typed? word = some v
  set : p.set k v = .ok q

theorem Asks.unique {k' : String} {v' : Value} {q' : Project} (h : Asks p key word k v q)
    (h' : Asks p key word k' v' q') : k = k' ∧ v = v' ∧ q = q' := by
  obtain ⟨rfl, hv, hq⟩ := h
  obtain ⟨hkey, hv', hq'⟩ := h'
  cases hkey
  cases hv.symm.trans hv'
  cases hq.symm.trans hq'
  exact ⟨rfl, rfl, rfl⟩

/-- Settings that are changed by a typed value are loaded as they were saved. -/
theorem Asks.load_of_save {d' : Disk} (h : Asks p key word k v q) (hload : load d root = .ok p)
    (hsave : save d root q = .ok d') : load d' root = .ok q :=
  ((Settings.lasting_of_load hload).set (short_of_typed? h.typed) h.set).load_of_save hsave

/-! ## The parts of the run -/

/-- What is told when a value has been set. -/
def setMessage (key : String) (v : Value) : Wide :=
  (v.display.after ("Set " ++ key ++ " = ")).after "✓ "

theorem typedValue_run_of_some (h : typed? word = some v) (c : Console) :
    (Run.typedValue word).run c = (.ok v, c) := by
  rw [typed?] at h
  rw [Run.typedValue]
  cases hread : Json.read word.toList with
  | ok w =>
      rw [hread] at h
      cases h
      rfl
  | error fault =>
      rw [hread] at h
      cases fault with
      | syntaxAt what left =>
          cases h
          rfl
      | numberTooLong => cases h
      | nestedTooDeep => cases h

/-- A word that stands for no value crashes the run. -/
theorem exists_typedValue_run_of_none (h : typed? word = none) (c : Console) :
    ∃ why, (Run.typedValue word).run c = (.error (.crashed why), c) := by
  rw [typed?] at h
  rw [Run.typedValue]
  cases hread : Json.read word.toList with
  | ok w =>
      rw [hread] at h
      cases h
  | error fault =>
      rw [hread] at h
      cases fault with
      | syntaxAt what left => cases h
      | numberTooLong => exact ⟨_, rfl⟩
      | nestedTooDeep => exact ⟨_, rfl⟩

theorem saveSettings_run (root : Path) (q : Project) (c : Console) :
    (Run.saveSettings root q).run c =
      match save c.disk root q with
      | .ok disk => (.ok (), { c with disk })
      | .error why => (.error (.crashed (.settingsUnsaved why)), c) := by
  rw [Run.saveSettings, run_bind, Settings.get_run]
  simp only []
  cases save c.disk root q <;> rfl

theorem succeed_run (message : Wide) (c : Console) :
    (Run.succeed .output message).run c =
      match Markup.shown c.terminal (message.after "✓ ") with
      | .ok text => (.ok (), { c with output := c.output ++ String.ofList (Terminal.paragraph text) })
      | .error why => (.error (.crashed (.unshown why)), c) :=
  Settings.say_run .output (message.after "✓ ") c

/-- Whatever becomes of a report, the run ends and the disk stays. -/
theorem exists_fail_run {α : Type} (message : String) (c : Console) :
    ∃ stop c', (Run.fail message : Run α).run c = (.error stop, c') ∧ c'.disk = c.disk := by
  rw [Settings.fail_run]
  cases Markup.shown c.terminal ("✗ " ++ message : String) <;> exact ⟨_, _, rfl, rfl⟩

/-! ## The run -/

section Run

variable (hroot : (Run.projectRoot path).run c = (.ok root, c)) (hload : load c.disk root = .ok p)

include hroot hload

theorem setSetting_run (key : Option String) (word : String) :
    (Run.setSetting path key (some word)).run c =
      (match key with
        | some key => do
            let v ← Run.typedValue word
            match p.set key v with
            | .ok q =>
                Run.saveSettings root q
                Run.succeed .output (v.display.after ("Set " ++ key ++ " = "))
            | .error refusal => Run.fail (Run.refusalMessage refusal)
        | none => Run.fail "Usage: promptpack config set <key> <value>").run c := by
  rw [Run.setSetting, run_bind, hroot]
  simp only [run_bind, Settings.loadSettings_run, hload]
  cases key <;> rfl

/-- A change that is accepted is saved, and then told if it can be. -/
theorem Asks.run (h : Asks p key word k v q) :
    (Run.setSetting path key (some word)).run c =
      match save c.disk root q with
      | .error why => (.error (.crashed (.settingsUnsaved why)), c)
      | .ok disk =>
          match Markup.shown c.terminal (setMessage k v) with
          | .ok text =>
              (.ok (), { c with disk, output := c.output ++ String.ofList (Terminal.paragraph text) })
          | .error why => (.error (.crashed (.unshown why)), { c with disk }) := by
  obtain ⟨rfl, hv, hq⟩ := h
  rw [setSetting_run hroot hload]
  simp only [run_bind, typedValue_run_of_some hv, hq, saveSettings_run]
  cases save c.disk root q with
  | error why => rfl
  | ok disk => exact succeed_run _ _

/-- A change that is not accepted ends the run, and the disk stays. -/
theorem exists_run_of_not_asks (h : ∀ k v q, ¬Asks p key word k v q) :
    ∃ stop c', (Run.setSetting path key (some word)).run c = (.error stop, c') ∧ c'.disk = c.disk := by
  rw [setSetting_run hroot hload]
  cases key with
  | none => exact exists_fail_run _ c
  | some k =>
      simp only [run_bind]
      cases hv : typed? word with
      | none =>
          obtain ⟨why, hrun⟩ := exists_typedValue_run_of_none hv c
          rw [hrun]
          exact ⟨_, _, rfl, rfl⟩
      | some v =>
          rw [typedValue_run_of_some hv]
          simp only []
          cases hq : p.set k v with
          | ok q => exact absurd ⟨rfl, hv, hq⟩ (h k v q)
          | error refusal => exact exists_fail_run _ c

end Run

/-! ## The command -/

theorem outcome_eq (run : Run Unit) (c : Console) :
    run.outcome c =
      match run.run c with
      | (.ok (), c') => ⟨.success, c'⟩
      | (.error .reported, c') => ⟨.reported, c'⟩
      | (.error (.crashed why), c') => ⟨.crashed why, c'⟩ := rfl

theorem outcome_of_error {run : Run Unit} {c' : Console} {stop : Stop}
    (h : run.run c = (.error stop, c')) :
    (run.outcome c).console = c' ∧ (run.outcome c).ending.status ≠ 0 := by
  rw [outcome_eq, h]
  cases stop <;> exact ⟨rfl, Nat.one_ne_zero⟩

theorem run_of_read {words : List String} {request : Request}
    (h : Request.read d words = .ok request) :
    run terminal d words =
      (Run.command request.command).outcome { terminal, disk := d, verbose := request.verbose } := by
  rw [run, h]

/-- What can become of a change of settings. -/
inductive Changed (terminal : Vocabulary) (d : Disk) (root : Path) (p : Project)
    (key : Option String) (word : String) (o : Outcome) : Prop where
  | told {k : String} {v : Value} {q : Project} {text : List Char} (asks : Asks p key word k v q)
      (shown : Markup.shown terminal (setMessage k v) = .ok text)
      (ending : o.ending = .success) (saved : save d root q = .ok o.console.disk)
  | untold {k : String} {v : Value} {q : Project} {why : Terminal.Trouble}
      (asks : Asks p key word k v q) (shown : Markup.shown terminal (setMessage k v) = .error why)
      (ending : o.ending = .crashed (.unshown why)) (saved : save d root q = .ok o.console.disk)
  | failed (unsaved : ∀ k v q d', Asks p key word k v q → save d root q ≠ .ok d')
      (ending : o.ending.status ≠ 0) (disk : o.console.disk = d)

/-- A change that is saved but cannot be told crashes the command. -/
theorem Changed.crashed {d' : Disk} {o : Outcome} {why : Terminal.Trouble}
    (h : Changed terminal d root p key word o) (hasks : Asks p key word k v q)
    (hfails : Markup.shown terminal (setMessage k v) = .error why) (hsave : save d root q = .ok d') :
    o.ending = .crashed (.unshown why) ∧ o.console.disk = d' := by
  cases h with
  | told asks shown =>
      obtain ⟨rfl, rfl, -⟩ := hasks.unique asks
      cases hfails.symm.trans shown
  | untold asks shown ending saved =>
      obtain ⟨rfl, rfl, rfl⟩ := hasks.unique asks
      cases hfails.symm.trans shown
      cases hsave.symm.trans saved
      exact ⟨ending, rfl⟩
  | failed unsaved => exact absurd hsave (unsaved k v q d' hasks)

theorem changed_outcome (hroot : (Run.projectRoot path).run c = (.ok root, c))
    (hload : load c.disk root = .ok p) (key : Option String) (word : String) :
    Changed c.terminal c.disk root p key word
      ((Run.setSetting path key (some word)).outcome c) := by
  by_cases hasks : ∃ k v q, Asks p key word k v q
  · obtain ⟨k, v, q, hasks⟩ := hasks
    have hrun := hasks.run hroot hload
    cases hsave : save c.disk root q with
    | error why =>
        rw [hsave] at hrun
        obtain ⟨hconsole, hstatus⟩ := outcome_of_error hrun
        refine .failed (fun k' v' q' d' hasks' hsave' => ?_) hstatus (by rw [hconsole])
        obtain ⟨-, -, rfl⟩ := hasks.unique hasks'
        cases hsave.symm.trans hsave'
    | ok d' =>
        rw [hsave] at hrun
        cases hshown : Markup.shown c.terminal (setMessage k v) with
        | ok text =>
            simp only [hshown] at hrun
            rw [outcome_eq, hrun]
            exact .told hasks hshown rfl hsave
        | error why =>
            simp only [hshown] at hrun
            rw [outcome_eq, hrun]
            exact .untold hasks hshown rfl hsave
  · have hnot : ∀ k v q, ¬Asks p key word k v q := fun k v q h => hasks ⟨k, v, q, h⟩
    obtain ⟨stop, c', hrun, hdisk⟩ := exists_run_of_not_asks hroot hload hnot
    obtain ⟨hconsole, hstatus⟩ := outcome_of_error hrun
    exact .failed (fun k v q _ h => absurd h (hnot k v q)) hstatus (by rw [hconsole, hdisk])

variable {words : List String} {verbose : Bool}

theorem changed_run (hread : Request.read d words = .ok ⟨verbose, .setSetting path key (some word)⟩)
    (hroot : (Run.projectRoot path).run { terminal, disk := d, verbose } =
      (.ok root, { terminal, disk := d, verbose }))
    (hload : load d root = .ok p) : Changed terminal d root p key word (run terminal d words) := by
  rw [run_of_read hread]
  exact changed_outcome hroot hload key word

/-- A command that ends well has changed the settings as it was asked to, and they are loaded so. One
that fails leaves the disk as it was, if the message about an accepted change can be shown. If it
cannot, the change is made all the same. -/
theorem setSetting_told
    (hread : Request.read d words = .ok ⟨verbose, .setSetting path key (some word)⟩)
    (hroot : (Run.projectRoot path).run { terminal, disk := d, verbose } =
      (.ok root, { terminal, disk := d, verbose }))
    (hload : load d root = .ok p) :
    let o := run terminal d words
    (o.ending.status = 0 → ∃ k v q, Asks p key word k v q ∧ load o.console.disk root = .ok q) ∧
    ((∀ k v q, Asks p key word k v q → ∃ text, Markup.shown terminal (setMessage k v) = .ok text) →
      o.ending.status ≠ 0 → o.console.disk = d) ∧
    (∀ k v q d' why, Asks p key word k v q → Markup.shown terminal (setMessage k v) = .error why →
      save d root q = .ok d' →
        o.ending = .crashed (.unshown why) ∧ o.console.disk = d' ∧ load d' root = .ok q) ∧
    ∀ d key word, Request.read d ["config", "set", "--", key, word] =
      .ok ⟨false, .setSetting none ((some key).filter (· ≠ "")) (some word)⟩ := by
  intro o
  have hchanged : Changed terminal d root p key word o := changed_run hread hroot hload
  refine ⟨fun hzero => ?_, fun hshown hfail => ?_, fun k v q d' why hasks hfails hsave => ?_,
    read_set_dashes⟩
  · cases hchanged with
    | told asks _ _ saved => exact ⟨_, _, _, asks, asks.load_of_save hload saved⟩
    | untold _ _ ending => rw [ending] at hzero; cases hzero
    | failed _ ending => exact absurd hzero ending
  · cases hchanged with
    | told _ _ ending => rw [ending] at hfail; exact absurd rfl hfail
    | untold asks shown =>
        obtain ⟨text, htext⟩ := hshown _ _ _ asks
        cases shown.symm.trans htext
    | failed _ _ disk => exact disk
  · obtain ⟨hending, hdisk⟩ := hchanged.crashed hasks hfails hsave
    exact ⟨hending, hdisk, hasks.load_of_save hload hsave⟩

/-- A value that is a string, but no text, is accepted and cannot be told. -/
example : typed? "\"\\ud800\"" = some (.str (.ofPoints [.high 0])) ∧
    Markup.shown Terminal.standard (setMessage "name" (.str (.ofPoints [.high 0]))) =
      .error .unencodable :=
  ⟨by cbv, rfl⟩

/-- The disk of a project that says nothing in its settings file, seen from its root. -/
def emptyProject : Disk :=
  { Settings.diskWith [0x7b, 0x7d] with cwd := ["srv"] }

/-- A limit that is given as a number. -/
theorem setSetting_told_limit :
    let root := Path.absolute ["srv"]
    let o := run Terminal.standard emptyProject ["config", "set", "context.max_context_files", "5"]
    load emptyProject root = .ok Settings.defaultProject ∧ o.ending = .success ∧
    load o.console.disk root = .ok ⟨"", ".", { Settings.defaultContext with maxFiles := 5 }⟩ := by
  intro root o
  have hload : load emptyProject root = .ok Settings.defaultProject := by cbv
  have hread : Request.read emptyProject ["config", "set", "context.max_context_files", "5"] =
    .ok ⟨false, .setSetting none (some "context.max_context_files") (some "5")⟩ := rfl
  have hending : o.ending = .success := by decide +kernel
  have hroot : (Run.projectRoot none).run { terminal := Terminal.standard, disk := emptyProject } =
    (.ok root, { terminal := Terminal.standard, disk := emptyProject }) := rfl
  obtain ⟨hdone, -⟩ := setSetting_told hread hroot hload
  have hzero : o.ending.status = 0 := by rw [hending]; rfl
  obtain ⟨k, v, q, ⟨hkey, hv, hq⟩, hloaded⟩ := hdone hzero
  cases hkey
  cases (show typed? "5" = some (.int 5) by cbv).symm.trans hv
  have hset : Settings.defaultProject.set "context.max_context_files" (.int 5) =
      .ok ⟨"", ".", { Settings.defaultContext with maxFiles := 5 }⟩ := by cbv
  cases hset.symm.trans hq
  exact ⟨hload, hending, hloaded⟩

/-- A name that closes a tag which is not open: the command fails, and its settings file is another. -/
theorem setSetting_closing_tag :
    let root := Path.absolute ["srv"]
    let o := run Terminal.standard emptyProject ["config", "set", "name", "[/x]"]
    load emptyProject root = .ok Settings.defaultProject ∧
    ¬(o.ending.status ≠ 0 →
      o.console.disk.lookUp (filePath root) = emptyProject.lookUp (filePath root)) := by
  intro root o
  have hload : load emptyProject root = .ok Settings.defaultProject := by cbv
  have hread : Request.read emptyProject ["config", "set", "name", "[/x]"] =
    .ok ⟨false, .setSetting none (some "name") (some "[/x]")⟩ := rfl
  have hasks : Asks Settings.defaultProject (some "name") "[/x]" "name" (.str "[/x]")
      { Settings.defaultProject with name := "[/x]" } := ⟨rfl, by cbv, by cbv⟩
  have hfails : Markup.shown Terminal.standard (setMessage "name" (.str "[/x]")) =
    .error .unmatchedTag := rfl
  obtain ⟨d', hsave⟩ : ∃ d', save emptyProject root { Settings.defaultProject with name := "[/x]" } =
    .ok d' := ⟨_, rfl⟩
  obtain ⟨hending, hdisk⟩ := (changed_run hread rfl hload).crashed hasks hfails hsave
  refine ⟨hload, fun hsame => ?_⟩
  have hfile := hsame (by rw [hending]; decide)
  have hloaded := hasks.load_of_save hload hsave
  -- The same file would be loaded as the same settings.
  rw [hdisk] at hfile
  rw [load, hfile, ← load, hload] at hloaded
  have hname : ("" : Wide) = "[/x]" := congrArg Project.name (Except.ok.inj hloaded)
  exact absurd hname (by decide)

end CodeBrief.Command
