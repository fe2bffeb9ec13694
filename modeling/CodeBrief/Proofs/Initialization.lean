import CodeBrief.Proofs.SettingChange

/-!
# A project is set up once

`init` loads the settings of a project, puts its name and root into them and saves
them. What it saves is loaded again as it was saved, since the limits came from a
file that the reader took, and its name and root are those of the project already.
So a second run saves the same settings where they are, and saving what is there
changes nothing on the disk (`save_of_keeps`).

Whatever the file was that was loaded first, with members that no one reads, limits
written as texts or any spacing, one run turns it into the one text that stands
for its settings.
-/

namespace CodeBrief.Command

open Settings (Keeps Project defaultContext filePath folderPath load save)
open Terminal (Markup.shown Vocabulary)
open Text (Wide)

variable {terminal : Vocabulary} {c : Console} {d : Disk} {root : Path} {p : Project} {path : Option String}
  {words : List String}

/-! ## The words -/

/-- Options whose values may be any text are what they should be. -/
theorem checkOptions_eq_ok (d : Disk) (g : Given) {flags : List Flag}
    (h : ∀ f ∈ flags, ∀ k, f.kind = some k → k = .text) : checkOptions d g flags = .ok () := by
  induction flags with
  | nil => rfl
  | cons f rest ih =>
      have hrest := ih fun f hf => h f (List.mem_cons_of_mem _ hf)
      rw [checkOptions]
      split
      · next v k _ hk =>
          rw [h f List.mem_cons_self k hk]
          exact hrest
      · exact hrest

/-- None of the operands or options of `init` is a file that has to be there. -/
theorem readIn_init (d d' : Disk) (build : Given → Command) (words : List String) :
    readIn d initForm build words = readIn d' initForm build words := by
  have hoptions (d : Disk) (g : Given) : checkOptions d g initForm.flags = .ok () := by
    refine checkOptions_eq_ok d g fun f hf k hk => ?_
    rcases List.mem_cons.mp hf with rfl | hf
    · exact (Option.some.inj hk).symm
    · rw [List.mem_singleton.mp hf] at hk
      cases hk
  have hcheck (g : Given) : g.check d initForm = g.check d' initForm := by
    rw [Given.check, Given.check, hoptions, hoptions]
    cases g.words <;> rfl
  simp only [readIn, hcheck]

theorem ofSettings_ne_init (g : Given) (path : Option String) : ofSettings g ≠ .init path := by
  rw [ofSettings.eq_def]
  simp only []
  split <;> nofun

theorem shown?_ne_init {help : String} {g : Given} {path : Option String} :
    shown? help g ≠ some (.init path) := by
  intro h
  obtain ⟨o, -, ho⟩ := List.exists_of_findSome?_eq_some h
  split at ho
  · cases ho
  · split at ho
    · cases ho
    · cases ho

theorem build_of_readIn {d : Disk} {form : Form} {build : Given → Command} {words : List String}
    {path : Option String} (h : readIn d form build words = .ok (.init path)) :
    ∃ g, build g = .init path := by
  rw [readIn] at h
  simp only [bind, Except.bind] at h
  split at h
  · cases h
  · next g _ =>
      split at h
      · next command hshown =>
          cases h
          exact absurd hshown shown?_ne_init
      · split at h
        · cases h
        · exact ⟨g, Except.ok.inj h⟩

/-- Of all commands only `init` sets up a project. -/
theorem named?_init {name : String} {form : Form} {build : Given → Command}
    (h : named? name = some (form, build)) :
    form = initForm ∨ ∀ g path, build g ≠ .init path := by
  rw [named?.eq_def] at h
  split at h <;> cases h
  case h_3 => exact .inl rfl
  case h_1 => exact .inr ofSettings_ne_init
  all_goals exact .inr nofun

theorem readNamed_init {d : Disk} (d' : Disk) {g : Given} {path : Option String}
    (h : Request.readNamed d g = .ok (.init path)) : Request.readNamed d' g = .ok (.init path) := by
  rw [Request.readNamed.eq_def] at h ⊢
  split at h
  · cases h
  · next name rest hwords =>
      split at h
      · next form build hnamed =>
          rcases named?_init hnamed with rfl | hother
          · rw [readIn_init d' d, h]
          · cases hread : readIn d form build rest with
            | error what =>
                rw [hread] at h
                cases h
            | ok command =>
                rw [hread] at h
                cases h
                obtain ⟨g, hg⟩ := build_of_readIn hread
                exact absurd hg (hother g path)
      · split at h <;> cases h

/-- What a command line says of setting up a project does not depend on the disk. -/
theorem read_init {d : Disk} (d' : Disk) {words : List String} {verbose : Bool} {path : Option String}
    (h : Request.read d words = .ok ⟨verbose, .init path⟩) :
    Request.read d' words = .ok ⟨verbose, .init path⟩ := by
  rw [Request.read] at h ⊢
  split at h
  · cases h
  · next hwords =>
      rw [if_neg hwords]
      split at h
      · cases h
      · next g _ =>
          split at h
          · next command hshown =>
              cases h
              exact absurd hshown shown?_ne_init
          · cases hnamed : Request.readNamed d g with
            | error why =>
                rw [hnamed] at h
                cases h
            | ok command =>
                rw [hnamed] at h
                cases h
                rw [readNamed_init d' hnamed]
                rfl

/-- A command line that sets up the project at a root. -/
def SetsUp (d : Disk) (words : List String) (root : Path) : Prop :=
  ∃ verbose path, Request.read d words = .ok ⟨verbose, .init path⟩ ∧
    d.resolve (Path.ofString (path.getD ".")) = root

/-- The project at any path can be set up. -/
theorem setsUp_path (d : Disk) (path : String) :
    SetsUp d ["init", "--path", path] (d.resolve (Path.ofString path)) := by
  refine ⟨false, (some path).filter (· ≠ ""), rfl, ?_⟩
  by_cases h : path = ""
  · rw [h]
    rfl
  · rw [show (some path).filter (· ≠ "") = some path by simp [h], Option.getD_some]

/-- A command line sets up the same project on every disk that is seen from the same folder. -/
theorem SetsUp.of_cwd {d' : Disk} (h : SetsUp d words root) (hcwd : d'.cwd = d.cwd) :
    SetsUp d' words root := by
  obtain ⟨verbose, path, hread, hroot⟩ := h
  refine ⟨verbose, path, read_init d' hread, ?_⟩
  rw [Disk.resolve, hcwd]
  exact hroot

/-! ## The run -/

/-- Settings with the name and the root of the project that they are for. -/
def placedAt (root : Path) (p : Project) : Project :=
  { p with name := root.name, rootPath := root.text }

/-- What is told when a project has been set up. -/
def setUpMessage (root : Path) : Wide :=
  Wide.after "✓ " ("Configuration saved to " ++ (folderPath root).text : String)

/-- The console after the greeting. -/
def greeted (c : Console) : Console :=
  { c with output := c.output ++ String.ofList (Terminal.unlines Run.banner) }

section Run

variable (hroot : c.disk.resolve (Path.ofString (path.getD ".")) = root)

include hroot

/-- A root that does not exist ends the run. -/
theorem exists_init_run_of_missing (hmissing : c.disk.exists? root = false) :
    ∃ stop c', (Run.init path).run c = (.error stop, c') := by
  obtain ⟨stop, c', hfail, -⟩ :=
    exists_fail_run (α := Unit) ("Path does not exist: " ++ root.text) c
  refine ⟨stop, c', ?_⟩
  rw [Run.init, run_bind, Settings.get_run]
  simp only [hroot, hmissing, Bool.not_false, if_true, run_bind, hfail]

theorem init_run_of_load (hexists : c.disk.exists? root = true) (hload : load c.disk root = .ok p) :
    (Run.init path).run c =
      match save c.disk root (placedAt root p) with
      | .error why => (.error (.crashed (.settingsUnsaved why)), greeted c)
      | .ok disk =>
          (Run.succeed .output ("Configuration saved to " ++ (folderPath root).text)).run
            { greeted c with disk } := by
  have hbanner : (Run.printLines .output Run.banner).run c = (.ok (), greeted c) := rfl
  have hloaded : (Run.loadSettings root).run (greeted c) = (.ok p, greeted c) := by
    rw [Settings.loadSettings_run, show (greeted c).disk = c.disk from rfl, hload]
    rfl
  rw [Run.init, run_bind, Settings.get_run]
  simp only [hroot, hexists, Bool.not_true, Bool.false_eq_true, if_false, run_bind, hbanner,
    hloaded, saveSettings_run]
  rw [show (greeted c).disk = c.disk from rfl, placedAt]
  cases save c.disk root { p with name := root.name, rootPath := root.text } <;> rfl

/-- A run ends well exactly if the root exists, the settings can be saved there with its name and
root, and it can be told that they were. Then that is what was done to the disk. -/
theorem init_done_iff (hload : load c.disk root = .ok p) {d' : Disk} :
    (((Run.init path).outcome c).ending.status = 0 ∧
        ((Run.init path).outcome c).console.disk = d') ↔
      c.disk.exists? root = true ∧ save c.disk root (placedAt root p) = .ok d' ∧
        ∃ text, Markup.shown c.terminal (setUpMessage root) = .ok text := by
  cases hexists : c.disk.exists? root with
  | false =>
      obtain ⟨stop, c', hrun⟩ := exists_init_run_of_missing hroot hexists
      simp [(outcome_of_error hrun).2]
  | true =>
      have hrun := init_run_of_load hroot hexists hload
      cases hsave : save c.disk root (placedAt root p) with
      | error why =>
          rw [hsave] at hrun
          simp [(outcome_of_error hrun).2]
      | ok disk =>
          rw [hsave] at hrun
          simp only [succeed_run] at hrun
          rw [← setUpMessage] at hrun
          cases hshown : Markup.shown c.terminal (setUpMessage root) with
          | error why =>
              simp only [show (greeted c).terminal = c.terminal from rfl, hshown] at hrun
              simp [(outcome_of_error hrun).2]
          | ok text =>
              simp only [show (greeted c).terminal = c.terminal from rfl, hshown] at hrun
              rw [outcome_eq, hrun]
              simp [Ending.status]

end Run

/-! ## The command -/

theorem run_done_iff (hsets : SetsUp d words root) (hload : load d root = .ok p) {d' : Disk} :
    ((run terminal d words).ending.status = 0 ∧ (run terminal d words).console.disk = d') ↔
      d.exists? root = true ∧ save d root (placedAt root p) = .ok d' ∧
        ∃ text, Markup.shown terminal (setUpMessage root) = .ok text := by
  obtain ⟨verbose, path, hread, hroot⟩ := hsets
  rw [run_of_read hread]
  exact @init_done_iff { terminal, disk := d, verbose } root p path hroot hload d'

theorem cwd_of_save {d' : Disk} (h : save d root p = .ok d') : d'.cwd = d.cwd := by
  obtain ⟨_, _, _, _, _, _, rfl⟩ := Settings.save_eq_ok h
  rfl

/-- The disks that further runs lead to, each of which sets up the project at a root. -/
inductive Rerun (terminal : Vocabulary) (root : Path) (d : Disk) : Disk → Prop where
  | none : Rerun terminal root d d
  | more {d' : Disk} {words : List String} (before : Rerun terminal root d d')
      (setsUp : SetsUp d' words root) : Rerun terminal root d (run terminal d' words).console.disk

/-- A run that ends well leaves the settings of the project as they were loaded, the defaults if
there was no file, with its name and root. The same command line sets up the project on the disk
that it leaves; every further run ends well, and none changes anything on that disk. The project at
any path can be set up so. -/
theorem init_settles (hsets : SetsUp d words root) (hload : load d root = .ok p)
    (hdone : (run terminal d words).ending.status = 0) :
    let settled := (run terminal d words).console.disk
    load settled root = .ok ⟨root.name, root.text, p.context⟩ ∧
    ((∀ t, d.lookUp (filePath root) ≠ .ok t) → p.context = defaultContext) ∧
    SetsUp settled words root ∧
    (∀ words, SetsUp settled words root → (run terminal settled words).ending.status = 0) ∧
    (∀ d', Rerun terminal root settled d' → d' = settled) ∧
    ∀ d path, SetsUp d ["init", "--path", path] (d.resolve (Path.ofString path)) := by
  intro settled
  obtain ⟨-, hsave, hshown⟩ := (run_done_iff hsets hload).mp ⟨hdone, rfl⟩
  have hlasting : (placedAt root p).Lasting :=
    ⟨(Settings.lasting_of_load hload).valid, (Settings.lasting_of_load hload).digits⟩
  have hloaded : load settled root = .ok (placedAt root p) := hlasting.load_of_save hsave
  have hkeeps : Keeps settled root (placedAt root p) := Settings.keeps_of_save hsave
  have hagain {words : List String} (h : SetsUp settled words root) :
      (run terminal settled words).ending.status = 0 ∧
        (run terminal settled words).console.disk = settled :=
    (run_done_iff h hloaded).mpr
      ⟨Settings.exists_of_keeps hkeeps, Settings.save_of_keeps hkeeps, hshown⟩
  refine ⟨hloaded, fun hnone => ?_, hsets.of_cwd (cwd_of_save hsave), fun words h => (hagain h).1,
    fun d' h => ?_, setsUp_path⟩
  · rw [load] at hload
    split at hload
    · cases hload
      rfl
    · next hfolder => exact absurd hfolder (hnone _)
    · next hfile => exact absurd hfile (hnone _)
  · induction h with
    | none => rfl
    | more _ setsUp ih =>
        rw [ih] at setsUp ⊢
        exact (hagain setsUp).2

/-- A settings file that says nothing, which is not how its settings are saved. -/
theorem init_settles_empty_file :
    let root := Path.absolute ["srv"]
    let settled := (run Terminal.standard emptyProject ["init"]).console.disk
    SetsUp emptyProject ["init"] root ∧
    load emptyProject root = .ok ⟨"", ".", defaultContext⟩ ∧
    (run Terminal.standard emptyProject ["init"]).ending.status = 0 ∧
    load settled root = .ok ⟨"srv", "/srv", defaultContext⟩ ∧
    (run Terminal.standard settled ["init"]).console.disk = settled := by
  intro root settled
  have hsets : SetsUp emptyProject ["init"] root := ⟨false, none, rfl, rfl⟩
  have hload : load emptyProject root = .ok ⟨"", ".", defaultContext⟩ := by cbv
  have hending : (run Terminal.standard emptyProject ["init"]).ending = .success := by
    decide +kernel
  have hdone : (run Terminal.standard emptyProject ["init"]).ending.status = 0 := by
    rw [hending]
    rfl
  obtain ⟨hloaded, -, hagain, -, hsettled, -⟩ := init_settles hsets hload hdone
  exact ⟨hsets, hload, hdone, hloaded, hsettled _ (.more .none hagain)⟩

end CodeBrief.Command
