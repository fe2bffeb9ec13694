import Mathlib.Data.List.Induction
import CodeBrief.Proofs.Settings
import CodeBrief.Settings.Live

/-!
# Live settings over a run of calls

Settings in use are changed as a whole or not at all. To say so, what is done to
them is written down one step at a time (`Live.Steps`): names are looked up, the
merged values are checked, the result is installed, and only then are the
listeners told, each of the settings that stand there at that moment. What was
done before a refusal stays done, and a ledger keeps what has left the settings:
what listeners were told, and the copies that were handed out. Carried out in
steps, an update leaves what `Live.update` says, and a refused one has done
nothing yet (`update_run`).

What an update makes of one setting depends on the last value that the changes
give to its name alone (`get?_foldl_put`), because settings in use are valid and
pass their own check unchanged. That is the invariant of a run; everything else
that holds of an update holds after any run.
-/

namespace CodeBrief

open Json (Value)
open Text (Wide)

/-- A step that fails ends a row of steps, and what was done before it stays. -/
theorem run_bind {ε σ β γ : Type} (x : ExceptT ε (StateM σ) β) (f : β → ExceptT ε (StateM σ) γ)
    (s : σ) :
    (x >>= f).run s =
      match x.run s with
      | (.ok b, t) => (f b).run t
      | (.error e, t) => (.error e, t) := by
  show (let r := x.run s; ExceptT.bindCont f r.1 r.2) = _
  rcases x.run s with ⟨_ | _, t⟩ <;> rfl

/-! ## Members that are put one after another -/

namespace Json

variable {κ α : Type} [DecidableEq κ]

theorem get?_append (name : κ) (xs ys : List (κ × α)) :
    get? name (xs ++ ys) = (get? name xs).or (get? name ys) := by
  induction xs with
  | nil => rfl
  | cons m xs ih =>
      obtain ⟨n, v⟩ := m
      rw [List.cons_append, get?, get?]
      split
      · rfl
      · exact ih

theorem isSome_get? {name : κ} {ms : List (κ × α)} :
    (get? name ms).isSome = true ↔ name ∈ ms.map (·.1) := by
  induction ms with
  | nil => simp [get?]
  | cons m ms ih =>
      obtain ⟨n, v⟩ := m
      rw [get?, List.map_cons, List.mem_cons]
      split
      · next h => simp [h]
      · next h => rw [ih, or_iff_right (Ne.symm h)]

/-- Of several members of a name that are put, the last one counts. -/
theorem get?_foldl_put (name : String) (changes : List (String × α)) (ms : List (Wide × α)) :
    get? (name : Wide) (changes.foldl (fun ms m => put (m.1 : Wide) m.2 ms) ms) =
      (get? name changes.reverse).or (get? (name : Wide) ms) := by
  induction changes generalizing ms with
  | nil => rfl
  | cons m rest ih =>
      obtain ⟨n, v⟩ := m
      rw [List.foldl_cons, ih, List.reverse_cons, get?_append, Option.or_assoc]
      congr 1
      by_cases h : name = n
      · rw [h, get?_put_self, get?, if_pos rfl, Option.some_or]
      · have hwide : (name : Wide) ≠ n := fun heq => h (Wide.text.inj heq)
        rw [get?_put_of_ne hwide, get?, if_neg (Ne.symm h)]
        rfl

end Json

namespace Settings

open Check (Checked)

/-! ## What changes make of settings -/

/-- The value that changes give to a name: of several the last. -/
def given? (name : String) (changes : List (String × Value)) : Option Value :=
  Json.get? name changes.reverse

/-- A setting becomes the checked value that it is given, and stays if it is given none. -/
def Becomes {β : Type} (check : Value → Checked β) (given : Option Value) (old new : β) : Prop :=
  match given with
  | some v => check v = .ok new
  | none => new = old

/-- Settings in which exactly the named ones have changed, to their checked values. -/
structure Context.ChangedBy (changes : List (String × Value)) (old new : Context) : Prop where
  maxFiles : Becomes limit (given? "max_context_files" changes) old.maxFiles new.maxFiles
  maxPromptLength :
    Becomes limit (given? "max_prompt_length" changes) old.maxPromptLength new.maxPromptLength
  maxFileLength :
    Becomes limit (given? "max_file_content_length" changes) old.maxFileLength new.maxFileLength
  extensions : Becomes strings (given? "extensions" changes) old.extensions new.extensions
  excludePatterns :
    Becomes strings (given? "exclude_patterns" changes) old.excludePatterns new.excludePatterns

/-- Every changed name is that of a setting. -/
def Context.Knows (c : Context) (changes : List (String × Value)) : Prop :=
  ∀ m ∈ changes, (m.1 : Wide) ∈ c.members.map (·.1)

/-- A member that replaces one of settings in use is checked; one that stays is what it was. -/
theorem optional_put_eq_ok_iff {β : Type} {name : String} {check : Value → Checked β}
    {absent old new : β} {own : Value} {changes : List (String × Value)}
    {ms : List (Wide × Value)} (hown : Json.get? (name : Wide) ms = some own)
    (hold : check own = .ok old) :
    Check.optional name check absent
        (changes.foldl (fun ms m => Json.put (m.1 : Wide) m.2 ms) ms) = .ok new ↔
      Becomes check (given? name changes) old new := by
  rw [Check.optional, Checked.under_eq_ok, Json.get?_foldl_put, hown, ← given?]
  cases given? name changes with
  | some v => rfl
  | none =>
      show check own = .ok new ↔ new = old
      rw [hold, Except.ok.injEq, eq_comm]

theorem Context.check_eq_ok_iff {ms : List (Wide × Value)} {c : Context} :
    Context.check ms = .ok c ↔
      Check.optional "max_context_files" limit defaultContext.maxFiles ms = .ok c.maxFiles ∧
      Check.optional "max_prompt_length" limit defaultContext.maxPromptLength ms = .ok c.maxPromptLength ∧
      Check.optional "max_file_content_length" limit defaultContext.maxFileLength ms =
        .ok c.maxFileLength ∧
      Check.optional "extensions" strings defaultContext.extensions ms = .ok c.extensions ∧
      Check.optional "exclude_patterns" strings defaultContext.excludePatterns ms =
        .ok c.excludePatterns := by
  simp only [Context.check, Checked.app_eq_ok, Checked.map_eq_ok]
  constructor
  · rintro ⟨_, patterns, ⟨_, extensions, ⟨_, length, ⟨_, prompt, ⟨files, hfiles, rfl⟩, hprompt, rfl⟩,
      hlength, rfl⟩, hextensions, rfl⟩, hpatterns, rfl⟩
    exact ⟨hfiles, hprompt, hlength, hextensions, hpatterns⟩
  · rintro ⟨hfiles, hprompt, hlength, hextensions, hpatterns⟩
    exact ⟨_, _, ⟨_, _, ⟨_, _, ⟨_, _, ⟨_, hfiles, rfl⟩, hprompt, rfl⟩, hlength, rfl⟩, hextensions, rfl⟩,
      hpatterns, rfl⟩

/-- Changes to valid settings pass the check exactly if each setting that is given passes its own. -/
theorem Context.check_changes_iff {old new : Context} (hvalid : old.Valid)
    (changes : List (String × Value)) :
    Context.check (changes.foldl (fun ms m => Json.put (m.1 : Wide) m.2 ms) old.members) = .ok new ↔
      ChangedBy changes old new := by
  obtain ⟨hfiles, hprompt, hlength⟩ := hvalid
  rw [Context.check_eq_ok_iff, optional_put_eq_ok_iff rfl (limit_int hfiles),
    optional_put_eq_ok_iff rfl (limit_int hprompt), optional_put_eq_ok_iff rfl (limit_int hlength),
    optional_put_eq_ok_iff rfl (strings_list old.extensions),
    optional_put_eq_ok_iff rfl (strings_list old.excludePatterns)]
  exact ⟨fun ⟨h₁, h₂, h₃, h₄, h₅⟩ => ⟨h₁, h₂, h₃, h₄, h₅⟩,
    fun ⟨h₁, h₂, h₃, h₄, h₅⟩ => ⟨h₁, h₂, h₃, h₄, h₅⟩⟩

namespace Live

variable {α : Type}

theorem unknownName?_eq_none_iff {c : Context} {changes : List (String × Value)} :
    unknownName? c changes = none ↔ c.Knows changes := by
  rw [unknownName?, List.find?_eq_none, List.forall_mem_map, Context.Knows]
  refine forall₂_congr fun m _ => ?_
  rw [← Json.isSome_get?]
  cases Json.get? (m.1 : Wide) c.members <;> simp

theorem of_unknownName?_eq_some {c : Context} {changes : List (String × Value)} {name : String}
    (h : unknownName? c changes = some name) :
    name ∈ changes.map (·.1) ∧ (name : Wide) ∉ c.members.map (·.1) := by
  have hnone := List.find?_some h
  refine ⟨List.mem_of_find?_eq_some h, ?_⟩
  rw [← Json.isSome_get?]
  cases hget : Json.get? (name : Wide) c.members with
  | none => simp
  | some v =>
      rw [hget] at hnone
      cases hnone

/-! ## Updates step by step -/

/-- A copy that was handed out: of all settings in use, or of their limits. -/
inductive Copy where
  | context (c : Context)
  | limits (l : Limits)
  deriving DecidableEq, Repr

/-- Live settings, with what their listeners have been told and the copies that were handed out. -/
structure Ledger (α : Type) where
  live : Live α
  told : List (α × Context) := []
  copies : List Copy := []

/-- What is done to live settings, step by step. What was done before a refusal stays done. -/
abbrev Steps (α : Type) := ExceptT Refusal (StateM (Ledger α))

namespace Steps

/-- Refuses the first changed name that is no setting. -/
def checkNames (c : Context) : List (String × Value) → Steps α Unit
  | [] => return
  | m :: rest => do
      if (Json.get? (m.1 : Wide) c.members).isNone then throw (.unknownKey m.1)
      checkNames c rest

/-- Puts settings into use. -/
def install (c : Context) : Steps α Unit :=
  modify fun x => { x with live := { x.live with context := c } }

/-- Tells a listener of the settings in use. -/
def tell (listener : α) : Steps α Unit :=
  modify fun x => { x with told := x.told ++ [(listener, x.live.context)] }

/-- Changes settings by name; gives the settings that are then in use. -/
def update (changes : List (String × Value)) : Steps α Context := do
  let old := (← get).live.context
  checkNames old changes
  match Context.check (changes.foldl (fun ms m => Json.put (m.1 : Wide) m.2 ms) old.members) with
  | .error issues => throw (.invalidContext issues)
  | .ok new =>
      install new
      (← get).live.listeners.forM tell
      return (← get).live.context

theorem get_run (x : Ledger α) : (get : Steps α (Ledger α)).run x = (.ok x, x) := rfl

theorem install_run (c : Context) (x : Ledger α) :
    (install c).run x = (.ok (), { x with live := { x.live with context := c } }) := rfl

theorem checkNames_run (c : Context) (changes : List (String × Value)) (x : Ledger α) :
    (checkNames c changes).run x =
      match unknownName? c changes with
      | some name => (.error (.unknownKey name), x)
      | none => (.ok (), x) := by
  induction changes with
  | nil => rfl
  | cons m rest ih =>
      rw [checkNames, unknownName?, List.map_cons, List.find?_cons]
      cases (Json.get? (m.1 : Wide) c.members).isNone with
      | true => rfl
      | false => exact ih

/-- Listeners are told in order, and telling one changes nothing for the next. -/
theorem tell_run (listeners : List α) (x : Ledger α) :
    (listeners.forM tell).run x =
      (.ok (), { x with told := x.told ++ listeners.map fun l => (l, x.live.context) }) := by
  induction listeners generalizing x with
  | nil => rw [List.map_nil, List.append_nil]; rfl
  | cons l rest ih =>
      rw [List.map_cons, List.append_cons]
      exact ih { x with told := x.told ++ [(l, x.live.context)] }

end Steps

/-- The ledger in which the result of an update is entered; a refusal changes nothing. -/
def Ledger.enter (x : Ledger α) :
    Except Refusal (Live α × List (α × Context)) → Except Refusal Context × Ledger α
  | .ok (live, told) => (.ok live.context, { x with live, told := x.told ++ told })
  | .error why => (.error why, x)

/-- Carried out in steps, an update comes to what `Live.update` says. -/
theorem Steps.update_run (changes : List (String × Value)) (x : Ledger α) :
    (Steps.update changes).run x = x.enter (x.live.update changes) := by
  rw [Steps.update, run_bind, get_run]
  simp only
  rw [run_bind, checkNames_run, Live.update, changed]
  cases unknownName? x.live.context changes with
  | some name => rfl
  | none =>
      simp only
      split
      · next issues hcheck => rw [hcheck]; rfl
      · next new hcheck =>
          rw [hcheck]
          rw [run_bind, install_run]
          simp only
          rw [run_bind, get_run]
          simp only
          rw [run_bind, tell_run]
          rfl

/-- What an update comes to: the changes are made and then every registration is told of them, or
it is refused for a name or for a value, and nothing has been done. -/
inductive Updated (changes : List (String × Value)) (x : Ledger α) :
    Except Refusal Context → Ledger α → Prop
  | made {new : Context} (known : x.live.context.Knows changes)
      (changed : x.live.context.ChangedBy changes new) :
      Updated changes x (.ok new) { x with
        live := { x.live with context := new }
        told := x.told ++ x.live.listeners.map fun l => (l, new) }
  | unknown {name : String} (given : name ∈ changes.map (·.1))
      (unknown : (name : Wide) ∉ x.live.context.members.map (·.1)) :
      Updated changes x (.error (.unknownKey name)) x
  | invalid {issues : List Check.Issue} (known : x.live.context.Knows changes)
      (invalid : ∀ new, ¬x.live.context.ChangedBy changes new) :
      Updated changes x (.error (.invalidContext issues)) x

theorem Updated.of_valid {x : Ledger α} (hvalid : x.live.context.Valid)
    (changes : List (String × Value)) :
    let r := x.enter (x.live.update changes)
    Updated changes x r.1 r.2 := by
  rw [Live.update, changed]
  cases hnames : unknownName? x.live.context changes with
  | some name =>
      obtain ⟨hgiven, hunknown⟩ := of_unknownName?_eq_some hnames
      exact .unknown hgiven hunknown
  | none =>
      have hknown := unknownName?_eq_none_iff.mp hnames
      simp only
      cases hcheck : Context.check
          (changes.foldl (fun ms m => Json.put (m.1 : Wide) m.2 ms) x.live.context.members) with
      | ok new => exact .made hknown ((Context.check_changes_iff hvalid changes).mp hcheck)
      | error issues =>
          refine .invalid hknown fun new hnew => ?_
          cases hcheck.symm.trans ((Context.check_changes_iff hvalid changes).mpr hnew)

theorem Updated.refused_iff {changes : List (String × Value)} {x y : Ledger α}
    {reply : Except Refusal Context} (h : Updated changes x reply y) :
    (∃ why, reply = .error why) ↔
      ¬x.live.context.Knows changes ∨ ∀ new, ¬x.live.context.ChangedBy changes new := by
  cases h with
  | @made new known changed =>
      refine iff_of_false nofun ?_
      rintro (hunknown | hinvalid)
      · exact hunknown known
      · exact hinvalid new changed
  | unknown given unknown =>
      obtain ⟨m, hm, rfl⟩ := List.mem_map.mp given
      exact iff_of_true ⟨_, rfl⟩ (.inl fun known => unknown (known m hm))
  | invalid known invalid => exact iff_of_true ⟨_, rfl⟩ (.inr invalid)

theorem Updated.unknown_of_not_knows {changes : List (String × Value)} {x y : Ledger α}
    {reply : Except Refusal Context} (h : Updated changes x reply y)
    (hunknown : ¬x.live.context.Knows changes) :
    ∃ name : String, name ∈ changes.map (·.1) ∧ (name : Wide) ∉ x.live.context.members.map (·.1) ∧
      reply = .error (.unknownKey name) ∧ y = x := by
  cases h with
  | made known _ => exact absurd known hunknown
  | unknown given unknown => exact ⟨_, given, unknown, rfl, rfl⟩
  | invalid known _ => exact absurd known hunknown

/-! ## Runs -/

/-- A call on live settings. -/
inductive Call (α : Type) where
  | subscribe (listener : α)
  | unsubscribe (listener : α)
  | update (changes : List (String × Value))
  | snapshot
  | limits

variable [DecidableEq α]

/-- What a call does. -/
def Call.steps : Call α → Steps α Unit
  | .subscribe listener => modify fun x => { x with live := x.live.subscribe listener }
  | .unsubscribe listener => modify fun x => { x with live := x.live.unsubscribe listener }
  | .update changes => do let _ ← Steps.update changes
  | .snapshot => modify fun x => { x with copies := x.copies ++ [.context x.live.context] }
  | .limits => modify fun x => { x with copies := x.copies ++ [.limits x.live.context.limits] }

/-- The ledger after a call, which may have been refused. -/
def Ledger.after (x : Ledger α) (c : Call α) : Ledger α :=
  (c.steps.run x).2

theorem Ledger.after_update (x : Ledger α) (changes : List (String × Value)) :
    x.after (.update changes) = (x.enter (x.live.update changes)).2 := by
  rw [after, Call.steps, run_bind, Steps.update_run]
  cases x.live.update changes <;> rfl

/-- The ledger of a run of calls from a start. -/
def ledger (start : Live α) (calls : List (Call α)) : Ledger α :=
  calls.foldl Ledger.after ⟨start, [], []⟩

theorem ledger_append (start : Live α) (calls later : List (Call α)) :
    ledger start (calls ++ later) = later.foldl Ledger.after (ledger start calls) :=
  List.foldl_append

theorem Ledger.valid_after {x : Ledger α} (h : x.live.context.Valid) (c : Call α) :
    (x.after c).live.context.Valid := by
  cases c with
  | update changes =>
      rw [Ledger.after_update]
      cases hupdate : x.live.update changes with
      | ok r => exact valid_of_update hupdate
      | error why => exact h
  | subscribe listener => exact h
  | unsubscribe listener => exact h
  | snapshot => exact h
  | limits => exact h

theorem valid_ledger {start : Live α} (h : start.context.Valid) (calls : List (Call α)) :
    (ledger start calls).live.context.Valid := by
  induction calls using List.reverseRecOn with
  | nil => exact h
  | append_singleton calls c ih =>
      rw [ledger_append]
      exact Ledger.valid_after ih c

/-- No call touches what has been said to listeners or a copy that was handed out. -/
theorem Ledger.prefix_after (x : Ledger α) (c : Call α) :
    x.told <+: (x.after c).told ∧ x.copies <+: (x.after c).copies := by
  cases c with
  | update changes =>
      rw [Ledger.after_update]
      cases x.live.update changes with
      | ok r => exact ⟨List.prefix_append _ _, List.prefix_rfl⟩
      | error why => exact ⟨List.prefix_rfl, List.prefix_rfl⟩
  | subscribe listener => exact ⟨List.prefix_rfl, List.prefix_rfl⟩
  | unsubscribe listener => exact ⟨List.prefix_rfl, List.prefix_rfl⟩
  | snapshot => exact ⟨List.prefix_rfl, List.prefix_append _ _⟩
  | limits => exact ⟨List.prefix_rfl, List.prefix_append _ _⟩

theorem prefix_ledger_append (start : Live α) (calls later : List (Call α)) :
    (ledger start calls).told <+: (ledger start (calls ++ later)).told ∧
      (ledger start calls).copies <+: (ledger start (calls ++ later)).copies := by
  induction later using List.reverseRecOn with
  | nil => rw [List.append_nil]; exact ⟨List.prefix_rfl, List.prefix_rfl⟩
  | append_singleton later c ih =>
      rw [← List.append_assoc, ledger_append _ (calls ++ later)]
      have hstep := Ledger.prefix_after (ledger start (calls ++ later)) c
      exact ⟨ih.1.trans hstep.1, ih.2.trans hstep.2⟩

/-- A copy is what it was when it was handed out, whatever is called later. -/
theorem copy_ledger_append {start : Live α} {calls : List (Call α)} {c : Call α} {copy : Copy}
    (h : ((ledger start calls).after c).copies = (ledger start calls).copies ++ [copy])
    (later : List (Call α)) :
    (ledger start (calls ++ c :: later)).copies[(ledger start calls).copies.length]? = some copy := by
  have hprefix := (prefix_ledger_append start (calls ++ [c]) later).2
  have hstep : (ledger start (calls ++ [c])).copies = (ledger start calls).copies ++ [copy] := by
    rw [ledger_append]
    exact h
  rw [List.append_assoc, List.singleton_append, hstep] at hprefix
  obtain ⟨more, hmore⟩ := hprefix
  rw [← hmore, List.append_assoc, List.getElem?_append_right (Nat.le_refl _), Nat.sub_self]
  rfl

/-- After any run of calls from valid settings the limits are above zero, and an update changes
exactly the named settings and then tells every registration once and in order of the new ones, or
it is refused and has done nothing; and what was said to listeners and handed out so far stays what
it was. -/
theorem ledger_updated {start : Live α} (hvalid : start.context.Valid) (calls : List (Call α)) :
    let x := ledger start calls
    x.live.context.Valid ∧
    (∀ changes,
      let r := (Steps.update changes).run x
      Updated changes x r.1 r.2 ∧ r = x.enter (x.live.update changes)) ∧
    ∀ later,
      x.told <+: (ledger start (calls ++ later)).told ∧
      x.copies <+: (ledger start (calls ++ later)).copies ∧
      (ledger start (calls ++ .snapshot :: later)).copies[x.copies.length]? =
        some (.context x.live.context) ∧
      (ledger start (calls ++ .limits :: later)).copies[x.copies.length]? =
        some (.limits x.live.context.limits) := by
  intro x
  have hx : x.live.context.Valid := valid_ledger hvalid calls
  refine ⟨hx, fun changes => ?_, fun later => ?_⟩
  · intro r
    have hr : r = x.enter (x.live.update changes) := Steps.update_run changes x
    refine ⟨?_, hr⟩
    rw [hr]
    exact .of_valid hx changes
  · obtain ⟨htold, hcopies⟩ := prefix_ledger_append start calls later
    exact ⟨htold, hcopies, copy_ledger_append rfl later, copy_ledger_append rfl later⟩

/-- Two listeners with three registrations, a change of two settings, and one that names no setting
beside a limit that is none. -/
theorem ledger_updated_unknown_name :
    let start : Live String := ⟨⟨2, 50000, 3000, ["py"], []⟩, []⟩
    let changes := [("extensions", Value.list [.str "c"]), ("max_context_files", .str "7")]
    let calls : List (Call String) := [.subscribe "a", .subscribe "b", .limits, .subscribe "a",
      .update changes, .unsubscribe "a"]
    let new : Context := ⟨7, 50000, 3000, ["c"], []⟩
    let x := ledger start calls
    start.context.Valid ∧ x.live.context = new ∧ x.live.listeners = ["b", "a"] ∧
    x.told = [("a", new), ("b", new), ("a", new)] ∧ x.copies = [.limits ⟨2, 50000, 3000⟩] ∧
    (Steps.update [("max_context_files", .int 0), ("colour", .null)]).run x =
      (.error (.unknownKey "colour"), x) := by
  intro start changes calls new x
  have hvalid : start.context.Valid := ⟨by decide, by decide, by decide⟩
  have hcontext : x.live.context = new := by decide +kernel
  refine ⟨hvalid, hcontext, by decide +kernel, by decide +kernel, by decide +kernel, ?_⟩
  have hknown : ¬x.live.context.Knows [("max_context_files", .int 0), ("colour", .null)] := by
    rw [hcontext]
    exact fun h => absurd (h _ (.tail _ (.head _))) (by decide)
  have hupdated := ((ledger_updated hvalid calls).2.1 [("max_context_files", .int 0), ("colour", .null)]).1
  obtain ⟨name, hgiven, hunknown, hreply, hleft⟩ := hupdated.unknown_of_not_knows hknown
  obtain rfl : name = "colour" := by
    rw [hcontext] at hunknown
    rcases List.mem_cons.mp hgiven with rfl | hrest
    · exact absurd List.mem_cons_self hunknown
    · exact List.mem_singleton.mp hrest
  exact Prod.ext hreply hleft

end Live
end Settings
end CodeBrief
