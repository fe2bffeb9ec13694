import CodeBrief.Proofs.Markup
import CodeBrief.Proofs.SettingChange
import CodeBrief.Proofs.SettingFields

/-!
# Settings by key

A key is looked up, changed in the settings of a project, and changed by its name in
live settings, each in its own way. The three agree for every key and value. Looking
up and replacing walk the same path and end at the same places
(`isSome_replaceAt?`), and those are the context and the seven fields
(`path_cases`), since nothing else in settings is an object. A changed value is
checked together with all of the settings; as these are valid, what comes out is the
check of the value alone (`set_key`), and from there on the laws are those of
reading and putting fields.

A change inside the context checks the context with the change made, for a project
as for live settings (`set_inContext`), so the two refuse the same values for the
same reasons.
-/

namespace CodeBrief.Settings

open Check (Checked Issue)
open Json (Value)
open Text (Wide)

/-! ## Keys and paths -/

theorem keyPath_ne_nil (key : String) : keyPath key ≠ [] :=
  fun h => Text.splitAtEach_ne_nil '.' key.toList (List.map_eq_nil_iff.mp h)

/-- A key is its path, joined by dots. -/
theorem toList_eq_join_keyPath (key : String) :
    key.toList = Text.join ['.'] ((keyPath key).map String.toList) := by
  have hid : String.toList ∘ String.ofList = id := funext fun _ => String.toList_ofList
  rw [keyPath, List.map_map, hid, List.map_id, Text.join_splitAtEach]

theorem keyPath_injective {key key' : String} (h : keyPath key = keyPath key') : key = key' := by
  apply String.toList_injective
  rw [toList_eq_join_keyPath key, toList_eq_join_keyPath key', h]

theorem keyPath_of_notMem {key : String} (h : '.' ∉ key.toList) : keyPath key = [key] := by
  rw [keyPath, Text.splitAtEach_of_notMem h, List.map_singleton, String.ofList_toList]

theorem keyPath_context (name : String) : keyPath ("context." ++ name) = "context" :: keyPath name := by
  have hsplit : ("context." ++ name).toList = "context".toList ++ '.' :: name.toList := by
    rw [String.toList_append]
    rfl
  rw [keyPath, hsplit, Text.splitAtEach_append_cons (by decide), List.map_cons, String.ofList_toList]
  rfl

theorem keyPath_key (f : Project.Field) : keyPath f.key = f.path := by
  cases f with
  | name => exact keyPath_of_notMem (by decide)
  | rootPath => exact keyPath_of_notMem (by decide)
  | inContext g =>
      show keyPath ("context." ++ g.name) = ["context", g.name]
      rw [keyPath_context, keyPath_of_notMem g.dot_notMem_name]

theorem keyPath_eq_context_iff {key : String} : keyPath key = ["context"] ↔ key = "context" := by
  rw [← keyPath_of_notMem (show '.' ∉ "context".toList by decide)]
  exact ⟨fun h => keyPath_injective h, congrArg keyPath⟩

theorem keyPath_eq_path_iff {f : Project.Field} {key : String} : keyPath key = f.path ↔ f.key = key := by
  rw [← keyPath_key, eq_comm]
  exact ⟨fun h => keyPath_injective h, congrArg keyPath⟩

theorem valueAt?_of_not_object {path : List String} (hne : path ≠ []) {v : Value}
    (hv : ∀ ms, v ≠ .object ms) : valueAt? path v = none := by
  obtain ⟨name, rest, rfl⟩ := List.exists_cons_of_ne_nil hne
  cases v with
  | object ms => exact absurd rfl (hv ms)
  | _ => rfl

/-- What stands at the end of a path can be replaced exactly if something stands there. -/
theorem isSome_replaceAt? (new : Value) {path : List String} (hne : path ≠ [])
    (ms : List (Wide × Value)) :
    (replaceAt? new path ms).isSome = (valueAt? path (.object ms)).isSome := by
  fun_induction replaceAt? new path ms with
  | case1 => exact absurd rfl hne
  | case2 ms name hfound =>
      obtain ⟨v, hv⟩ := Option.isSome_iff_exists.mp hfound
      simp only [valueAt?, hv]
      rfl
  | case3 ms name hnone =>
      rw [Option.not_isSome_iff_eq_none] at hnone
      simp only [valueAt?, hnone]
      rfl
  | case4 ms name rest hrest inner hinner ih =>
      simp only [valueAt?, hinner, Option.isSome_map]
      exact ih hrest
  | case5 name rest ms hrest hother =>
      rw [valueAt?]
      cases hget : Json.get? (name : Wide) ms with
      | none => rfl
      | some v =>
          have hobject : ∀ inner, v ≠ .object inner :=
            fun inner hv => hother inner (hget.trans (congrArg some hv))
          show none.isSome = (valueAt? rest v).isSome
          rw [valueAt?_of_not_object hrest hobject]
          rfl

theorem set_eq_unknownKey_iff {p : Project} {key : String} {v : Value} :
    p.set key v = .error (.unknownKey key) ↔ valueAt? (keyPath key) p.toValue = none := by
  have hsome := isSome_replaceAt? v (keyPath_ne_nil key) p.members
  rw [← Option.not_isSome_iff_eq_none, Project.toValue, ← hsome, Project.set]
  cases replaceAt? v (keyPath key) p.members with
  | none => simp
  | some ms =>
      simp only
      cases Project.check ms <;> simp

/-! ## The keys that lead somewhere -/

theorem exists_valueAt?_key (f : Project.Field) (p : Project) :
    ∃ v, valueAt? (keyPath f.key) p.toValue = some v := by
  rw [keyPath_key]
  cases f with
  | name => exact ⟨.str p.name, rfl⟩
  | rootPath => exact ⟨.str p.rootPath, rfl⟩
  | inContext g =>
      obtain ⟨v, hv⟩ := Option.isSome_iff_exists.mp (g.isSome_get? p.context)
      refine ⟨v, ?_⟩
      show valueAt? [g.name] (.object p.context.members) = some v
      rw [valueAt?, hv]
      rfl

/-- Where a path leads to something, it is the path of a field or of the context. -/
theorem path_cases {p : Project} {path : List String} {v : Value} (hne : path ≠ [])
    (h : valueAt? path p.toValue = some v) : path = ["context"] ∨ ∃ f : Project.Field, path = f.path := by
  have hleaf {path : List String} {w : Value} (h : valueAt? path w = some v)
      (hw : ∀ ms, w ≠ .object ms) : path = [] := by
    by_contra hpath
    rw [valueAt?_of_not_object hpath hw] at h
    cases h
  obtain ⟨name, rest, rfl⟩ := List.exists_cons_of_ne_nil hne
  rw [Project.toValue, valueAt?] at h
  split at h
  · next w hw =>
      have hmem := Json.mem_of_get? hw
      simp only [Project.members, List.mem_cons, List.not_mem_nil, or_false, Prod.mk.injEq,
        Wide.text.injEq] at hmem
      rcases hmem with ⟨rfl, rfl⟩ | ⟨rfl, rfl⟩ | ⟨rfl, rfl⟩
      · obtain rfl := hleaf h (by rintro _ ⟨⟩)
        exact .inr ⟨.name, rfl⟩
      · obtain rfl := hleaf h (by rintro _ ⟨⟩)
        exact .inr ⟨.rootPath, rfl⟩
      · cases rest with
        | nil => exact .inl rfl
        | cons name rest =>
            rw [valueAt?] at h
            split at h
            · next w hw =>
                obtain ⟨⟨g, hname⟩, hobject⟩ := Context.Field.exists_of_get? hw
                obtain rfl := Wide.text.inj hname
                obtain rfl := hleaf h hobject
                exact .inr ⟨.inContext g, rfl⟩
            · cases h
  · cases h

theorem valueAt?_eq_none_iff {p : Project} {key : String} :
    valueAt? (keyPath key) p.toValue = none ↔ key ≠ "context" ∧ ∀ f : Project.Field, f.key ≠ key := by
  constructor
  · intro hnone
    constructor
    · rintro rfl
      rw [keyPath_of_notMem (by decide)] at hnone
      cases hnone
    · rintro f rfl
      obtain ⟨v, hv⟩ := exists_valueAt?_key f p
      cases hnone.symm.trans hv
  · rintro ⟨hcontext, hfield⟩
    rw [Option.eq_none_iff_forall_ne_some]
    intro v hv
    rcases path_cases (keyPath_ne_nil key) hv with hpath | ⟨f, hpath⟩
    · exact hcontext (keyPath_eq_context_iff.mp hpath)
    · exact hfield f (keyPath_eq_path_iff.mp hpath)

/-! ## What a change comes to -/

theorem set_member {p : Project} {name : String} (hdot : '.' ∉ name.toList)
    (hmember : (Json.get? (name : Wide) p.members).isSome = true) (v : Value) :
    p.set name v =
      match Project.check (Json.put (name : Wide) v p.members) with
      | .ok q => .ok q
      | .error issues => .error (.invalidValue name issues) := by
  have hreplaced : replaceAt? v (keyPath name) p.members =
      some (Json.put (name : Wide) v p.members) := by
    rw [keyPath_of_notMem hdot, replaceAt?, if_pos hmember]
  cases hcheck : Project.check (Json.put (name : Wide) v p.members) <;>
    simp only [Project.set, hreplaced, hcheck]

theorem set_context (p : Project) (v : Value) :
    p.set "context" v =
      match (Check.record "ContextConfig" Context.check v).under (.field "context") with
      | .ok c => .ok { p with context := c }
      | .error issues => .error (.invalidValue "context" issues) := by
  rw [set_member (by decide) rfl, Project.check_put_context]
  cases (Check.record "ContextConfig" Context.check v).under (.field "context") <;> rfl

/-- A change inside the context is a check of the context with the change made. -/
theorem set_inContext (p : Project) (g : Context.Field) (v : Value) :
    p.set ("context." ++ g.name) v =
      match (Context.check (Json.put (g.name : Wide) v p.context.members)).under (.field "context") with
      | .ok c => .ok { p with context := c }
      | .error issues => .error (.invalidValue ("context." ++ g.name) issues) := by
  have hreplaced : replaceAt? v (keyPath ("context." ++ g.name)) p.members =
      some (Json.put ("context" : Wide) (.object (Json.put (g.name : Wide) v p.context.members)) p.members) := by
    rw [keyPath_context, keyPath_of_notMem g.dot_notMem_name]
    show (replaceAt? v [g.name] p.context.members).map
      (fun inner => Json.put ("context" : Wide) (.object inner) p.members) = _
    rw [replaceAt?, if_pos (g.isSome_get? p.context)]
    rfl
  rw [Project.set, hreplaced]
  simp only
  rw [Project.check_put_context, Check.record]
  cases (Context.check (Json.put (g.name : Wide) v p.context.members)).under (.field "context") <;> rfl

/-- A change of a field of valid settings is a check of its value. -/
theorem set_key {p : Project} (hp : p.context.Valid) (f : Project.Field) (v : Value) :
    p.set f.key v =
      match (f.check v).along f.path with
      | .ok a => .ok (f.put a p)
      | .error issues => .error (.invalidValue f.key issues) := by
  cases f with
  | name =>
      show p.set "name" v = _
      rw [set_member (by decide) rfl, Project.check_put_name hp]
      cases h : Check.string v <;> simp only [Project.Field.check, h] <;> rfl
  | rootPath =>
      show p.set "root_path" v = _
      rw [set_member (by decide) rfl, Project.check_put_rootPath hp]
      cases h : Check.string v <;> simp only [Project.Field.check, h] <;> rfl
  | inContext g =>
      show p.set ("context." ++ g.name) v = _
      rw [set_inContext, Context.check_put hp]
      cases h : g.check v <;> simp only [Project.Field.check, h] <;> rfl

theorem set_key_eq_ok_iff {p q : Project} (hp : p.context.Valid) {f : Project.Field} {v : Value} :
    p.set f.key v = .ok q ↔ ∃ a, f.check v = .ok a ∧ q = f.put a p := by
  rw [set_key hp]
  constructor
  · intro h
    split at h
    · next a ha =>
        cases h
        exact ⟨a, Checked.along_eq_ok.mp ha, rfl⟩
    · cases h
  · rintro ⟨a, ha, rfl⟩
    rw [Checked.along_eq_ok.mpr ha]

theorem set_key_eq_error_iff {p : Project} (hp : p.context.Valid) {f : Project.Field} {v : Value}
    {issues : List Issue} :
    p.set f.key v = .error (.invalidValue f.key issues) ↔ (f.check v).along f.path = .error issues := by
  rw [set_key hp]
  cases (f.check v).along f.path <;> simp

theorem valid_of_set {p q : Project} {key : String} {v : Value} (h : p.set key v = .ok q) :
    q.context.Valid := by
  rw [Project.set] at h
  split at h
  · cases h
  · split at h
    · next hcheck =>
        cases h
        exact Project.valid_of_check hcheck
    · cases h

theorem set_context_eq_ok_iff {p q : Project} {v : Value} :
    p.set "context" v = .ok q ↔
      ∃ c, Check.record "ContextConfig" Context.check v = .ok c ∧ q = { p with context := c } := by
  rw [set_context]
  cases Check.record "ContextConfig" Context.check v <;> simp [Checked.under, eq_comm]

/-- Two changes of different fields meet again. -/
theorem exists_set_set {p q r : Project} (hp : p.context.Valid) {f g : Project.Field} (hne : f ≠ g)
    {v w : Value} (hq : p.set f.key v = .ok q) (hr : p.set g.key w = .ok r) :
    ∃ s, q.set g.key w = .ok s ∧ r.set f.key v = .ok s := by
  obtain ⟨a, ha, hput⟩ := (set_key_eq_ok_iff hp).mp hq
  obtain ⟨b, hb, hput'⟩ := (set_key_eq_ok_iff hp).mp hr
  refine ⟨g.put b q, (set_key_eq_ok_iff (valid_of_set hq)).mpr ⟨b, hb, rfl⟩,
    (set_key_eq_ok_iff (valid_of_set hr)).mpr ⟨a, ha, ?_⟩⟩
  rw [hput, hput', Project.Field.put_comm hne]

/-- A change that has been made changes nothing. -/
theorem set_set_self {p q : Project} (hp : p.context.Valid) {key : String} {v : Value}
    (h : p.set key v = .ok q) : q.set key v = .ok q := by
  by_cases hcontext : key = "context"
  · subst hcontext
    obtain ⟨c, hc, rfl⟩ := set_context_eq_ok_iff.mp h
    exact set_context_eq_ok_iff.mpr ⟨c, hc, rfl⟩
  · by_cases hfield : ∃ f : Project.Field, f.key = key
    · obtain ⟨f, rfl⟩ := hfield
      have hvalid := valid_of_set h
      obtain ⟨a, ha, rfl⟩ := (set_key_eq_ok_iff hp).mp h
      exact (set_key_eq_ok_iff hvalid).mpr ⟨a, ha, (f.put_put a a p).symm⟩
    · have hunknown : p.set key v = .error (.unknownKey key) := by
        rw [set_eq_unknownKey_iff, valueAt?_eq_none_iff]
        exact ⟨hcontext, fun f hf => hfield ⟨f, hf⟩⟩
      cases hunknown.symm.trans h

/-! ## The same change of live settings -/

/-- What becomes of live settings when one of them is changed by its name, and of the settings of a
project when it is changed by its key. -/
inductive SameChange {α : Type} (p : Project) (name : String) :
    Except Refusal (Live α × List (α × Context)) → Except Refusal Project → Prop
  | made (l : Live α) (told : List (α × Context)) :
      SameChange p name (.ok (l, told)) (.ok { p with context := l.context })
  | unknown : SameChange p name (.error (.unknownKey name)) (.error (.unknownKey ("context." ++ name)))
  | invalid (issues : List Issue) :
      SameChange p name (.error (.invalidContext issues))
        (.error (.invalidValue ("context." ++ name)
          (issues.map fun i => { i with place := .field "context" :: i.place })))

theorem unknown_of_get?_eq_none {p : Project} {name : String}
    (h : Json.get? (name : Wide) p.context.members = none) :
    valueAt? (keyPath ("context." ++ name)) p.toValue = none := by
  rw [valueAt?_eq_none_iff]
  constructor
  · intro hkey
    have hpath := keyPath_context name
    rw [hkey, keyPath_of_notMem (by decide)] at hpath
    exact keyPath_ne_nil name (List.cons.inj hpath).2.symm
  · intro f hkey
    have hpath := keyPath_context name
    rw [← hkey, keyPath_key] at hpath
    cases f with
    | name => exact absurd (List.cons.inj hpath).1 (by decide)
    | rootPath => exact absurd (List.cons.inj hpath).1 (by decide)
    | inContext g =>
        have hname := (List.cons.inj hpath).2
        rw [← keyPath_of_notMem g.dot_notMem_name] at hname
        have hsome := g.isSome_get? p.context
        rw [keyPath_injective hname, h] at hsome
        cases hsome

theorem sameChange_update {α : Type} {p : Project} {l : Live α} (hl : l.context = p.context)
    (name : String) (v : Value) :
    SameChange p name (l.update [(name, v)]) (p.set ("context." ++ name) v) := by
  rw [Live.update, Live.changed, hl, Live.unknownName?]
  cases hget : Json.get? (name : Wide) p.context.members with
  | none =>
      rw [set_eq_unknownKey_iff.mpr (unknown_of_get?_eq_none hget)]
      simp only [List.map_cons, List.map_nil, List.find?_cons, hget]
      exact .unknown
  | some w =>
      obtain ⟨⟨g, hname⟩, -⟩ := Context.Field.exists_of_get? hget
      obtain rfl := Wide.text.inj hname
      rw [set_inContext]
      simp only [List.map_cons, List.map_nil, List.find?_cons, List.find?_nil, hget,
        List.foldl_cons, List.foldl_nil]
      cases Context.check (Json.put (g.name : Wide) v p.context.members) with
      | ok c => exact .made _ _
      | error issues => exact .invalid issues

/-! ## The command that looks a key up -/

section LookUp

open Command (Console Run run)
open Terminal (Markup.shown Vocabulary)

/-- The words of a command that looks a key up; behind two dashes any key may stand. -/
theorem read_get_dashes (d : Disk) {key : String} (h : key ≠ "") :
    Request.read d ["config", "get", "--", key] = .ok ⟨false, .getSetting none (some key)⟩ := by
  have hread : Request.read d ["config", "get", "--", key] =
    .ok ⟨false, .getSetting none ((some key).filter (· ≠ ""))⟩ := rfl
  rw [hread, Option.filter_some, if_pos (decide_eq_true h)]

/-- What a command prints is printed, or crashes it; it is no report of an error. -/
theorem ending_say (stream : Command.Stream) (message : Wide) (c : Console) :
    ((Run.say stream message).outcome c).ending ≠ .reported := by
  rw [Command.outcome_eq, say_run]
  cases Markup.shown c.terminal message <;> rintro ⟨⟩

/-- The report that a key which leads somewhere is unknown has no tags, and so it can be shown. -/
theorem exists_shown_unknown (v : Vocabulary) {p : Project} {key : String} {value : Value}
    (h : valueAt? (keyPath key) p.toValue = some value) :
    ∃ cs, Markup.shown v ("✗ " ++ ("Unknown key: " ++ key) : String) = .ok cs := by
  have hnone : Terminal.Markup.tags (Text.points ("✗ " ++ ("Unknown key: " ++ key))) = [] := by
    rcases path_cases (keyPath_ne_nil key) h with hpath | ⟨f, hpath⟩
    · obtain rfl := keyPath_eq_context_iff.mp hpath
      decide +kernel
    · obtain rfl := keyPath_eq_path_iff.mp hpath
      cases f with
      | name => decide +kernel
      | rootPath => decide +kernel
      | inContext g => cases g <;> decide +kernel
  exact Terminal.Markup.exists_shown_of_tags fun body hbody => by rw [hnone] at hbody; cases hbody

theorem ending_fail {message : String} {c : Console} {text : List Char}
    (h : Markup.shown c.terminal ("✗ " ++ message : String) = .ok text) :
    ((Run.fail message : Run Unit).outcome c).ending = .reported := by
  rw [Command.outcome_eq, fail_run, h]

variable {terminal : Vocabulary} {d : Disk} {words : List String} {verbose : Bool}
  {path : Option String} {key : String} {root : Path} {p : Project}

theorem getSetting_run {c : Console} (hroot : (Run.projectRoot path).run c = (.ok root, c))
    (hload : load c.disk root = .ok p) (key : String) :
    (Run.getSetting path (some key)).run c =
      (match valueAt? (keyPath key) p.toValue with
        | some v => Run.say .output (v.display.after (key ++ " = "))
        | none => Run.fail ("Unknown key: " ++ key)).run c := by
  rw [Run.getSetting, run_bind, hroot]
  simp only [run_bind, loadSettings_run, hload]
  rfl

/-- A look-up ends in the report that the key is unknown exactly if it leads to nothing. -/
theorem run_getSetting_eq_iff
    (hread : Request.read d words = .ok ⟨verbose, .getSetting path (some key)⟩)
    (hroot : (Run.projectRoot path).run { terminal, disk := d, verbose } =
      (.ok root, { terminal, disk := d, verbose }))
    (hload : load d root = .ok p) :
    run terminal d words =
        (Run.fail ("Unknown key: " ++ key)).outcome { terminal, disk := d, verbose } ↔
      valueAt? (keyPath key) p.toValue = none := by
  rw [Command.run_of_read hread, Run.command, Command.outcome_eq, getSetting_run hroot hload,
    ← Command.outcome_eq]
  cases hvalue : valueAt? (keyPath key) p.toValue with
  | none => exact iff_of_true rfl rfl
  | some v =>
      refine iff_of_false (fun hsame => ?_) (Option.some_ne_none v)
      obtain ⟨text, htext⟩ := exists_shown_unknown terminal hvalue
      have hreported : ((Run.fail ("Unknown key: " ++ key) : Run Unit).outcome
          { terminal, disk := d, verbose }).ending = .reported := ending_fail htext
      rw [← hsame] at hreported
      exact ending_say _ _ _ hreported

end LookUp

/-! ## The laws -/

/-- What changes by key are for settings. A key is unknown, or names one of seven fields, or names the
context as a whole. -/
structure LawfulKeys (p : Project) : Prop where
  unknown : ∀ key v,
    (p.set key v = .error (.unknownKey key) ↔ valueAt? (keyPath key) p.toValue = none) ∧
    (valueAt? (keyPath key) p.toValue = none ↔ key ≠ "context" ∧ ∀ f : Project.Field, f.key ≠ key)
  /-- A look-up reports the same keys as unknown. -/
  lookUp : ∀ {terminal : Terminal.Vocabulary} {d : Disk} {words : List String} {verbose : Bool}
    {path : Option String} {key : String} {root : Path},
    Request.read d words = .ok ⟨verbose, .getSetting path (some key)⟩ →
    (Command.Run.projectRoot path).run { terminal, disk := d, verbose } =
      (.ok root, { terminal, disk := d, verbose }) →
    load d root = .ok p → ∀ v,
      (Command.run terminal d words =
          (Command.Run.fail ("Unknown key: " ++ key)).outcome { terminal, disk := d, verbose } ↔
        p.set key v = .error (.unknownKey key))
  /-- Every key but the empty one can be looked up. -/
  asked : ∀ (d : Disk) {key : String}, key ≠ "" →
    Request.read d ["config", "get", "--", key] = .ok ⟨false, .getSetting none (some key)⟩
  invalid : ∀ (f : Project.Field) v issues,
    p.set f.key v = .error (.invalidValue f.key issues) ↔ (f.check v).along f.path = .error issues
  changed : ∀ (f : Project.Field) v a, f.check v = .ok a →
    ∃ q, p.set f.key v = .ok q ∧ q.context.Valid ∧ f.get q = a ∧ ∀ g, g ≠ f → g.get q = g.get p
  invalidContext : ∀ v issues,
    p.set "context" v = .error (.invalidValue "context" issues) ↔
      (Check.record "ContextConfig" Context.check v).along ["context"] = .error issues
  changedContext : ∀ v c, Check.record "ContextConfig" Context.check v = .ok c →
    p.set "context" v = .ok { p with context := c } ∧ c.Valid
  /-- Changes of two fields may be made in any order. -/
  commute : ∀ {f g : Project.Field}, f ≠ g → ∀ {v w q r},
    p.set f.key v = .ok q → p.set g.key w = .ok r → ∃ s, q.set g.key w = .ok s ∧ r.set f.key v = .ok s
  again : ∀ {key v q}, p.set key v = .ok q → q.set key v = .ok q
  /-- A key inside the context does to a project what its name does to live settings. -/
  live : ∀ {α : Type} {l : Live α}, l.context = p.context → ∀ name v,
    SameChange p name (l.update [(name, v)]) (p.set ("context." ++ name) v)

/-- A change by key is refused for a key that leads to nothing and for a value that is not one of its
field, and otherwise changes that field alone. -/
theorem lawfulKeys_of_valid {p : Project} (hp : p.context.Valid) : LawfulKeys p where
  unknown _ _ := ⟨set_eq_unknownKey_iff, valueAt?_eq_none_iff⟩
  lookUp hread hroot hload _ :=
    (run_getSetting_eq_iff hread hroot hload).trans set_eq_unknownKey_iff.symm
  asked := read_get_dashes
  invalid _ _ _ := set_key_eq_error_iff hp
  changed f v a ha := by
    have hset := (set_key_eq_ok_iff hp).mpr ⟨a, ha, rfl⟩
    exact ⟨f.put a p, hset, valid_of_set hset, f.get_put_self a p,
      fun g hg => Project.Field.get_put_of_ne hg a p⟩
  invalidContext v issues := by
    rw [set_context]
    show _ ↔ (Check.record "ContextConfig" Context.check v).under (.field "context") = .error issues
    cases (Check.record "ContextConfig" Context.check v).under (.field "context") <;> simp
  changedContext v c hc := by
    have hset : p.set "context" v = .ok { p with context := c } :=
      set_context_eq_ok_iff.mpr ⟨c, hc, rfl⟩
    exact ⟨hset, valid_of_set hset⟩
  commute hne := fun hq hr => exists_set_set hp hne hq hr
  again := set_set_self hp
  live hl name v := sameChange_update hl name v

/-- A limit that is given as a text, and a key that leads through a list. -/
theorem lawfulKeys_of_valid_default :
    let p := defaultProject
    p.context.Valid ∧
    p.set "context.extensions.0" .null = .error (.unknownKey "context.extensions.0") ∧
    ∃ q, p.set "context.max_context_files" (.str " 7 ") = .ok q ∧ q.context.maxFiles = 7 ∧
      q.name = p.name ∧ q.context.extensions = p.context.extensions ∧
      q.set "context.max_context_files" (.str " 7 ") = .ok q := by
  intro p
  have hp : p.context.Valid := defaultContext_valid
  have hlaws := lawfulKeys_of_valid hp
  have hnowhere : valueAt? (keyPath "context.extensions.0") p.toValue = none := by cbv
  have hseven : Context.Field.maxFiles.check (.str " 7 ") = .ok 7 := by cbv
  obtain ⟨q, hset, -, hfiles, hothers⟩ := hlaws.changed (.inContext .maxFiles) _ _ hseven
  have hname : q.name = p.name := hothers .name (by decide)
  have hextensions : q.context.extensions = p.context.extensions :=
    hothers (.inContext .extensions) (by decide)
  exact ⟨hp, (hlaws.unknown _ .null).1.mpr hnowhere, q, hset, hfiles, hname, hextensions,
    hlaws.again hset⟩

end CodeBrief.Settings
