import CodeBrief.Proofs.ReadNumbers

/-!
# The fields of settings

Besides its context as a whole, a key can name seven fields: the name of a project,
its root, and the five settings of the context. A field has a key, a check for its
values, and a part of the settings that is read and put. What was put is there
(`get_put_self`), every other field is what it was (`get_put_of_ne`), and settings
whose fields agree are the same (`ext_fields`). These three say all that is to be
known of changes one after another (`put_comm`, `put_put`).

Valid settings pass their own check, so to check them with one member replaced is to
check that member (`check_put`). The issues are those of the value, with the names on
the way to it in front of their places.
-/

namespace CodeBrief

open Json (Value)
open Text (Wide)

namespace Check

variable {α : Type}

/-- The same with a row of names in front of the place of every issue. -/
def Checked.along (path : List String) (c : Checked α) : Checked α :=
  path.foldr (fun name c => c.under (.field name)) c

theorem Checked.along_eq_ok {path : List String} {c : Checked α} {a : α} :
    along path c = .ok a ↔ c = .ok a := by
  induction path with
  | nil => rfl
  | cons name path ih => exact under_eq_ok.trans ih

theorem optional_eq_under {name : String} {check : Value → Checked α} {absent : α}
    {ms : List (Wide × Value)} {v : Value} (hv : Json.get? (name : Wide) ms = some v) :
    optional name check absent ms = (check v).under (.field name) := by
  rw [optional, hv]

end Check

namespace Settings

open Check (Checked)

/-! ## The fields of a context -/

namespace Context

inductive Field where
  | maxFiles
  | maxPromptLength
  | maxFileLength
  | extensions
  | excludePatterns
  deriving DecidableEq, Repr

namespace Field

/-- The name of the member that holds a field. -/
def name : Field → String
  | maxFiles => "max_context_files"
  | maxPromptLength => "max_prompt_length"
  | maxFileLength => "max_file_content_length"
  | extensions => "extensions"
  | excludePatterns => "exclude_patterns"

/-- What a field holds. -/
abbrev Content : Field → Type
  | maxFiles | maxPromptLength | maxFileLength => Int
  | extensions | excludePatterns => List Wide

def check : (g : Field) → Value → Checked g.Content
  | maxFiles | maxPromptLength | maxFileLength => limit
  | extensions | excludePatterns => strings

def get : (g : Field) → Context → g.Content
  | maxFiles => Context.maxFiles
  | maxPromptLength => Context.maxPromptLength
  | maxFileLength => Context.maxFileLength
  | extensions => Context.extensions
  | excludePatterns => Context.excludePatterns

def put : (g : Field) → g.Content → Context → Context
  | maxFiles, n, c => { c with maxFiles := n }
  | maxPromptLength, n, c => { c with maxPromptLength := n }
  | maxFileLength, n, c => { c with maxFileLength := n }
  | extensions, ss, c => { c with extensions := ss }
  | excludePatterns, ss, c => { c with excludePatterns := ss }

theorem get_put_self (g : Field) (a : g.Content) (c : Context) : g.get (g.put a c) = a := by
  cases g <;> rfl

theorem get_put_of_ne {g g' : Field} (h : g' ≠ g) (a : g.Content) (c : Context) :
    g'.get (g.put a c) = g'.get c := by
  cases g <;> cases g' <;> first | rfl | exact absurd rfl h

theorem ext_fields {c c' : Context} (h : ∀ g : Field, g.get c = g.get c') : c = c' := by
  obtain ⟨files, prompt, length, extensions, patterns⟩ := c
  obtain rfl : files = c'.maxFiles := h .maxFiles
  obtain rfl : prompt = c'.maxPromptLength := h .maxPromptLength
  obtain rfl : length = c'.maxFileLength := h .maxFileLength
  obtain rfl : extensions = c'.extensions := h .extensions
  obtain rfl : patterns = c'.excludePatterns := h .excludePatterns
  rfl

theorem dot_notMem_name (g : Field) : '.' ∉ g.name.toList := by
  cases g <;> decide

/-- The members of a context are its fields, and no objects. -/
theorem exists_of_get? {c : Context} {name : Wide} {v : Value}
    (h : Json.get? name c.members = some v) :
    (∃ g : Field, (g.name : Wide) = name) ∧ ∀ ms, v ≠ .object ms := by
  have hmem := Json.mem_of_get? h
  simp only [members, List.mem_cons, List.not_mem_nil, or_false, Prod.mk.injEq] at hmem
  rcases hmem with ⟨rfl, rfl⟩ | ⟨rfl, rfl⟩ | ⟨rfl, rfl⟩ | ⟨rfl, rfl⟩ | ⟨rfl, rfl⟩
  · exact ⟨⟨.maxFiles, rfl⟩, by rintro _ ⟨⟩⟩
  · exact ⟨⟨.maxPromptLength, rfl⟩, by rintro _ ⟨⟩⟩
  · exact ⟨⟨.maxFileLength, rfl⟩, by rintro _ ⟨⟩⟩
  · exact ⟨⟨.extensions, rfl⟩, by rintro _ ⟨⟩⟩
  · exact ⟨⟨.excludePatterns, rfl⟩, by rintro _ ⟨⟩⟩

theorem isSome_get? (g : Field) (c : Context) : (Json.get? (g.name : Wide) c.members).isSome = true := by
  cases g <;> rfl

/-- A field as members give it. -/
def given (g : Field) (ms : List (Wide × Value)) : Checked g.Content :=
  Check.optional g.name g.check (g.get defaultContext) ms

/-- A field of valid settings passes its check. -/
theorem given_members {c : Context} (hc : c.Valid) (g : Field) : g.given c.members = .ok (g.get c) := by
  obtain ⟨hfiles, hprompt, hlength⟩ := hc
  cases g with
  | maxFiles => exact Check.optional_of_get? rfl (limit_int hfiles)
  | maxPromptLength => exact Check.optional_of_get? rfl (limit_int hprompt)
  | maxFileLength => exact Check.optional_of_get? rfl (limit_int hlength)
  | extensions => exact Check.optional_of_get? rfl (strings_list c.extensions)
  | excludePatterns => exact Check.optional_of_get? rfl (strings_list c.excludePatterns)

theorem given_put_self (g : Field) (v : Value) (ms : List (Wide × Value)) :
    g.given (Json.put (g.name : Wide) v ms) = (g.check v).under (.field g.name) :=
  Check.optional_eq_under (Json.get?_put_self (g.name : Wide) v ms)

theorem given_put_of_ne {g g' : Field} (h : g'.name ≠ g.name) (v : Value)
    (ms : List (Wide × Value)) : g'.given (Json.put (g.name : Wide) v ms) = g'.given ms := by
  rw [given, given, Check.optional, Check.optional,
    Json.get?_put_of_ne fun heq => h (Wide.text.inj heq)]

end Field

theorem check_eq_given (ms : List (Wide × Value)) :
    check ms =
      ((((Checked.map Context.mk (Field.maxFiles.given ms)).app (Field.maxPromptLength.given ms)).app
        (Field.maxFileLength.given ms)).app (Field.extensions.given ms)).app
          (Field.excludePatterns.given ms) := rfl

/-- To check valid settings with one member replaced is to check that member. -/
theorem check_put {c : Context} (hc : c.Valid) (g : Field) (v : Value) :
    check (Json.put (g.name : Wide) v c.members) =
      Checked.map (fun a => g.put a c) ((g.check v).under (.field g.name)) := by
  have hother {g' : Field} (h : g'.name ≠ g.name) :
      g'.given (Json.put (g.name : Wide) v c.members) = .ok (g'.get c) :=
    (Field.given_put_of_ne h v c.members).trans (Field.given_members hc g')
  rw [check_eq_given]
  -- the member that was replaced is another one in each case, and the other four pass
  cases g <;>
    rw [Field.given_put_self, hother (by decide), hother (by decide), hother (by decide),
      hother (by decide)]
  all_goals
    generalize Checked.under _ _ = result
    cases result <;> rfl

end Context

/-! ## The fields of a project -/

namespace Project

inductive Field where
  | name
  | rootPath
  | inContext (g : Context.Field)
  deriving DecidableEq, Repr

namespace Field

/-- The names of the members that lead to a field. -/
def path : Field → List String
  | name => ["name"]
  | rootPath => ["root_path"]
  | inContext g => ["context", g.name]

def key : Field → String
  | name => "name"
  | rootPath => "root_path"
  | inContext g => "context." ++ g.name

/-- What a field holds. -/
abbrev Content : Field → Type
  | name | rootPath => Wide
  | inContext g => g.Content

def check : (f : Field) → Value → Checked f.Content
  | name | rootPath => Check.string
  | inContext g => g.check

def get : (f : Field) → Project → f.Content
  | name => Project.name
  | rootPath => Project.rootPath
  | inContext g => fun p => g.get p.context

def put : (f : Field) → f.Content → Project → Project
  | name, s, p => { p with name := s }
  | rootPath, s, p => { p with rootPath := s }
  | inContext g, a, p => { p with context := g.put a p.context }

theorem get_put_self (f : Field) (a : f.Content) (p : Project) : f.get (f.put a p) = a := by
  cases f with
  | inContext g => exact g.get_put_self a p.context
  | _ => rfl

theorem get_put_of_ne {f f' : Field} (h : f' ≠ f) (a : f.Content) (p : Project) :
    f'.get (f.put a p) = f'.get p := by
  cases f with
  | inContext g =>
      cases f' with
      | inContext g' => exact Context.Field.get_put_of_ne (fun hg => h (congrArg _ hg)) a p.context
      | _ => rfl
  | _ => cases f' <;> first | rfl | exact absurd rfl h

theorem ext_fields {p q : Project} (h : ∀ f : Field, f.get p = f.get q) : p = q := by
  obtain ⟨name, rootPath, context⟩ := p
  obtain rfl : name = q.name := h .name
  obtain rfl : rootPath = q.rootPath := h .rootPath
  obtain rfl : context = q.context := Context.Field.ext_fields fun g => h (.inContext g)
  rfl

theorem put_comm {f g : Field} (hne : f ≠ g) (a : f.Content) (b : g.Content) (p : Project) :
    g.put b (f.put a p) = f.put a (g.put b p) := by
  refine ext_fields fun h => ?_
  by_cases hf : h = f
  · subst hf
    rw [get_put_self, get_put_of_ne hne, get_put_self]
  · by_cases hg : h = g
    · subst hg
      rw [get_put_self, get_put_of_ne hf, get_put_self]
    · rw [get_put_of_ne hg, get_put_of_ne hf, get_put_of_ne hf, get_put_of_ne hg]

theorem put_put (f : Field) (a b : f.Content) (p : Project) : f.put b (f.put a p) = f.put b p := by
  refine ext_fields fun h => ?_
  by_cases hf : h = f
  · subst hf
    rw [get_put_self, get_put_self]
  · rw [get_put_of_ne hf, get_put_of_ne hf, get_put_of_ne hf]

end Field

/-- To check valid settings with a member replaced is to check that member. -/
theorem check_put_name {p : Project} (hp : p.context.Valid) (v : Value) :
    check (Json.put ("name" : Wide) v p.members) =
      Checked.map (fun s => { p with name := s }) ((Check.string v).under (.field "name")) := by
  rw [check, Check.optional_eq_under rfl, Check.optional_of_get? rfl (Check.string_str p.rootPath),
    Check.optional_of_get? rfl (Context.record_members hp)]
  cases Check.string v <;> rfl

theorem check_put_rootPath {p : Project} (hp : p.context.Valid) (v : Value) :
    check (Json.put ("root_path" : Wide) v p.members) =
      Checked.map (fun s => { p with rootPath := s })
        ((Check.string v).under (.field "root_path")) := by
  rw [check, Check.optional_of_get? rfl (Check.string_str p.name), Check.optional_eq_under rfl,
    Check.optional_of_get? rfl (Context.record_members hp)]
  cases Check.string v <;> rfl

theorem check_put_context (p : Project) (v : Value) :
    check (Json.put ("context" : Wide) v p.members) =
      Checked.map (fun c => { p with context := c })
        ((Check.record "ContextConfig" Context.check v).under (.field "context")) := by
  rw [check, Check.optional_of_get? rfl (Check.string_str p.name),
    Check.optional_of_get? rfl (Check.string_str p.rootPath), Check.optional_eq_under rfl]
  cases Check.record "ContextConfig" Context.check v <;> rfl

end Project
end Settings
end CodeBrief
