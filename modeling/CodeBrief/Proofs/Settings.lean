import CodeBrief.Settings.Live

/-!
# Settings that are checked are valid

A check of a record is a chain of checks of its members, and a chain succeeds
exactly if each link does (`Checked.app_eq_ok`). That is all that is needed in
both directions: what comes out of a check has three limits above zero, whether
they were given or stand there by default, and what is valid passes the check
of its own members unchanged.
-/

namespace CodeBrief.Check

open Json (Value)
open Text (Wide)

variable {α β : Type}

namespace Checked

theorem under_eq_ok {step : Step} {c : Checked α} {a : α} :
    under step c = .ok a ↔ c = .ok a := by
  cases c <;> simp [under]

theorem map_eq_ok {f : α → β} {c : Checked α} {b : β} :
    map f c = .ok b ↔ ∃ a, c = .ok a ∧ f a = b := by
  cases c <;> simp [map]

theorem app_eq_ok {f : Checked (α → β)} {c : Checked α} {b : β} :
    app f c = .ok b ↔ ∃ g a, f = .ok g ∧ c = .ok a ∧ g a = b := by
  cases f <;> cases c <;> simp [app, both, map]

end Checked

theorem optional_of_get? {name : String} {check : Value → Checked α} {absent a : α}
    {ms : List (Wide × Value)} {v : Value} (hv : Json.get? (name : Wide) ms = some v)
    (h : check v = .ok a) : optional name check absent ms = .ok a := by
  rw [optional, hv]
  exact Checked.under_eq_ok.mpr h

/-- An optional member that passes was given and passes, or is the one for its absence. -/
theorem optional_eq_ok {name : String} {check : Value → Checked α} {absent a : α}
    {ms : List (Wide × Value)} (h : optional name check absent ms = .ok a) :
    (∃ v, Json.get? (name : Wide) ms = some v ∧ check v = .ok a) ∨ a = absent := by
  rw [optional, Checked.under_eq_ok] at h
  split at h
  · next v hv => exact Or.inl ⟨v, hv, h⟩
  · cases h
    exact Or.inr rfl

theorem lt_of_intAbove {bound n : Int} {v : Value} (h : intAbove bound v = .ok n) :
    bound < n := by
  rw [intAbove] at h
  split at h
  · next m _ =>
      split at h
      · next hm => cases h; exact hm
      · cases h
  · cases h

theorem string_str (s : Wide) : string (.str s) = .ok s := rfl

theorem items_string (ss : List Wide) (i : Nat) :
    items string i (ss.map Value.str) = .ok ss := by
  induction ss generalizing i with
  | nil => rfl
  | cons s ss ih =>
      rw [List.map_cons, items, ih, string_str]
      rfl

end CodeBrief.Check

namespace CodeBrief.Settings

open Check
open Json (Value)
open Text (Wide)

/-! ## What comes out of a check -/

theorem limit_pos {name : String} {absent n : Int} {ms : List (Wide × Value)}
    (habsent : 0 < absent) (h : optional name limit absent ms = .ok n) : 0 < n := by
  rcases optional_eq_ok h with ⟨v, -, hv⟩ | rfl
  · exact lt_of_intAbove hv
  · exact habsent

theorem Context.valid_of_check {ms : List (Wide × Value)} {c : Context}
    (h : Context.check ms = .ok c) : c.Valid := by
  simp only [Context.check, Checked.app_eq_ok, Checked.map_eq_ok] at h
  obtain ⟨_, _, ⟨_, _, ⟨_, lengthLimit, ⟨_, promptLimit, ⟨files, hfiles, rfl⟩, hprompt, rfl⟩,
    hlength, rfl⟩, _, rfl⟩, _, rfl⟩ := h
  exact ⟨limit_pos (by decide) hfiles, limit_pos (by decide) hprompt,
    limit_pos (by decide) hlength⟩

theorem defaultContext_valid : defaultContext.Valid :=
  ⟨by decide, by decide, by decide⟩

theorem Project.valid_of_check {ms : List (Wide × Value)} {p : Project}
    (h : Project.check ms = .ok p) : p.context.Valid := by
  simp only [Project.check, Checked.app_eq_ok, Checked.map_eq_ok] at h
  obtain ⟨_, c, ⟨_, _, ⟨_, _, rfl⟩, _, rfl⟩, hcontext, rfl⟩ := h
  rcases optional_eq_ok hcontext with ⟨v, -, hv⟩ | rfl
  · rw [record.eq_def] at hv
    split at hv
    · exact Context.valid_of_check hv
    · cases hv
  · exact defaultContext_valid

theorem Live.valid_of_update {α : Type} {l l' : Live α} {changes : List (String × Value)}
    {told : List (α × Context)} (h : l.update changes = .ok (l', told)) : l'.context.Valid := by
  rw [update] at h
  split at h
  · next c hc =>
      cases h
      rw [changed] at hc
      split at hc
      · cases hc
      · split at hc
        · next hcheck => cases hc; exact Context.valid_of_check hcheck
        · cases hc
  · cases h

/-! ## What goes into one unchanged -/

theorem limit_int {n : Int} (h : 0 < n) : limit (.int n) = .ok n := by
  rw [limit, intAbove, int]
  exact if_pos h

theorem strings_list (ss : List Wide) : strings (.list (ss.map .str)) = .ok ss :=
  items_string ss 0

/-- Valid context settings pass the check of their own members. -/
theorem Context.check_members {c : Context} (h : c.Valid) :
    Context.check c.members = .ok c := by
  obtain ⟨hfiles, hprompt, hlength⟩ := h
  rw [Context.check, optional_of_get? rfl (limit_int hfiles),
    optional_of_get? rfl (limit_int hprompt), optional_of_get? rfl (limit_int hlength),
    optional_of_get? rfl (strings_list c.extensions),
    optional_of_get? rfl (strings_list c.excludePatterns)]
  rfl

theorem Context.record_members {c : Context} (h : c.Valid) :
    record "ContextConfig" Context.check (.object c.members) = .ok c :=
  Context.check_members h

theorem Project.check_members {p : Project} (h : p.context.Valid) :
    Project.check p.members = .ok p := by
  rw [Project.check, optional_of_get? rfl (string_str p.name),
    optional_of_get? rfl (string_str p.rootPath),
    optional_of_get? rfl (Context.record_members h)]
  rfl

end CodeBrief.Settings
