import Mathlib
import CodeBrief.Proofs.Decimal
import CodeBrief.Proofs.LiveSettings
import CodeBrief.Proofs.Split
import CodeBrief.Proofs.Store
import CodeBrief.Settings.Keys

/-!
# Limits that came from a text have few digits

Settings are loaded as they were saved if their limits have at most 4300 digits
(`parse_fileText`). That is so for every limit that a user can bring about, because
each way to a limit has a bound of its own: the reader refuses a longer whole
number, a check refuses a longer text, and a double is refused from 2^63 on.

What the reader gives is a value all of whose whole numbers are short
(`Value.Short`), at any depth, since a key may replace the context settings as a
whole. Replacing a value keeps that, and the check turns it into a bound of the
limits.
-/

namespace CodeBrief

theorem Text.length_digits_le {n k : Nat} (hk : 0 < k) (h : n < 10 ^ k) :
    (digits n).length ≤ k := by
  rw [digits_eq_toDigits]
  exact (Nat.length_toDigits_le_iff (by decide) hk).mpr h

namespace Json

open Text (Wide)

/-! ## Values that are read -/

/-- A value whose whole numbers have no more digits than the reader takes. -/
inductive Value.Short : Value → Prop where
  | null : Short .null
  | bool (b : Bool) : Short (.bool b)
  | int {n : Int} (h : (Text.digits n.natAbs).length ≤ digitLimit) : Short (.int n)
  | float (x : Binary64) : Short (.float x)
  | str (s : Wide) : Short (.str s)
  | list {items : List Value} (h : ∀ v ∈ items, v.Short) : Short (.list items)
  | object {members : List (Wide × Value)} (h : ∀ m ∈ members, m.2.Short) :
      Short (.object members)

/-- Members whose values are short. -/
abbrev ShortMembers (ms : List (Wide × Value)) : Prop :=
  ∀ m ∈ ms, m.2.Short

theorem Value.Short.members {ms : List (Wide × Value)} (h : (Value.object ms).Short) :
    ShortMembers ms := by
  cases h with
  | object h => exact h

theorem mem_of_get? {κ α : Type} [DecidableEq κ] {name : κ} {ms : List (κ × α)} {v : α}
    (h : get? name ms = some v) : (name, v) ∈ ms := by
  induction ms with
  | nil => cases h
  | cons m ms ih =>
      rw [get?] at h
      split at h
      · next heq =>
          cases h
          rw [← heq]
          exact List.mem_cons_self
      · exact List.mem_cons_of_mem _ (ih h)

theorem ShortMembers.get {name : Wide} {v : Value} {ms : List (Wide × Value)}
    (hms : ShortMembers ms) (h : get? name ms = some v) : v.Short :=
  hms _ (mem_of_get? h)

theorem mem_put {κ α : Type} [DecidableEq κ] {name : κ} {v : α} {ms : List (κ × α)} {m : κ × α}
    (h : m ∈ put name v ms) : m = (name, v) ∨ m ∈ ms := by
  induction ms with
  | nil => exact .inl (List.mem_singleton.mp h)
  | cons n ms ih =>
      rw [put] at h
      split at h
      · next heq =>
          rcases List.mem_cons.mp h with rfl | hm
          · exact .inl (Prod.ext heq rfl)
          · exact .inr (List.mem_cons_of_mem _ hm)
      · rcases List.mem_cons.mp h with rfl | hm
        · exact .inr List.mem_cons_self
        · exact (ih hm).imp id (List.mem_cons_of_mem _)

theorem ShortMembers.put {name : Wide} {v : Value} {ms : List (Wide × Value)}
    (hms : ShortMembers ms) (hv : v.Short) : ShortMembers (put name v ms) := by
  intro m hm
  rcases mem_put hm with rfl | hm
  · exact hv
  · exact hms m hm

theorem digitsValue_lt {ds : List Char} (h : ∀ d ∈ ds, d.isDigit = true) :
    digitsValue ds < 10 ^ ds.length := by
  induction ds using List.reverseRecOn with
  | nil => decide
  | append_singleton ds d ih =>
      have hrest := ih fun x hx => h x (List.mem_append_left _ hx)
      have hd : d.toNat ≤ 57 :=
        (Char.isDigit_iff_toNat.mp (h d (List.mem_append_right _ List.mem_cons_self))).2
      rw [digitsValue] at hrest ⊢
      rw [List.foldl_append, List.length_append, List.length_singleton, Nat.pow_succ]
      simp only [List.foldl_cons, List.foldl_nil]
      omega

section Readers

variable {α β : Type}

/-- What is read has a property. -/
def Gives (P : α → Prop) (r : Except Fault (α × List Char)) : Prop :=
  ∀ a rest, r = .ok (a, rest) → P a

theorem gives_ok {P : α → Prop} {a : α} {rest : List Char} (h : P a) : Gives P (.ok (a, rest)) := by
  rintro _ _ ⟨⟩
  exact h

theorem gives_error {P : α → Prop} {fault : Fault} : Gives P (.error fault) := nofun

theorem gives_any (r : Except Fault (α × List Char)) : Gives (fun _ => True) r :=
  fun _ _ _ => trivial

theorem Gives.bind {P : α → Prop} {Q : β → Prop} {r : Except Fault (α × List Char)}
    {f : α × List Char → Except Fault (β × List Char)} (h : Gives P r)
    (hf : ∀ a rest, P a → Gives Q (f (a, rest))) : Gives Q (r >>= f) := by
  match r with
  | .ok (a, rest) => exact hf a rest (h a rest rfl)
  | .error _ => exact gives_error

end Readers

theorem gives_finishNumber (negative : Bool) {ds : List Char} (hds : ∀ d ∈ ds, d.isDigit = true)
    (rest : List Char) : Gives Value.Short (finishNumber negative ds rest) := by
  rw [finishNumber]
  simp only []
  split
  · split
    · exact gives_error
    · next hlimit =>
        refine gives_ok (.int (Text.length_digits_le (by decide) ?_))
        have habs : (if negative = true then -(digitsValue ds : Int) else digitsValue ds).natAbs =
            digitsValue ds := by
          split <;> omega
        rw [habs]
        exact Nat.lt_of_lt_of_le (digitsValue_lt hds) (Nat.pow_le_pow_right (by decide) (Nat.not_lt.mp hlimit))
  · exact gives_ok (.float _)

theorem gives_readNumber (negative : Bool) (left : Nat) (cs : List Char) :
    Gives Value.Short (readNumber negative left cs) := by
  rw [readNumber.eq_def]
  split
  · exact gives_finishNumber negative (by simp) _
  · next c cs _ =>
      split
      · next hc =>
          exact gives_finishNumber negative
            (List.forall_mem_cons.mpr ⟨hc, fun d hd => List.mem_takeWhile_imp hd⟩) _
      · exact gives_error
  · exact gives_error

theorem short_of_readWord? {cs rest : List Char} {v : Value} (h : readWord? cs = some (v, rest)) :
    v.Short := by
  rw [readWord?, firstM_eq_findSome?] at h
  obtain ⟨w, hmem, hw⟩ := List.exists_of_findSome?_eq_some h
  obtain ⟨_, _, heq⟩ := Option.map_eq_some_iff.mp hw
  cases heq
  have hwords : ∀ w ∈ words, w.2.Short := by
    simp only [words, List.forall_mem_cons]
    exact ⟨.null, .bool _, .bool _, .float _, .float _, .float _, List.forall_mem_nil _⟩
  exact hwords w hmem

theorem gives_readScalar (cs : List Char) : Gives Value.Short (readScalar cs) := by
  rw [readScalar.eq_def]
  split
  · next found hfound => exact gives_ok (short_of_readWord? hfound)
  · split
    · exact gives_readNumber true _ _
    · exact gives_readNumber false _ _

mutual

theorem gives_readValue (fuel room : Nat) (cs : List Char) :
    Gives Value.Short (readValue fuel room cs) := by
  match fuel with
  | 0 => exact gives_error
  | fuel + 1 =>
      rw [readValue.eq_def]
      simp only []
      split
      · exact (gives_any _).bind fun s _ _ => gives_ok (.str s)
      · exact gives_error
      · next room =>
          split
          · exact gives_ok (.object (List.forall_mem_nil _))
          · exact (gives_readMembers fuel room (List.forall_mem_nil _) _).bind fun ms _ hms =>
              gives_ok (.object hms)
      · exact gives_error
      · next room =>
          split
          · exact gives_ok (.list (List.forall_mem_nil _))
          · exact (gives_readItems fuel room _).bind fun vs _ hvs => gives_ok (.list hvs)
      · exact gives_readScalar cs

theorem gives_readItems (fuel room : Nat) (cs : List Char) :
    Gives (fun vs => ∀ v ∈ vs, v.Short) (readItems fuel room cs) := by
  match fuel with
  | 0 => exact gives_error
  | fuel + 1 =>
      rw [readItems.eq_def]
      simp only []
      refine (gives_readValue fuel room cs).bind fun v rest hv => ?_
      simp only []
      split
      · exact gives_ok (List.forall_mem_singleton.mpr hv)
      · exact (gives_readItems fuel room _).bind fun vs _ hvs =>
          gives_ok (List.forall_mem_cons.mpr ⟨hv, hvs⟩)
      · exact gives_error

theorem gives_readMembers (fuel room : Nat) {sofar : List (Wide × Value)}
    (hsofar : ShortMembers sofar) (cs : List Char) :
    Gives ShortMembers (readMembers fuel room sofar cs) := by
  match fuel with
  | 0 => exact gives_error
  | fuel + 1 =>
      rw [readMembers.eq_def]
      simp only []
      split
      · refine (gives_any _).bind fun name rest _ => ?_
        simp only []
        split
        · refine (gives_readValue fuel room _).bind fun v rest' hv => ?_
          simp only []
          split
          · exact gives_ok (hsofar.put hv)
          · exact gives_readMembers fuel room (hsofar.put hv) _
          · exact gives_error
        · exact gives_error
      · exact gives_error

end

/-- All whole numbers that are read are short. -/
theorem short_of_read {cs : List Char} {v : Value} (h : read cs = .ok v) : v.Short := by
  have hgo : read.go cs = .ok v := by
    rw [read.eq_def] at h
    split at h
    · split at h
      · cases h
      · exact h
    · exact h
  rw [read.go] at hgo
  cases hread : readValue (2 * cs.length + 1) nestingLimit (skipGap cs) with
  | error fault =>
      rw [hread] at hgo
      cases hgo
  | ok found =>
      rw [hread] at hgo
      simp only [bind, Except.bind] at hgo
      split at hgo
      · cases hgo
        exact gives_readValue _ _ _ _ _ hread
      · cases hgo

end Json
/-! ## Limits that are checked -/

namespace Check

open Json (Value ShortMembers)

theorem length_stripBy_le {α : Type} (p : α → Bool) (cs : List α) :
    (Text.stripBy p cs).length ≤ cs.length := by
  rw [Text.stripBy, Text.dropEndWhile, List.length_reverse]
  have hend := ((cs.dropWhile p).reverse.dropWhile_suffix p).length_le
  rw [List.length_reverse] at hend
  exact hend.trans (List.dropWhile_suffix p).length_le

theorem groupedDigits?_eq_some {cs ds : List Char} (h : groupedDigits? cs = some ds) :
    (∀ d ∈ ds, d.isDigit = true) ∧ ds.length ≤ cs.length := by
  fun_induction groupedDigits? cs generalizing ds with
  | case1 => cases h
  | case2 c hc =>
      cases h
      exact ⟨List.forall_mem_singleton.mpr hc, Nat.le_refl _⟩
  | case3 c hc => cases h
  | case4 c rest hc ih =>
      obtain ⟨ds, hds, rfl⟩ := Option.map_eq_some_iff.mp h
      obtain ⟨hdigit, hlength⟩ := ih hds
      exact ⟨List.forall_mem_cons.mpr ⟨hc, hdigit⟩, by simp only [List.length_cons]; omega⟩
  | case5 c rest hc => cases h
  | case6 c rest _ _ hc ih =>
      obtain ⟨ds, hds, rfl⟩ := Option.map_eq_some_iff.mp h
      obtain ⟨hdigit, hlength⟩ := ih hds
      exact ⟨List.forall_mem_cons.mpr ⟨hc, hdigit⟩, Nat.succ_le_succ hlength⟩
  | case7 c rest _ _ hc => cases h

theorem length_of_dropFraction? {cs ds : List Char} (h : dropFraction? cs = some ds) :
    ds.length ≤ cs.length := by
  rw [dropFraction?] at h
  split at h
  · cases h
    exact (List.takeWhile_prefix _).length_le
  · cases h

theorem length_dropZeros_le (cs : List Char) : (dropZeros cs).length ≤ cs.length := by
  have hsuffix := (List.dropWhile_suffix (l := cs) fun c => c == '0' || c == '_').length_le
  rw [dropZeros]
  split
  · split
    · cases cs.getLast? with
      | none => exact Nat.zero_le _
      | some c => cases cs with
        | nil => contradiction
        | cons d cs => exact Nat.succ_le_succ (Nat.zero_le _)
    · next c rest heq =>
        split
        · rwa [heq] at hsuffix
        · exact Nat.le_refl _
  · exact Nat.le_refl _

theorem signed?_lt {cs : List Char} {n : Int} (h : signed? cs = some n) :
    n.natAbs < 10 ^ cs.length := by
  have hdigits {cs ds : List Char} (hds : groupedDigits? cs = some ds) :
      natOfDigits ds < 10 ^ cs.length := by
    obtain ⟨hdigit, hlength⟩ := groupedDigits?_eq_some hds
    exact Nat.lt_of_lt_of_le (Json.digitsValue_lt hdigit) (Nat.pow_le_pow_right (by decide) hlength)
  rw [signed?.eq_def] at h
  split at h
  · next ds =>
      obtain ⟨found, hfound, rfl⟩ := Option.map_eq_some_iff.mp h
      rw [Int.natAbs_neg, List.length_cons]
      exact Nat.lt_of_lt_of_le (hdigits hfound) (Nat.pow_le_pow_right (by decide) (Nat.le_succ _))
  · obtain ⟨found, hfound, rfl⟩ := Option.map_eq_some_iff.mp h
    exact hdigits hfound

theorem intOfText?_lt {cs : List Char} {n : Int} (h : intOfText? cs = some n) :
    n.natAbs < 10 ^ cs.length := by
  have hstrip := length_stripBy_le Text.isSpace cs
  have hspelt {rest : List Char} (hrest : rest.length ≤ cs.length)
      (hn : (dropFraction? rest).bind (fun ds => signed? (dropZeros ds)) = some n) :
      n.natAbs < 10 ^ cs.length := by
    obtain ⟨ds, hds, hsigned⟩ := Option.bind_eq_some_iff.mp hn
    have hlength := (length_dropZeros_le ds).trans ((length_of_dropFraction? hds).trans hrest)
    exact Nat.lt_of_lt_of_le (signed?_lt hsigned) (Nat.pow_le_pow_right (by decide) hlength)
  rw [intOfText?] at h
  split at h
  · cases h
  · next rest _ heq =>
      rw [heq, List.length_cons] at hstrip
      exact hspelt (by omega) h
  · exact hspelt hstrip h

/-- A whole number that passes its check has few digits, whatever it was given as. -/
theorem length_digits_of_int {v : Value} {n : Int} (hv : v.Short) (h : int v = .ok n) :
    (Text.digits n.natAbs).length ≤ Json.digitLimit := by
  have hfew {m : Int} (hm : m.natAbs < 10 ^ 19) :
      (Text.digits m.natAbs).length ≤ Json.digitLimit :=
    (Text.length_digits_le (by decide) hm).trans (by decide)
  rw [int.eq_def] at h
  split at h
  · cases h
    cases hv with
    | int hn => exact hn
  · next b =>
      cases h
      refine hfew ?_
      cases b <;> decide
  · next x =>
      split at h
      · next m hm =>
          cases h
          rw [intOfFloat.eq_def] at hm
          split at hm
          · split at hm
            · split at hm
              · next hrange =>
                  cases hm
                  exact hfew (by omega)
              · cases hm
            · cases hm
          · cases hm
      · cases h
  · next s =>
      split at h
      · next m hm =>
          split at h
          · cases h
          · next hlimit =>
              cases h
              have hlength : s.toList.length ≤ Json.digitLimit := Nat.not_lt.mp hlimit
              exact Text.length_digits_le (by decide) (Nat.lt_of_lt_of_le (intOfText?_lt hm)
                (Nat.pow_le_pow_right (by decide) hlength))
      · cases h
  · cases h
  · cases h

end Check

/-! ## Settings that are loaded as they were saved -/

namespace Settings

open Check
open Json (Value ShortMembers)
open Text (Wide)

/-- Settings that are valid and have few digits. -/
structure Project.Lasting (p : Project) : Prop where
  valid : p.context.Valid
  digits : p.context.DigitsWithin Json.digitLimit

theorem limit_digits {name : String} {absent n : Int} {ms : List (Wide × Value)}
    (hms : ShortMembers ms) (habsent : (Text.digits absent.natAbs).length ≤ Json.digitLimit)
    (h : optional name limit absent ms = .ok n) :
    (Text.digits n.natAbs).length ≤ Json.digitLimit := by
  rcases optional_eq_ok h with ⟨v, hgiven, hv⟩ | rfl
  · rw [limit, intAbove] at hv
    split at hv
    · next hint =>
        split at hv
        · cases hv
          exact length_digits_of_int (hms.get hgiven) hint
        · cases hv
    · cases hv
  · exact habsent

theorem defaultContext_digits : defaultContext.DigitsWithin Json.digitLimit :=
  ⟨by decide +kernel, by decide +kernel, by decide +kernel⟩

theorem Context.digits_of_check {ms : List (Wide × Value)} {c : Context} (hms : ShortMembers ms)
    (h : Context.check ms = .ok c) : c.DigitsWithin Json.digitLimit := by
  obtain ⟨hfiles, hprompt, hlength, -, -⟩ := Context.check_eq_ok_iff.mp h
  obtain ⟨hfiles', hprompt', hlength'⟩ := defaultContext_digits
  exact ⟨limit_digits hms hfiles' hfiles, limit_digits hms hprompt' hprompt,
    limit_digits hms hlength' hlength⟩

theorem Project.Lasting.of_check {ms : List (Wide × Value)} {p : Project} (hms : ShortMembers ms)
    (h : Project.check ms = .ok p) : p.Lasting := by
  refine ⟨Project.valid_of_check h, ?_⟩
  simp only [Project.check, Checked.app_eq_ok, Checked.map_eq_ok] at h
  obtain ⟨_, c, ⟨_, _, ⟨_, _, rfl⟩, _, rfl⟩, hcontext, rfl⟩ := h
  rcases optional_eq_ok hcontext with ⟨v, hgiven, hv⟩ | rfl
  · rw [record.eq_def] at hv
    split at hv
    · next inner => exact Context.digits_of_check (hms.get hgiven).members hv
    · cases hv
  · exact defaultContext_digits

theorem Project.Lasting.shortMembers {p : Project} (h : p.Lasting) : ShortMembers p.members := by
  obtain ⟨hfiles, hprompt, hlength⟩ := h.digits
  have hstrings (ss : List Wide) : (Value.list (ss.map .str)).Short :=
    .list (List.forall_mem_map.mpr fun s _ => .str s)
  have hcontext : ShortMembers p.context.members := by
    simp only [ShortMembers, Context.members, List.forall_mem_cons]
    exact ⟨.int hfiles, .int hprompt, .int hlength, hstrings _, hstrings _, List.forall_mem_nil _⟩
  simp only [ShortMembers, Project.members, List.forall_mem_cons]
  exact ⟨.str _, .str _, .object hcontext, List.forall_mem_nil _⟩

theorem short_replaceAt? {new : Value} (hnew : new.Short) {path : List String}
    {ms ms' : List (Wide × Value)} (hms : ShortMembers ms)
    (h : replaceAt? new path ms = some ms') : ShortMembers ms' := by
  fun_induction replaceAt? new path ms generalizing ms' with
  | case1 => cases h
  | case2 ms name hfound =>
      cases h
      exact hms.put hnew
  | case3 => cases h
  | case4 ms name rest _ inner hinner ih =>
      obtain ⟨inner', hreplaced, rfl⟩ := Option.map_eq_some_iff.mp h
      exact hms.put (.object (ih (hms.get hinner).members hreplaced))
  | case5 => cases h

/-- A change by a value that was read leaves settings that last. -/
theorem Project.Lasting.set {p q : Project} {key : String} {v : Value} (hp : p.Lasting)
    (hv : v.Short) (h : p.set key v = .ok q) : q.Lasting := by
  rw [Project.set] at h
  split at h
  · cases h
  · next ms hms =>
      split at h
      · next q' hq =>
          cases h
          exact .of_check (short_replaceAt? hv hp.shortMembers hms) hq
      · cases h

theorem lasting_of_load {d : Disk} {root : Path} {p : Project} (h : load d root = .ok p) :
    p.Lasting := by
  rw [load] at h
  split at h
  · cases h
    exact ⟨defaultContext_valid, defaultContext_digits⟩
  · cases h
  · split at h
    · cases h
    · rw [parse.eq_def] at h
      split at h
      · cases h
      · cases h
      · cases h
      · next ms hread =>
          split at h
          · next q hq =>
              cases h
              exact Project.Lasting.of_check (Json.short_of_read hread).members hq
          · cases h
      · cases h

/-- Settings that last are loaded as they were saved. -/
theorem Project.Lasting.load_of_save {p : Project} (hp : p.Lasting) {d d' : Disk} {root : Path}
    (h : save d root p = .ok d') : load d' root = .ok p := by
  rw [load, lookUp_save h]
  simp only [Text.Utf8.decode?_encode]
  exact parse_fileText hp.valid hp.digits _

end Settings
end CodeBrief
