import CodeBrief.Proofs.JsonRoundTrip

/-!
# The translation of line breaks leaves a written value alone

A text read from a file has its carriage returns turned into line feeds before
anything else sees it. The writer itself only ever breaks a line with a line
feed, and inside a string it escapes a carriage return, so a written value has
none to turn (`normalizeBreaks_writeValue`).
-/

namespace CodeBrief.Json

open Text (Point Wide)

/-! ## Parts of a value -/

theorem hexDigit_ne_return {d : Nat} (h : d < 16) : Text.hexDigit d ≠ '\r' := by
  have hall : ∀ d < 16, Text.hexDigit d ≠ '\r' := by decide
  exact hall d h

theorem return_notMem_unitEscape (n : Nat) : '\r' ∉ unitEscape n := by
  have hhex : unitEscape n = ['\\', 'u', Text.hexDigit (n / 16 / 16 / 16 % 16),
      Text.hexDigit (n / 16 / 16 % 16), Text.hexDigit (n / 16 % 16),
      Text.hexDigit (n % 16)] := rfl
  have hdigit (m : Nat) : '\r' ≠ Text.hexDigit (m % 16) :=
    (hexDigit_ne_return (Nat.mod_lt m (by decide))).symm
  rw [hhex]
  simp only [List.mem_cons, List.not_mem_nil, or_false, hdigit, or_self]
  decide

theorem return_notMem_writeChar (style : Style) (c : Char) : '\r' ∉ writeChar style c := by
  rcases writeChar_cases style c with ⟨letter, _, he, hw⟩ | ⟨_, hw⟩ | ⟨_, _, hc, hw⟩ | ⟨_, _, _, hw⟩
  · have hletter : '\r' ≠ letter := by
      rintro rfl
      cases he
    rw [hw, List.mem_cons, List.mem_singleton, not_or]
    exact ⟨by decide, hletter⟩
  · rw [hw]
    exact return_notMem_unitEscape _
  · rw [hw, List.mem_singleton]
    rintro rfl
    exact hc (by decide)
  · rw [hw, List.mem_append, not_or]
    exact ⟨return_notMem_unitEscape _, return_notMem_unitEscape _⟩

theorem return_notMem_writePoint (style : Style) (p : Point) : '\r' ∉ writePoint style p := by
  cases p with
  | char c => exact return_notMem_writeChar style c
  | high _ => exact return_notMem_unitEscape _
  | low _ => exact return_notMem_unitEscape _

theorem return_notMem_writeString (style : Style) (s : Wide) : '\r' ∉ writeString style s := by
  rw [writeString, List.mem_append, List.mem_cons, List.mem_flatMap, List.mem_singleton]
  rintro ((h | ⟨p, _, h⟩) | h)
  · exact absurd h (by decide)
  · exact return_notMem_writePoint style p h
  · exact absurd h (by decide)

theorem return_notMem_newline (level : Nat) : '\r' ∉ newline level := by
  rw [newline, List.mem_cons, List.mem_replicate]
  rintro (h | ⟨_, h⟩) <;> exact absurd h (by decide)

theorem return_notMem_intText (n : Int) : '\r' ∉ (intText n).toList := by
  have hdigits : '\r' ∉ Text.digits n.natAbs := fun h => by
    have hreturn : '\r'.isDigit = true := Text.isDigit_of_mem_digits h
    cases hreturn
  rw [intText]
  split
  · rw [String.toList_ofList, List.mem_cons, not_or]
    exact ⟨by decide, hdigits⟩
  · rw [String.toList_ofList]
    exact hdigits

theorem return_notMem_enclose {opening closing : Char} {level : Nat}
    {entries : List (List Char)} (hopening : '\r' ≠ opening) (hclosing : '\r' ≠ closing)
    (h : ∀ x ∈ entries, '\r' ∉ x) : '\r' ∉ enclose opening closing level entries := by
  rw [enclose]
  split
  · rw [List.mem_cons, List.mem_singleton, not_or]
    exact ⟨hopening, hclosing⟩
  · rw [List.mem_append, List.mem_append, List.mem_cons, List.mem_singleton]
    rintro (((hc | hc) | hc) | hc)
    · exact hopening hc
    · rcases Text.mem_join hc with hc | ⟨x, hx, hc⟩
      · exact absurd hc (by decide)
      · exact h x hx hc
    · exact return_notMem_newline level hc
    · exact hclosing hc

/-! ## All values -/

mutual

/-- A written value has no carriage return in it: inside strings it is escaped. -/
theorem return_notMem_writeValue (style : Style) (level : Nat) (v : Value) {room : Nat}
    (hv : v.Storable room) :
    '\r' ∉ writeValue style level v := by
  match v with
  | .null => exact (by decide : '\r' ∉ "null".toList)
  | .bool true => exact (by decide : '\r' ∉ "true".toList)
  | .bool false => exact (by decide : '\r' ∉ "false".toList)
  | .int n => exact return_notMem_intText n
  | .float x => exact hv.elim
  | .str s => exact return_notMem_writeString style s
  | .list items =>
      obtain ⟨_, -, hvs⟩ := hv
      exact return_notMem_enclose (by decide) (by decide)
        (return_notMem_writeItems style (level + 1) items hvs)
  | .object members =>
      obtain ⟨-, _, -, hms⟩ := hv
      exact return_notMem_enclose (by decide) (by decide)
        (return_notMem_writeMembers style (level + 1) members hms)

theorem return_notMem_writeItems (style : Style) (level : Nat) (vs : List Value) {room : Nat}
    (hvs : StorableItems room vs) : ∀ x ∈ writeItems style level vs, '\r' ∉ x := by
  match vs with
  | [] => exact fun _ h => nomatch h
  | v :: vs =>
      rw [writeItems, List.forall_mem_cons, List.mem_append, not_or]
      exact ⟨⟨return_notMem_newline level, return_notMem_writeValue style level v hvs.1⟩,
        return_notMem_writeItems style level vs hvs.2⟩

theorem return_notMem_writeMembers (style : Style) (level : Nat) (ms : List (Wide × Value))
    {room : Nat} (hms : StorableMembers room ms) : ∀ x ∈ writeMembers style level ms, '\r' ∉ x := by
  match ms with
  | [] => exact fun _ h => nomatch h
  | (name, v) :: ms =>
      rw [writeMembers, List.forall_mem_cons, List.mem_append, List.mem_append,
        List.mem_append]
      refine ⟨?_, return_notMem_writeMembers style level ms hms.2⟩
      rintro (((h | h) | h) | h)
      · exact return_notMem_newline level h
      · exact return_notMem_writeString style name h
      · exact absurd h (by decide)
      · exact return_notMem_writeValue style level v hms.1 h

end

theorem normalizeBreaks_of_notMem {cs : List Char} (h : '\r' ∉ cs) :
    Text.normalizeBreaks cs = cs := by
  induction cs with
  | nil => rfl
  | cons c cs ih =>
      rw [List.mem_cons, not_or] at h
      obtain ⟨hc, hcs⟩ := h
      rw [Text.normalizeBreaks, ih hcs]
      · exact fun _ hreturn _ => hc hreturn.symm
      · exact fun hreturn => hc hreturn.symm

theorem normalizeBreaks_writeValue (style : Style) (level : Nat) {v : Value} {room : Nat}
    (hv : v.Storable room) :
    Text.normalizeBreaks (writeValue style level v) = writeValue style level v :=
  normalizeBreaks_of_notMem (return_notMem_writeValue style level v hv)

end CodeBrief.Json
