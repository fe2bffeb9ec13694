import CodeBrief.Proofs.Decimal
import CodeBrief.Proofs.JsonString
import CodeBrief.Proofs.Split

/-!
# Values are read as they were written

What the writer makes of a value, the reader takes from the front of any text
that goes on in a way that cannot belong to the value (`Ends`): only a number
could be continued, by more digits, a fraction or an exponent.

Three kinds of values are left out (`Value.Storable`): numbers of too many
digits and values nested deeper than there is room, which the reader refuses, and
doubles, which no settings hold. The names of an object have to differ, since of a
repeated one the reader keeps the last member only.

The reader spends one unit of fuel on a value and one on each item or member
that is left, so a text is long enough to be fuel for itself: every entry begins
with a line feed and every list with a bracket.
-/

namespace CodeBrief.Json

open Text (Wide)

/-! ## Words and numbers -/

theorem firstM_eq_none {α β : Type} {f : α → Option β} {xs : List α}
    (h : ∀ x ∈ xs, f x = none) : xs.firstM f = none := by
  induction xs with
  | nil => rfl
  | cons x xs ih =>
      rw [List.firstM, h x List.mem_cons_self, ih fun y hy => h y (List.mem_cons_of_mem x hy)]
      rfl

/-- No word has a digit among its first two characters. -/
theorem word_head {w : String × Value} (hw : w ∈ words) :
    ∃ a b cs, w.1.toList = a :: b :: cs ∧ a.isDigit = false ∧ b.isDigit = false := by
  simp only [words, List.mem_cons, List.not_mem_nil, or_false] at hw
  rcases hw with rfl | rfl | rfl | rfl | rfl | rfl <;> exact ⟨_, _, _, rfl, rfl, rfl⟩

theorem ne_of_isDigit {c d : Char} (hc : c.isDigit = false) (hd : d.isDigit = true) :
    c ≠ d := by
  rintro rfl
  rw [hc] at hd
  cases hd

theorem readWord?_digit {d : Char} (hd : d.isDigit = true) (cs : List Char) :
    readWord? (d :: cs) = none := by
  refine firstM_eq_none fun w hw => ?_
  obtain ⟨a, b, rest, hname, ha, _⟩ := word_head hw
  rw [hname, Text.dropStart?, if_neg (ne_of_isDigit ha hd), Option.map_none]

theorem readWord?_minus_digit {d : Char} (hd : d.isDigit = true) (cs : List Char) :
    readWord? ('-' :: d :: cs) = none := by
  refine firstM_eq_none fun w hw => ?_
  obtain ⟨a, b, rest, hname, _, hb⟩ := word_head hw
  rw [hname, Text.dropStart?, Text.dropStart?, if_neg (ne_of_isDigit hb hd), ite_self,
    Option.map_none]

/-- The text is at its end or goes on with what cannot belong to a number. -/
def Ends (rest : List Char) : Prop :=
  ∀ c cs, rest = c :: cs → c.isDigit = false ∧ c ≠ '.' ∧ c ≠ 'e' ∧ c ≠ 'E'

theorem ends_nil : Ends [] := fun _ _ h => nomatch h

theorem ends_comma (cs : List Char) : Ends (',' :: cs) := by
  intro _ _ h
  cases h
  decide

theorem ends_newline (level : Nat) (cs : List Char) : Ends (newline level ++ cs) := by
  intro _ _ h
  cases h
  decide

theorem takeFraction_of_ends {rest : List Char} (h : Ends rest) :
    takeFraction rest = ([], rest) := by
  rw [takeFraction.eq_def]
  split
  · next d cs => exact absurd rfl (h '.' (d :: cs) rfl).2.1
  · rfl

theorem takeExponent_of_ends {rest : List Char} (h : Ends rest) :
    takeExponent rest = (none, rest) := by
  cases rest with
  | nil => rfl
  | cons c cs =>
      obtain ⟨_, _, hlower, hupper⟩ := h c cs rfl
      exact if_neg fun he => he.elim hlower hupper

theorem finishNumber_of_ends (negative : Bool) {ds rest : List Char}
    (hlimit : ds.length ≤ digitLimit) (h : Ends rest) :
    finishNumber negative ds rest =
      .ok (.int (if negative then -(digitsValue ds : Int) else digitsValue ds), rest) := by
  rw [finishNumber, takeFraction_of_ends h]
  simp only [takeExponent_of_ends h]
  rw [if_pos ⟨rfl, rfl⟩, if_neg (Nat.not_lt.mpr hlimit)]

theorem takeWhile_of_ends {ds rest : List Char} (hds : ∀ d ∈ ds, d.isDigit = true)
    (h : Ends rest) :
    (ds ++ rest).takeWhile Char.isDigit = ds ∧ (ds ++ rest).dropWhile Char.isDigit = rest := by
  induction ds with
  | nil =>
      cases rest with
      | nil => exact ⟨rfl, rfl⟩
      | cons c cs =>
          have hc : ¬c.isDigit = true := by rw [(h c cs rfl).1]; exact Bool.false_ne_true
          exact ⟨List.takeWhile_cons_of_neg hc, List.dropWhile_cons_of_neg hc⟩
  | cons d ds ih =>
      have hd := hds d List.mem_cons_self
      obtain ⟨htake, hdrop⟩ := ih fun x hx => hds x (List.mem_cons_of_mem d hx)
      rw [List.cons_append, List.takeWhile_cons_of_pos hd, List.dropWhile_cons_of_pos hd, htake,
        hdrop]
      exact ⟨rfl, rfl⟩

/-- The digits of a number are read as the number. -/
theorem readNumber_digits (negative : Bool) (left : Nat) {n : Nat} {rest : List Char}
    (hlimit : (Text.digits n).length ≤ digitLimit) (h : Ends rest) :
    readNumber negative left (Text.digits n ++ rest) =
      .ok (.int (if negative then -(n : Int) else n), rest) := by
  have hfinish := finishNumber_of_ends negative hlimit h
  rw [digitsValue_digits] at hfinish
  -- The reader takes a zero in front for the whole number, and only zero is written with one.
  by_cases hn : n = 0
  · have hzero : Text.digits n = ['0'] := by
      rw [hn, Text.digits_eq_toDigits]
      rfl
    rw [hzero] at hfinish ⊢
    rw [List.cons_append, List.nil_append, readNumber, hfinish]
  · obtain ⟨d, ds, hdigits, hd⟩ := digits_head_ne_zero hn
    have hall : ∀ c ∈ d :: ds, c.isDigit = true := fun c hc =>
      Text.isDigit_of_mem_digits (hdigits ▸ hc)
    obtain ⟨htake, hdrop⟩ := takeWhile_of_ends (fun c hc => hall c (List.mem_cons_of_mem d hc)) h
    rw [hdigits] at hfinish ⊢
    rw [List.cons_append, readNumber, if_pos (hall d List.mem_cons_self), htake, hdrop, hfinish]
    exact hd

/-! ## Scalars -/

mutual

/-- A value that keeps its meaning when it is written and read again, with room for so many lists and
objects inside one another. -/
def Value.Storable (room : Nat) : Value → Prop
  | .null => True
  | .bool _ => True
  | .int n => (Text.digits n.natAbs).length ≤ digitLimit
  | .float _ => False
  | .str _ => True
  | .list items => ∃ inner, room = inner + 1 ∧ StorableItems inner items
  | .object members =>
      (members.map Prod.fst).Nodup ∧ ∃ inner, room = inner + 1 ∧ StorableMembers inner members

/-- All items of a list keep theirs. -/
def StorableItems (room : Nat) : List Value → Prop
  | [] => True
  | v :: vs => v.Storable room ∧ StorableItems room vs

/-- All members of an object keep theirs. -/
def StorableMembers (room : Nat) : List (Wide × Value) → Prop
  | [] => True
  | (_, v) :: ms => v.Storable room ∧ StorableMembers room ms

end

/-- What begins neither a string nor an object nor a list is a scalar. -/
theorem readValue_scalar {fuel room : Nat} {c : Char} (h : c ≠ '"' ∧ c ≠ '\x7b' ∧ c ≠ '[')
    (cs : List Char) : readValue (fuel + 1) room (c :: cs) = readScalar (c :: cs) := by
  obtain ⟨hquote, hbrace, hbracket⟩ := h
  rw [readValue.eq_def]
  simp only []
  split
  · next heq => exact absurd (List.cons.inj heq).1 hquote
  · next heq => exact absurd (List.cons.inj heq).1 hbrace
  · next heq => exact absurd (List.cons.inj heq).1 hbrace
  · next heq => exact absurd (List.cons.inj heq).1 hbracket
  · next heq => exact absurd (List.cons.inj heq).1 hbracket
  · rfl

theorem readScalar_digit {d : Char} (hd : d.isDigit = true) (cs : List Char) :
    readScalar (d :: cs) = readNumber false (d :: cs).length (d :: cs) := by
  rw [readScalar.eq_def, readWord?_digit hd]
  simp only []
  split
  · next heq =>
      cases heq
      cases hd
  · rfl

theorem readScalar_minus_digit {d : Char} (hd : d.isDigit = true) (cs : List Char) :
    readScalar ('-' :: d :: cs) = readNumber true ('-' :: d :: cs).length (d :: cs) := by
  rw [readScalar.eq_def, readWord?_minus_digit hd]
  rfl

theorem readValue_int {fuel room : Nat} {n : Int} {rest : List Char}
    (hlimit : (Text.digits n.natAbs).length ≤ digitLimit) (h : Ends rest) :
    readValue (fuel + 1) room ((intText n).toList ++ rest) = .ok (.int n, rest) := by
  cases hdigits : Text.digits n.natAbs with
  | nil => exact absurd hdigits (Text.digits_ne_nil _)
  | cons d ds =>
      have hd : d.isDigit = true := Text.isDigit_of_mem_digits (hdigits ▸ List.mem_cons_self)
      have hread (negative : Bool) (left : Nat) :
          readNumber negative left (d :: ds ++ rest) =
            .ok (.int (if negative then -(n.natAbs : Int) else n.natAbs), rest) := by
        rw [← hdigits]
        exact readNumber_digits negative left hlimit h
      rw [intText]
      split
      · next hneg =>
          have hback : -(n.natAbs : Int) = n := by omega
          rw [String.toList_ofList, hdigits, List.cons_append, List.cons_append,
            readValue_scalar (by decide), readScalar_minus_digit hd, ← List.cons_append, hread, if_pos rfl, hback]
      · next hneg =>
          have hback : (n.natAbs : Int) = n := by omega
          have hscalar : d ≠ '"' ∧ d ≠ '\x7b' ∧ d ≠ '[' :=
            ⟨(ne_of_isDigit rfl hd).symm, (ne_of_isDigit rfl hd).symm, (ne_of_isDigit rfl hd).symm⟩
          rw [String.toList_ofList, hdigits, List.cons_append, readValue_scalar hscalar,
            readScalar_digit hd, ← List.cons_append, hread, if_neg Bool.false_ne_true, hback]

theorem writeString_append (style : Style) (s : Wide) (rest : List Char) :
    writeString style s ++ rest =
      '"' :: (s.points.flatMap (writePoint style) ++ '"' :: rest) := by
  rw [writeString, List.append_assoc]
  rfl

theorem readValue_str {fuel room : Nat} (style : Style) (s : Wide) (rest : List Char) :
    readValue (fuel + 1) room (writeString style s ++ rest) = .ok (.str s, rest) := by
  rw [writeString_append, readValue, readString_flatMap]
  rfl

/-! ## Gaps -/

theorem skipGap_newline (level : Nat) (cs : List Char) :
    skipGap (newline level ++ cs) = skipGap cs := by
  have hspaces (n : Nat) : skipGap (List.replicate n ' ' ++ cs) = skipGap cs := by
    induction n with
    | zero => rfl
    | succ n ih =>
        rw [List.replicate_succ, List.cons_append, skipGap, List.dropWhile_cons_of_pos rfl]
        exact ih
  rw [newline, List.cons_append, skipGap, List.dropWhile_cons_of_pos rfl]
  exact hspaces (2 * level)

theorem skipGap_cons {c : Char} (h : isGap c = false) (cs : List Char) :
    skipGap (c :: cs) = c :: cs :=
  List.dropWhile_cons_of_neg (by rw [h]; exact Bool.false_ne_true)

theorem isGap_digit {d : Char} (hd : d.isDigit = true) : isGap d = false := by
  cases hgap : isGap d with
  | false => rfl
  | true =>
      simp only [isGap, Bool.or_eq_true, beq_iff_eq] at hgap
      rcases hgap with ((rfl | rfl) | rfl) | rfl <;> cases hd

theorem toNat_digit_lt {d : Char} (hd : d.isDigit = true) : d.toNat < 0x80 := by
  have hnine : d.val ≤ 57 := of_decide_eq_true (Bool.and_eq_true_iff.mp hd).2
  exact Nat.lt_of_le_of_lt (UInt32.le_iff_toNat_le.mp hnine) (by decide)

/-- A written value begins with a character below U+0080, but with no gap and no bracket that
closes a list. -/
theorem writeValue_head (style : Style) (level : Nat) {v : Value} {room : Nat} (hv : v.Storable room) :
    ∃ c cs, writeValue style level v = c :: cs ∧ isGap c = false ∧ c ≠ ']' ∧
      c.toNat < 0x80 := by
  cases v with
  | null => exact ⟨'n', _, rfl, by decide⟩
  | bool b => cases b <;> exact ⟨_, _, rfl, by decide⟩
  | int n =>
      cases hdigits : Text.digits n.natAbs with
      | nil => exact absurd hdigits (Text.digits_ne_nil _)
      | cons d ds =>
          have hd : d.isDigit = true :=
            Text.isDigit_of_mem_digits (hdigits ▸ List.mem_cons_self)
          rw [writeValue, intText, hdigits]
          split
          · exact ⟨'-', d :: ds, String.toList_ofList, by decide⟩
          · exact ⟨d, ds, String.toList_ofList, isGap_digit hd,
              (ne_of_isDigit (by decide) hd).symm, toNat_digit_lt hd⟩
  | float x => exact hv.elim
  | str s => exact ⟨'"', _, rfl, by decide⟩
  | list items =>
      rw [writeValue, enclose]
      split <;> exact ⟨'[', _, rfl, by decide⟩
  | object members =>
      rw [writeValue, enclose]
      split <;> exact ⟨'\x7b', _, rfl, by decide⟩

theorem skipGap_writeValue (style : Style) (level : Nat) {v : Value} {room : Nat} (hv : v.Storable room)
    (rest : List Char) :
    skipGap (writeValue style level v ++ rest) = writeValue style level v ++ rest := by
  obtain ⟨c, cs, hw, hgap, _, _⟩ := writeValue_head style level hv
  rw [hw, List.cons_append, skipGap_cons hgap]

theorem skipGap_space_writeValue (style : Style) (level : Nat) {v : Value} {room : Nat} (hv : v.Storable room)
    (rest : List Char) :
    skipGap (' ' :: (writeValue style level v ++ rest)) = writeValue style level v ++ rest :=
  skipGap_writeValue style level hv rest

/-! ## Lists -/

theorem length_join_cons {x : List Char} {xs : List (List Char)} (sep : List Char) :
    x.length + (Text.join sep xs).length ≤ (Text.join sep (x :: xs)).length := by
  cases xs with
  | nil => exact Nat.le_refl _
  | cons y ys =>
      rw [Text.join]
      simp only [List.length_append]
      omega

/-- The items of a list from one on, before the line of the closing bracket. -/
def itemsText (style : Style) (level : Nat) (vs : List Value) (rest : List Char) : List Char :=
  Text.join [','] (writeItems style (level + 1) vs) ++ (newline level ++ ']' :: rest)

theorem skipGap_itemsText_one (style : Style) (level : Nat) {v : Value} {room : Nat} (hv : v.Storable room)
    (rest : List Char) :
    skipGap (itemsText style level [v] rest) =
      writeValue style (level + 1) v ++ (newline level ++ ']' :: rest) := by
  rw [itemsText, writeItems, writeItems, Text.join, List.append_assoc, skipGap_newline,
    skipGap_writeValue style (level + 1) hv]

theorem skipGap_itemsText_cons (style : Style) (level : Nat) {v : Value} {room : Nat} (hv : v.Storable room)
    (w : Value) (vs : List Value) (rest : List Char) :
    skipGap (itemsText style level (v :: w :: vs) rest) =
      writeValue style (level + 1) v ++ ',' :: itemsText style level (w :: vs) rest := by
  have hmore : writeItems style (level + 1) (w :: vs) ≠ [] := List.cons_ne_nil _ _
  rw [itemsText, writeItems, Text.join_append hmore, List.append_assoc, skipGap_newline,
    skipGap_writeValue style (level + 1) hv]
  rfl

/-- No list with items reads as an empty one. -/
theorem skipGap_itemsText_ne (style : Style) (level : Nat) {v : Value} {room : Nat} (hv : v.Storable room)
    (vs : List Value) (rest more : List Char) :
    skipGap (itemsText style level (v :: vs) rest) ≠ ']' :: more := by
  obtain ⟨c, cs, hw, _, hc, _⟩ := writeValue_head style (level + 1) hv
  intro h
  cases vs with
  | nil =>
      rw [skipGap_itemsText_one style level hv, hw] at h
      exact hc (List.cons.inj h).1
  | cons w vs =>
      rw [skipGap_itemsText_cons style level hv, hw] at h
      exact hc (List.cons.inj h).1

theorem writeValue_list_append (style : Style) (level : Nat) (v : Value) (vs : List Value)
    (rest : List Char) :
    writeValue style level (.list (v :: vs)) ++ rest =
      '[' :: itemsText style level (v :: vs) rest := by
  rw [writeValue, enclose, if_neg (by rw [writeItems]; exact Bool.false_ne_true), itemsText]
  simp only [List.append_assoc, List.cons_append, List.nil_append]

theorem readValue_list {fuel room : Nat} {vs : List Value} {cs rest : List Char}
    (hne : ∀ more, skipGap cs ≠ ']' :: more)
    (h : readItems fuel room (skipGap cs) = .ok (vs, rest)) :
    readValue (fuel + 1) (room + 1) ('[' :: cs) = .ok (.list vs, rest) := by
  rw [readValue]
  split
  · next more hmore => exact absurd hmore (hne more)
  · rw [h]
    rfl

theorem readItems_one {fuel room level : Nat} {v : Value} {cs rest : List Char}
    (hv : readValue fuel room cs = .ok (v, newline level ++ ']' :: rest)) :
    readItems (fuel + 1) room cs = .ok ([v], rest) := by
  rw [readItems, hv]
  simp only [bind, Except.bind]
  rw [skipGap_newline, skipGap_cons (by decide)]
  rfl

theorem readItems_cons {fuel room : Nat} {v : Value} {vs : List Value} {cs more rest : List Char}
    (hv : readValue fuel room cs = .ok (v, ',' :: more))
    (hvs : readItems fuel room (skipGap more) = .ok (vs, rest)) :
    readItems (fuel + 1) room cs = .ok (v :: vs, rest) := by
  rw [readItems, hv]
  simp only [bind, Except.bind]
  rw [skipGap_cons (by decide)]
  simp only [hvs]
  rfl

/-! ## Objects -/

theorem put_of_notMem {κ α : Type} [DecidableEq κ] {name : κ} {ms : List (κ × α)} (v : α)
    (h : name ∉ ms.map Prod.fst) : put name v ms = ms ++ [(name, v)] := by
  induction ms with
  | nil => rfl
  | cons m ms ih =>
      obtain ⟨n, w⟩ := m
      rw [List.map_cons, List.mem_cons, not_or] at h
      obtain ⟨hne, htail⟩ := h
      rw [put, if_neg (Ne.symm hne), ih htail, List.cons_append]

/-- A member from its name on. -/
def memberText (style : Style) (level : Nat) (name : Wide) (v : Value) (rest : List Char) :
    List Char :=
  writeString style name ++ ':' :: ' ' :: (writeValue style level v ++ rest)

/-- The members of an object from one on, before the line of the closing brace. -/
def membersText (style : Style) (level : Nat) (ms : List (Wide × Value))
    (rest : List Char) : List Char :=
  Text.join [','] (writeMembers style (level + 1) ms) ++ (newline level ++ '\x7d' :: rest)

theorem skipGap_memberText (style : Style) (level : Nat) (name : Wide) (v : Value)
    (rest : List Char) :
    skipGap (memberText style level name v rest) = memberText style level name v rest := by
  rw [memberText, writeString_append, skipGap_cons (by decide)]

theorem skipGap_membersText_one (style : Style) (level : Nat) (name : Wide) (v : Value)
    (rest : List Char) :
    skipGap (membersText style level [(name, v)] rest) =
      memberText style (level + 1) name v (newline level ++ '\x7d' :: rest) := by
  rw [membersText, writeMembers, writeMembers, Text.join]
  simp only [List.append_assoc, List.cons_append, List.nil_append]
  rw [skipGap_newline]
  exact skipGap_memberText style (level + 1) name v _

theorem skipGap_membersText_cons (style : Style) (level : Nat) (name : Wide) (v : Value)
    (m : Wide × Value) (ms : List (Wide × Value)) (rest : List Char) :
    skipGap (membersText style level ((name, v) :: m :: ms) rest) =
      memberText style (level + 1) name v (',' :: membersText style level (m :: ms) rest) := by
  have hmore : writeMembers style (level + 1) (m :: ms) ≠ [] := by
    rw [writeMembers]
    exact List.cons_ne_nil _ _
  rw [membersText, writeMembers, Text.join_append hmore]
  simp only [List.append_assoc, List.cons_append, List.nil_append]
  rw [skipGap_newline]
  exact skipGap_memberText style (level + 1) name v _

theorem skipGap_membersText_ne (style : Style) (level : Nat) (m : Wide × Value)
    (ms : List (Wide × Value)) (rest more : List Char) :
    skipGap (membersText style level (m :: ms) rest) ≠ '\x7d' :: more := by
  obtain ⟨name, v⟩ := m
  intro h
  cases ms with
  | nil =>
      rw [skipGap_membersText_one, memberText, writeString_append] at h
      cases h
  | cons n ms =>
      rw [skipGap_membersText_cons, memberText, writeString_append] at h
      cases h

theorem writeValue_object_append (style : Style) (level : Nat) (m : Wide × Value)
    (ms : List (Wide × Value)) (rest : List Char) :
    writeValue style level (.object (m :: ms)) ++ rest =
      '\x7b' :: membersText style level (m :: ms) rest := by
  rw [writeValue, enclose, if_neg (by rw [writeMembers]; exact Bool.false_ne_true), membersText]
  simp only [List.append_assoc, List.cons_append, List.nil_append]

theorem readValue_object {fuel room : Nat} {ms : List (Wide × Value)} {cs rest : List Char}
    (hne : ∀ more, skipGap cs ≠ '\x7d' :: more)
    (h : readMembers fuel room [] (skipGap cs) = .ok (ms, rest)) :
    readValue (fuel + 1) (room + 1) ('\x7b' :: cs) = .ok (.object ms, rest) := by
  rw [readValue]
  split
  · next more hmore => exact absurd hmore (hne more)
  · rw [h]
    rfl

/-- The last member of an object. -/
theorem readMembers_one {style : Style} {fuel room level : Nat} {name : Wide} {v : Value}
    {sofar : List (Wide × Value)} {rest more : List Char} (hs : v.Storable room)
    (hv : readValue fuel room (writeValue style level v ++ rest) = .ok (v, rest))
    (hend : skipGap rest = '\x7d' :: more) :
    readMembers (fuel + 1) room sofar (memberText style level name v rest) =
      .ok (put name v sofar, more) := by
  rw [memberText, writeString_append, readMembers, readString_flatMap]
  simp only [bind, Except.bind]
  rw [skipGap_cons (by decide)]
  simp only [skipGap_space_writeValue style level hs, hv, hend]

/-- A member that others follow. -/
theorem readMembers_cons {style : Style} {fuel room level : Nat} {name : Wide} {v : Value}
    {sofar ms : List (Wide × Value)} {rest more after : List Char} (hs : v.Storable room)
    (hv : readValue fuel room (writeValue style level v ++ rest) = .ok (v, rest))
    (hcomma : skipGap rest = ',' :: more)
    (hms : readMembers fuel room (put name v sofar) (skipGap more) = .ok (ms, after)) :
    readMembers (fuel + 1) room sofar (memberText style level name v rest) = .ok (ms, after) := by
  rw [memberText, writeString_append, readMembers, readString_flatMap]
  simp only [bind, Except.bind]
  rw [skipGap_cons (by decide)]
  simp only [skipGap_space_writeValue style level hs, hv, hcomma, hms]

/-! ## All values

The recursion is the reader's own, on the fuel, so each of the three lemmas only
has to pass on that the text which is left is shorter than the fuel which is. -/

theorem length_writeItems_lt {style : Style} {level fuel : Nat} {v : Value} {vs : List Value}
    (h : (Text.join [','] (writeItems style level (v :: vs))).length < fuel + 1) :
    (writeValue style level v).length < fuel ∧
      (Text.join [','] (writeItems style level vs)).length < fuel := by
  rw [writeItems] at h
  have hjoin := Nat.lt_of_le_of_lt (length_join_cons [',']) h
  have hnewline : 0 < (newline level).length := Nat.succ_pos _
  rw [List.length_append] at hjoin
  omega

theorem length_writeMembers_lt {style : Style} {level fuel : Nat} {name : Wide} {v : Value}
    {ms : List (Wide × Value)}
    (h : (Text.join [','] (writeMembers style level ((name, v) :: ms))).length < fuel + 1) :
    (writeValue style level v).length < fuel ∧
      (Text.join [','] (writeMembers style level ms)).length < fuel := by
  rw [writeMembers] at h
  have hjoin := Nat.lt_of_le_of_lt (length_join_cons [',']) h
  have hnewline : 0 < (newline level).length := Nat.succ_pos _
  rw [List.length_append, List.length_append, List.length_append] at hjoin
  omega

mutual

/-- A written value is read from the front of any text that does not continue it. -/
theorem readValue_writeValue (style : Style) (level : Nat) {fuel room : Nat} {v : Value}
    {rest : List Char} (hv : v.Storable room) (hends : Ends rest)
    (hfuel : (writeValue style level v).length < fuel) :
    readValue fuel room (writeValue style level v ++ rest) = .ok (v, rest) := by
  match fuel with
  | 0 => exact absurd hfuel (Nat.not_lt_zero _)
  | fuel + 1 =>
      match v with
      | .null => rfl
      | .bool true => rfl
      | .bool false => rfl
      | .int n => exact readValue_int hv hends
      | .float x => exact hv.elim
      | .str s => exact readValue_str style s rest
      | .list [] =>
          obtain ⟨inner, rfl, -⟩ := hv
          rfl
      | .list (v :: vs) =>
          obtain ⟨inner, rfl, hvs⟩ := hv
          have hlength := congrArg List.length (writeValue_list_append style level v vs [])
          rw [List.append_nil, itemsText, List.length_cons, List.length_append] at hlength
          rw [writeValue_list_append]
          exact readValue_list (skipGap_itemsText_ne style level hvs.1 vs rest)
            (readItems_itemsText style level hvs (by omega))
      | .object [] =>
          obtain ⟨-, inner, rfl, -⟩ := hv
          rfl
      | .object ((name, v) :: ms) =>
          obtain ⟨hnames, inner, rfl, hms⟩ := hv
          have hlength :=
            congrArg List.length (writeValue_object_append style level (name, v) ms [])
          rw [List.append_nil, membersText, List.length_cons, List.length_append] at hlength
          rw [writeValue_object_append]
          exact readValue_object (skipGap_membersText_ne style level (name, v) ms rest)
            (readMembers_membersText style level hnames hms (by omega))

theorem readItems_itemsText (style : Style) (level : Nat) {fuel room : Nat} {v : Value}
    {vs : List Value} {rest : List Char} (hvs : StorableItems room (v :: vs))
    (hfuel : (Text.join [','] (writeItems style (level + 1) (v :: vs))).length < fuel) :
    readItems fuel room (skipGap (itemsText style level (v :: vs) rest)) = .ok (v :: vs, rest) := by
  match fuel with
  | 0 => exact absurd hfuel (Nat.not_lt_zero _)
  | fuel + 1 =>
      obtain ⟨hv, hvs⟩ := hvs
      obtain ⟨hlength, hlengths⟩ := length_writeItems_lt hfuel
      match vs with
      | [] =>
          rw [skipGap_itemsText_one style level hv]
          exact readItems_one
            (readValue_writeValue style (level + 1) hv (ends_newline level _) hlength)
      | w :: vs =>
          rw [skipGap_itemsText_cons style level hv]
          exact readItems_cons
            (readValue_writeValue style (level + 1) hv (ends_comma _) hlength)
            (readItems_itemsText style level hvs hlengths)

theorem readMembers_membersText (style : Style) (level : Nat) {fuel room : Nat} {name : Wide}
    {v : Value} {sofar ms : List (Wide × Value)} {rest : List Char}
    (hnames : ((sofar ++ (name, v) :: ms).map Prod.fst).Nodup)
    (hms : StorableMembers room ((name, v) :: ms))
    (hfuel : (Text.join [','] (writeMembers style (level + 1) ((name, v) :: ms))).length <
      fuel) :
    readMembers fuel room sofar (skipGap (membersText style level ((name, v) :: ms) rest)) =
      .ok (sofar ++ (name, v) :: ms, rest) := by
  match fuel with
  | 0 => exact absurd hfuel (Nat.not_lt_zero _)
  | fuel + 1 =>
      obtain ⟨hv, hms⟩ := hms
      obtain ⟨hlength, hlengths⟩ := length_writeMembers_lt hfuel
      -- The names differ, so the member goes behind those read so far and replaces none.
      have hput : put name v sofar = sofar ++ [(name, v)] := by
        refine put_of_notMem v fun hmem => ?_
        rw [List.map_append, List.map_cons, List.nodup_append] at hnames
        exact hnames.2.2 name hmem name List.mem_cons_self rfl
      match ms with
      | [] =>
          have hend : skipGap (newline level ++ '\x7d' :: rest) = '\x7d' :: rest := by
            rw [skipGap_newline, skipGap_cons (by decide)]
          rw [skipGap_membersText_one, ← hput]
          exact readMembers_one hv
            (readValue_writeValue style (level + 1) hv (ends_newline level _) hlength) hend
      | (next, w) :: ms =>
          have hsplit : sofar ++ (name, v) :: (next, w) :: ms =
              put name v sofar ++ (next, w) :: ms := by
            rw [hput, List.append_assoc]
            rfl
          rw [hsplit] at hnames ⊢
          rw [skipGap_membersText_cons]
          exact readMembers_cons hv
            (readValue_writeValue style (level + 1) hv (ends_comma _) hlength)
            (skipGap_cons (by decide) _)
            (readMembers_membersText style level hnames hms hlengths)

end

/-- The text of a value is read as the value. -/
theorem read_write (style : Style) {v : Value} (hv : v.Storable nestingLimit) :
    read (write style v).toList = .ok v := by
  obtain ⟨c, cs, hw, hgap, _, hc⟩ := writeValue_head style 0 hv
  have hread : readValue (2 * (writeValue style 0 v).length + 1) nestingLimit
      (writeValue style 0 v) = .ok (v, []) := by
    have hfuel : (writeValue style 0 v).length < 2 * (writeValue style 0 v).length + 1 := by omega
    have h := readValue_writeValue style 0 hv ends_nil hfuel
    rwa [List.append_nil] at h
  rw [write, String.toList_ofList]
  rw [hw] at hread ⊢
  rw [read, if_neg (by omega), read.go, skipGap_cons hgap, hread]
  rfl

end CodeBrief.Json
