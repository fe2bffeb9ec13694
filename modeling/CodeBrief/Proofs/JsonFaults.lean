import Mathlib.Data.List.TakeWhile
import CodeBrief.Json.Reader
import CodeBrief.Proofs.Split

/-!
# What a text without a complaint is refused for

A reader goes from the front of a text to its end. What it leaves is an end of
what it was given, so whatever is found wrong further on is wrong in the whole
text. One predicate says both of a result (`FromFront`), and it passes through a
chain of readers (`FromFront.bind`), so every reader has one lemma.

Two faults have no complaint. A whole number is refused for its length in a
single place, where its digits have just been read, so more than 4300 digits
stand in a row in the text (`manyDigits_of_read`). A list or an object is refused
where no room is left for it, and each one around it has taken some, so more
opening brackets stand in the text than there was room for
(`opening_of_read`). A text with neither is read, or refused with a complaint.
-/

namespace CodeBrief.Json

variable {α β : Type} {room : Nat} {cs rest : List Char}

/-- More digits in a row than a whole number may have. -/
def ManyDigits (cs : List Char) : Prop :=
  ∃ ds, ds <:+: cs ∧ digitLimit < ds.length ∧ ∀ d ∈ ds, d.isDigit = true

theorem ManyDigits.of_infix (h : ManyDigits rest) (hin : rest <:+: cs) : ManyDigits cs := by
  obtain ⟨ds, hds, hlong, hdigit⟩ := h
  exact ⟨ds, hds.trans hin, hlong, hdigit⟩

/-- The brackets that open a list or an object. -/
def isOpening (c : Char) : Bool :=
  c == '[' || c == '{'

/-- What comes of reading from the front of a text, with room for so many lists and objects inside one
another: the rest is an end of the text, a number that is refused as too long stands in it, and more
lists and objects are opened in it than there was room for if one is refused as lying too deep. -/
def FromFront (room : Nat) (cs : List Char) : Except Fault (α × List Char) → Prop
  | .ok (_, rest) => rest <:+ cs
  | .error .numberTooLong => ManyDigits cs
  | .error .nestedTooDeep => room < cs.countP isOpening
  | .error (.syntaxAt _ _) => True

theorem FromFront.of_suffix {r : Except Fault (α × List Char)} (h : FromFront room rest r)
    (hend : rest <:+ cs) : FromFront room cs r := by
  match r with
  | .ok (_, _) => exact List.IsSuffix.trans h hend
  | .error .numberTooLong => exact ManyDigits.of_infix h hend.isInfix
  | .error .nestedTooDeep => exact Nat.lt_of_lt_of_le h (hend.sublist.countP_le)
  | .error (.syntaxAt _ _) => trivial

theorem FromFront.cons {r : Except Fault (α × List Char)} {c : Char} (h : FromFront room cs r) :
    FromFront room (c :: cs) r :=
  h.of_suffix (List.suffix_cons c cs)

/-- Behind an opening bracket there is less room by one. -/
theorem FromFront.opening {r : Except Fault (α × List Char)} {c : Char} (hc : isOpening c = true)
    (h : FromFront room cs r) : FromFront (room + 1) (c :: cs) r := by
  match r with
  | .error .nestedTooDeep =>
      have hcount := List.countP_cons_of_pos (l := cs) hc
      have hroom : room < cs.countP isOpening := h
      show room + 1 < (c :: cs).countP isOpening
      omega
  | .ok (_, _) | .error .numberTooLong | .error (.syntaxAt _ _) => exact FromFront.cons h

theorem FromFront.skipGap {r : Except Fault (α × List Char)} (h : FromFront room (skipGap cs) r) :
    FromFront room cs r :=
  h.of_suffix (List.dropWhile_suffix _)

/-- Reading goes on from what one reader left. -/
theorem FromFront.bind {r : Except Fault (α × List Char)}
    {f : α × List Char → Except Fault (β × List Char)} (h : FromFront room cs r)
    (hf : ∀ a rest, rest <:+ cs → FromFront room cs (f (a, rest))) :
    FromFront room cs (r >>= f) := by
  match r with
  | .ok (a, rest) => exact hf a rest h
  | .error .numberTooLong | .error .nestedTooDeep => exact h
  | .error (.syntaxAt _ _) => trivial

/-! ## Strings -/

theorem fromFront_takeHex4 (room : Nat) (cs : List Char) : FromFront room cs (takeHex4 cs) := by
  rw [takeHex4.eq_def]
  split
  · next a b c d e rest =>
      split
      · exact ⟨[a, b, c, d], rfl⟩
      · trivial
  · trivial

theorem fromFront_readEscape (room start : Nat) (cs : List Char) :
    FromFront room cs (readEscape start cs) := by
  rw [readEscape.eq_def]
  split
  · trivial
  · next cs => exact FromFront.cons ((fromFront_takeHex4 room cs).bind fun n rest hend => hend)
  · next c cs _ =>
      split
      · exact List.suffix_cons c cs
      · trivial

theorem fromFront_readPoints (room start fuel : Nat) (cs : List Char) :
    FromFront room cs (readPoints start fuel cs) := by
  induction fuel generalizing cs with
  | zero => trivial
  | succ fuel ih =>
      cases cs with
      | nil => trivial
      | cons c cs =>
          rw [readPoints]
          split
          · exact List.suffix_cons c cs
          · split
            · refine FromFront.cons ((fromFront_readEscape room start cs).bind fun p rest hend => ?_)
              exact ((ih rest).of_suffix hend).bind fun ps rest' hend' => hend'
            · split
              · trivial
              · exact FromFront.cons ((ih cs).bind fun ps rest hend => hend)

theorem fromFront_readString (room : Nat) (cs : List Char) : FromFront room cs (readString cs) :=
  (fromFront_readPoints room _ _ cs).bind fun _ _ hend => hend

/-! ## Numbers -/

theorem takeFraction_suffix (cs : List Char) : (takeFraction cs).2 <:+ cs := by
  rw [takeFraction.eq_def]
  split
  · next d cs =>
      split
      · exact ((List.dropWhile_suffix _).trans (List.suffix_cons d cs)).trans (List.suffix_cons '.' _)
      · exact List.suffix_rfl
  · exact List.suffix_rfl

theorem takeExponent_suffix (cs : List Char) : (takeExponent cs).2 <:+ cs := by
  rw [takeExponent.eq_def]
  simp only []
  split
  · next e rest =>
      have hdrop {ds : List Char} (hds : ds <:+ rest) :
          ds.dropWhile Char.isDigit <:+ e :: rest :=
        (List.dropWhile_suffix _).trans (hds.trans (List.suffix_cons e rest))
      split
      · split
        all_goals
          split
          · split
            · exact hdrop (by simp)
            · exact List.suffix_rfl
          · exact List.suffix_rfl
      · exact List.suffix_rfl
  · exact List.suffix_rfl

theorem fromFront_finishNumber (room : Nat) (negative : Bool) {ds : List Char}
    (hds : ∀ d ∈ ds, d.isDigit = true) (rest : List Char) : FromFront room (ds ++ rest) (finishNumber negative ds rest) := by
  have hend : (takeExponent (takeFraction rest).2).2 <:+ ds ++ rest :=
    ((takeExponent_suffix _).trans (takeFraction_suffix rest)).trans (List.suffix_append ds rest)
  rw [finishNumber]
  simp only []
  split
  · split
    · next hlong => exact ⟨ds, (List.prefix_append ds rest).isInfix, hlong, hds⟩
    · exact hend
  · exact hend

theorem fromFront_readNumber (room : Nat) (negative : Bool) (left : Nat) (cs : List Char) :
    FromFront room cs (readNumber negative left cs) := by
  rw [readNumber.eq_def]
  split
  · next cs => exact fromFront_finishNumber room negative (by simp) cs
  · next c cs _ =>
      split
      · next hc =>
          have hds : ∀ d ∈ c :: cs.takeWhile Char.isDigit, d.isDigit = true :=
            List.forall_mem_cons.mpr ⟨hc, fun d hd => List.mem_takeWhile_imp hd⟩
          have hnumber := fromFront_finishNumber room negative hds (cs.dropWhile Char.isDigit)
          rwa [List.cons_append, List.takeWhile_append_dropWhile] at hnumber
      · trivial
  · trivial

/-! ## Values -/

theorem suffix_of_dropStart? {needle : List Char} (h : Text.dropStart? needle cs = some rest) :
    rest <:+ cs := by
  induction needle generalizing cs with
  | nil =>
      rw [Text.dropStart?] at h
      cases h
      exact List.suffix_rfl
  | cons n ns ih =>
      cases cs with
      | nil => cases h
      | cons c cs =>
          rw [Text.dropStart?] at h
          split at h
          · exact (ih h).trans (List.suffix_cons c cs)
          · cases h

theorem suffix_of_readWord? {v : Value} (h : readWord? cs = some (v, rest)) : rest <:+ cs := by
  rw [readWord?, firstM_eq_findSome?] at h
  obtain ⟨w, -, hw⟩ := List.exists_of_findSome?_eq_some h
  obtain ⟨rest', hrest, heq⟩ := Option.map_eq_some_iff.mp hw
  cases heq
  exact suffix_of_dropStart? hrest

theorem fromFront_readScalar (room : Nat) (cs : List Char) : FromFront room cs (readScalar cs) := by
  rw [readScalar.eq_def]
  split
  · next found hfound => exact suffix_of_readWord? hfound
  · split
    · exact (fromFront_readNumber room true _ _).cons
    · exact fromFront_readNumber room false _ cs

mutual

theorem fromFront_readValue (fuel room : Nat) (cs : List Char) :
    FromFront room cs (readValue fuel room cs) := by
  match fuel with
  | 0 => trivial
  | fuel + 1 =>
      rw [readValue.eq_def]
      simp only []
      split
      · next rest =>
          exact FromFront.cons ((fromFront_readString room rest).bind fun s rest' hend => hend)
      · next rest => exact Nat.zero_lt_of_lt (List.countP_cons_of_pos (l := rest) rfl).ge
      · next rest room =>
          refine FromFront.opening rfl (FromFront.skipGap ?_)
          split
          · next rest' heq =>
              rw [heq]
              exact List.suffix_cons '}' rest'
          · exact (fromFront_readMembers fuel room [] _).bind fun ms rest' hend => hend
      · next rest => exact Nat.zero_lt_of_lt (List.countP_cons_of_pos (l := rest) rfl).ge
      · next rest room =>
          refine FromFront.opening rfl (FromFront.skipGap ?_)
          split
          · next rest' heq =>
              rw [heq]
              exact List.suffix_cons ']' rest'
          · exact (fromFront_readItems fuel room _).bind fun vs rest' hend => hend
      · exact fromFront_readScalar room cs

theorem fromFront_readItems (fuel room : Nat) (cs : List Char) :
    FromFront room cs (readItems fuel room cs) := by
  match fuel with
  | 0 => trivial
  | fuel + 1 =>
      rw [readItems.eq_def]
      simp only []
      refine (fromFront_readValue fuel room cs).bind fun v rest hend => ?_
      refine (FromFront.skipGap ?_).of_suffix hend
      simp only []
      split
      · next rest' heq =>
          rw [heq]
          exact List.suffix_cons ']' rest'
      · next rest' heq =>
          rw [heq]
          exact FromFront.cons (FromFront.skipGap
            ((fromFront_readItems fuel room _).bind fun vs rest'' hend' => hend'))
      · trivial

theorem fromFront_readMembers (fuel room : Nat) (sofar : List (Text.Wide × Value))
    (cs : List Char) : FromFront room cs (readMembers fuel room sofar cs) := by
  match fuel with
  | 0 => trivial
  | fuel + 1 =>
      rw [readMembers.eq_def]
      simp only []
      split
      · next rest =>
          refine FromFront.cons ((fromFront_readString room rest).bind fun name rest' hend => ?_)
          refine (FromFront.skipGap ?_).of_suffix hend
          simp only []
          split
          · next more heq =>
              rw [heq]
              refine FromFront.cons (FromFront.skipGap
                ((fromFront_readValue fuel room _).bind fun v rest'' hend' => ?_))
              refine (FromFront.skipGap ?_).of_suffix hend'
              simp only []
              split
              · next rest₃ heq =>
                  rw [heq]
                  exact List.suffix_cons '}' rest₃
              · next rest₃ heq =>
                  rw [heq]
                  exact FromFront.cons (FromFront.skipGap (fromFront_readMembers fuel room _ _))
              · trivial
          · trivial
      · trivial

end

end CodeBrief.Json
