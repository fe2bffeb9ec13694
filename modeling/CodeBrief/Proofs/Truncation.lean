import CodeBrief.Truncation

/-!
# A capped text fits its cap

Whatever the text and wherever the cut falls, the cap is kept: a late line feed
only moves the cut back, and the marker is added where there is room for it. A
negative cap leaves nothing.

A larger cap never gives a shorter text. The one place where this is in question
is a cut that moves back in the larger room and not in the smaller one: the line
feed that it moves back to is then behind the smaller room, because in front of
its end it would be late there as well (`cutPoint_mono`).

Where the cut falls can be said without a search for it (`CutAt`): the last line
feed is the one behind which there is no other. A cap that a text fits leaves it
alone, and so the same cap changes nothing the second time.
-/

namespace CodeBrief

theorem Text.lastIndexOf?_lt {x : Char} {cs : List Char} {i : Nat}
    (h : lastIndexOf? x cs = some i) : i < cs.length := by
  induction cs generalizing i with
  | nil => cases h
  | cons c cs ih =>
      rw [lastIndexOf?] at h
      split at h
      · next j hj =>
          cases h
          exact Nat.succ_lt_succ (ih hj)
      · split at h
        · cases h
          exact Nat.succ_pos _
        · cases h

theorem Text.lastIndexOf?_eq_none_iff {x : Char} {cs : List Char} :
    lastIndexOf? x cs = none ↔ x ∉ cs := by
  induction cs with
  | nil => simp [lastIndexOf?]
  | cons c cs ih =>
      rw [lastIndexOf?, List.mem_cons, not_or, ← ih]
      cases lastIndexOf? x cs with
      | some i => simp
      | none => simp [eq_comm]

/-- The last occurrence of a character is one behind which there is no other. -/
theorem Text.lastIndexOf?_append {x : Char} {b : List Char} (hb : x ∉ b) (a : List Char) :
    lastIndexOf? x (a ++ x :: b) = some a.length := by
  induction a with
  | nil =>
      rw [List.nil_append, lastIndexOf?, lastIndexOf?_eq_none_iff.mpr hb]
      exact if_pos rfl
  | cons c a ih =>
      rw [List.cons_append, lastIndexOf?, ih]
      rfl

theorem Text.exists_of_lastIndexOf? {x : Char} {cs : List Char} {i : Nat}
    (h : lastIndexOf? x cs = some i) : ∃ a b, cs = a ++ x :: b ∧ a.length = i ∧ x ∉ b := by
  induction cs generalizing i with
  | nil => cases h
  | cons c cs ih =>
      rw [lastIndexOf?] at h
      split at h
      · next j hj =>
          cases h
          obtain ⟨a, b, rfl, rfl, hb⟩ := ih hj
          exact ⟨c :: a, b, rfl, rfl, hb⟩
      · next hnone =>
          split at h
          · next hc =>
              cases h
              exact ⟨[], cs, congrArg (· :: cs) hc, rfl, lastIndexOf?_eq_none_iff.mp hnone⟩
          · cases h

theorem Text.lastIndexOf?_take {x : Char} {cs : List Char} {i n : Nat}
    (h : lastIndexOf? x cs = some i) (hn : i < n) : lastIndexOf? x (cs.take n) = some i := by
  obtain ⟨a, b, rfl, rfl, hb⟩ := exists_of_lastIndexOf? h
  obtain ⟨k, rfl⟩ := Nat.exists_eq_add_of_lt hn
  rw [Nat.add_assoc, List.take_length_add_append, List.take_succ_cons]
  exact lastIndexOf?_append (fun hmem => hb (List.mem_of_mem_take hmem)) a

theorem cutPoint_le (cs : List Char) (room : Nat) : cutPoint cs room ≤ room := by
  rw [cutPoint]
  split
  · next i hi =>
      have hlt := Text.lastIndexOf?_lt hi
      rw [List.length_take] at hlt
      split <;> omega
  · exact Nat.le_refl _

/-- More room never moves the cut to the front. -/
theorem cutPoint_mono (cs : List Char) {room room' : Nat} (h : room ≤ room') :
    cutPoint cs room ≤ cutPoint cs room' := by
  have hle := cutPoint_le cs room
  rw [cutPoint.eq_def cs room']
  split
  · next i hi =>
      split
      · next hlate =>
          rcases Nat.lt_or_ge i room with hlt | hge
          · -- the line feed is in the smaller room as well, and later there
            have hlast := Text.lastIndexOf?_take hi hlt
            rw [List.take_take, Nat.min_eq_left h] at hlast
            have hcut : cutPoint cs room = i := by
              rw [cutPoint, hlast]
              exact if_pos (by omega)
            exact Nat.le_of_eq hcut
          · omega
      · omega
  · omega

theorem length_truncateChars_le (cs : List Char) (limit : Int) :
    (truncateChars cs limit).length ≤ limit.toNat := by
  rw [truncateChars]
  split
  · omega
  · split
    · exact List.length_take_le _ _
    · next hroom =>
        have hcut := cutPoint_le cs (limit.toNat - truncationMarker.length)
        rw [List.length_append, List.length_take]
        omega

theorem length_truncateChars_le_length (cs : List Char) (limit : Int) :
    (truncateChars cs limit).length ≤ cs.length := by
  have hle := length_truncateChars_le cs limit
  rw [truncateChars] at hle ⊢
  split
  · exact Nat.le_refl _
  · next hlong =>
      rw [if_neg hlong] at hle
      omega

/-- A larger cap never gives a shorter text. -/
theorem length_truncateChars_mono (cs : List Char) {limit limit' : Int} (h : limit ≤ limit') :
    (truncateChars cs limit).length ≤ (truncateChars cs limit').length := by
  by_cases hfits : (cs.length : Int) ≤ limit'
  · rw [truncateChars.eq_def cs limit', if_pos hfits]
    exact length_truncateChars_le_length cs limit
  · rw [truncateChars, truncateChars, if_neg hfits, if_neg (by omega)]
    split
    · next hsmall =>
        split
        · rw [List.length_take, List.length_take]
          omega
        · rw [List.length_append, List.length_take]
          omega
    · next hroom =>
        have hcut := cutPoint_mono cs
          (show limit.toNat - truncationMarker.length ≤
            limit'.toNat - truncationMarker.length by omega)
        rw [if_neg (by omega), List.length_append, List.length_append, List.length_take,
          List.length_take]
        omega

/-- A text that is as long under a cap as it was has not been cut. -/
theorem truncateChars_of_length_eq {cs : List Char} {limit : Int}
    (h : (truncateChars cs limit).length = cs.length) : truncateChars cs limit = cs := by
  have hle := length_truncateChars_le cs limit
  by_cases hfits : (cs.length : Int) ≤ limit
  · rw [truncateChars, if_pos hfits]
  · have hnil : cs = [] := List.length_eq_zero_iff.mp (by omega)
    rw [hnil] at h ⊢
    exact List.length_eq_zero_iff.mp h

theorem toList_truncate (s : String) (limit : Int) :
    (truncate s limit).toList = truncateChars s.toList limit :=
  String.toList_ofList

theorem length_truncate_le (s : String) (limit : Int) :
    (truncate s limit).length ≤ limit.toNat := by
  rw [truncate, String.length_ofList]
  exact length_truncateChars_le s.toList limit

/-- Whatever the text, a larger limit never makes it shorter. -/
theorem length_truncate_mono (s : String) {limit limit' : Int} (h : limit ≤ limit') :
    (truncate s limit).length ≤ (truncate s limit').length := by
  have hchars := length_truncateChars_mono s.toList h
  simpa only [truncate, String.length_ofList] using hchars

/-- A line feed that is late in a room of eleven characters and not in one of twelve. -/
theorem length_truncate_mono_line_feed :
    let s := "123456789\nabcdefghijklmnopqrstuvwxyz0123456789"
    (39 : Int) ≤ 40 ∧ (truncate s 39).length = 37 ∧ (truncate s 40).length = 40 ∧
    (truncate s 39).length ≤ (truncate s 40).length := by
  intro s
  have hle : (39 : Int) ≤ 40 := by decide
  exact ⟨hle, by decide +kernel, by decide +kernel, length_truncate_mono s hle⟩

/-! ## Where the cut falls -/

theorem truncateChars_of_fits {cs : List Char} {limit : Int} (h : (cs.length : Int) ≤ limit) :
    truncateChars cs limit = cs :=
  if_pos h

theorem truncateChars_of_long {cs : List Char} {limit : Int} (hlong : limit < cs.length)
    (hroom : truncationMarker.length < limit) :
    truncateChars cs limit =
      cs.take (cutPoint cs (limit.toNat - truncationMarker.length)) ++ truncationMarker := by
  rw [truncateChars, if_neg (by omega), if_neg (by omega)]

theorem truncate_of_fits {s : String} {limit : Int} (h : (s.length : Int) ≤ limit) :
    truncate s limit = s := by
  rw [truncate, truncateChars_of_fits h, String.ofList_toList]

theorem truncateChars_truncateChars (cs : List Char) (limit : Int) :
    truncateChars (truncateChars cs limit) limit = truncateChars cs limit := by
  have hle := length_truncateChars_le cs limit
  by_cases hneg : limit < 0
  · have hnil : truncateChars cs limit = [] := List.length_eq_zero_iff.mp (by omega)
    rw [hnil]
    exact List.length_eq_zero_iff.mp (Nat.le_zero.mp (length_truncateChars_le_length [] limit))
  · exact truncateChars_of_fits (by omega)

/-- A place of a character in a text behind which the character does not stand. -/
def Text.IsLast (x : Char) (cs : List Char) (i : Nat) : Prop :=
  cs[i]? = some x ∧ ∀ j, i < j → cs[j]? ≠ some x

theorem Text.isLast_of_lastIndexOf? {x : Char} {cs : List Char} {i : Nat}
    (h : lastIndexOf? x cs = some i) : IsLast x cs i := by
  obtain ⟨a, b, rfl, rfl, hb⟩ := exists_of_lastIndexOf? h
  constructor
  · rw [List.getElem?_append_right (Nat.le_refl _), Nat.sub_self]
    rfl
  · intro j hj hx
    obtain ⟨k, rfl⟩ := Nat.exists_eq_add_of_lt hj
    rw [List.getElem?_append_right (by omega), Nat.add_assoc, Nat.add_sub_cancel_left,
      List.getElem?_cons_succ] at hx
    exact hb (List.mem_of_getElem? hx)

theorem Text.lastIndexOf?_eq_some_iff {x : Char} {cs : List Char} {i : Nat} :
    lastIndexOf? x cs = some i ↔ IsLast x cs i := by
  refine ⟨isLast_of_lastIndexOf?, fun h => ?_⟩
  cases hlast : lastIndexOf? x cs with
  | none => exact absurd (List.mem_of_getElem? h.1) (lastIndexOf?_eq_none_iff.mp hlast)
  | some k =>
      obtain ⟨hk, hbehind⟩ := isLast_of_lastIndexOf? hlast
      rcases Nat.lt_trichotomy i k with hlt | rfl | hgt
      · exact absurd hk (h.2 k hlt)
      · rfl
      · exact absurd h.1 (hbehind i hgt)

/-- Where a text is cut that may keep `room` characters: at the last line feed of the room if more
than four fifths of the room stand in front of it, and otherwise at the end. -/
inductive CutAt (cs : List Char) (room : Nat) : Nat → Prop
  | atLine {i : Nat} (last : Text.IsLast '\n' (cs.take room) i) (late : 4 * room < 5 * i) :
      CutAt cs room i
  | atEnd (early : ∀ i, Text.IsLast '\n' (cs.take room) i → 5 * i ≤ 4 * room) : CutAt cs room room

theorem cutAt_cutPoint (cs : List Char) (room : Nat) : CutAt cs room (cutPoint cs room) := by
  rw [cutPoint]
  split
  · next i hi =>
      split
      · next hlate => exact .atLine (Text.isLast_of_lastIndexOf? hi) hlate
      · next hearly =>
          refine .atEnd fun j hj => ?_
          rw [← Text.lastIndexOf?_eq_some_iff, hi] at hj
          cases hj
          omega
  · next hnone =>
      refine .atEnd fun j hj => ?_
      rw [← Text.lastIndexOf?_eq_some_iff, hnone] at hj
      cases hj

theorem CutAt.late {cs : List Char} {room k : Nat} (h : CutAt cs room k) (hroom : 0 < room) :
    4 * room < 5 * k := by
  cases h with
  | atLine _ late => exact late
  | atEnd _ => omega

/-- Between the cut and the end of the room there is no line feed. -/
theorem CutAt.getElem?_ne {cs : List Char} {room k : Nat} (h : CutAt cs room k) {j : Nat}
    (hk : k < j) (hj : j < room) : cs[j]? ≠ some '\n' := by
  cases h with
  | atLine last _ =>
      have hbehind := last.2 j hk
      rwa [List.getElem?_take_of_lt hj] at hbehind
  | atEnd _ => omega

/-- Whatever the limit, a capped text is no longer than that, is the text itself if it fits, and is
left alone by the same limit. A text that does not fit a limit with room for more than the marker
keeps what stands in front of the cut, and the marker follows. -/
theorem truncate_cutAt (s : String) (limit : Int) :
    ((truncate s limit).length : Int) ≤ max limit 0 ∧
    ((s.length : Int) ≤ limit → truncate s limit = s) ∧
    truncate (truncate s limit) limit = truncate s limit ∧
    (limit < s.length → truncationMarker.length < limit →
      ∃ k room : Nat, (room : Int) = limit - truncationMarker.length ∧ CutAt s.toList room k ∧
        (truncate s limit).toList = s.toList.take k ++ truncationMarker ∧
        4 * room < 5 * k ∧ k ≤ room ∧ ∀ j, k < j → j < room → s.toList[j]? ≠ some '\n') := by
  refine ⟨?_, truncate_of_fits, ?_, ?_⟩
  · have hle := length_truncate_le s limit
    omega
  · apply String.toList_injective
    rw [toList_truncate, toList_truncate, truncateChars_truncateChars]
  · intro hlong hroom
    have hcut := cutAt_cutPoint s.toList (limit.toNat - truncationMarker.length)
    refine ⟨_, limit.toNat - truncationMarker.length, by omega, hcut, ?_, hcut.late (by omega),
      cutPoint_le _ _, fun j => hcut.getElem?_ne⟩
    rw [toList_truncate, truncateChars_of_long hlong hroom]

/-- The second of two line feeds stands behind nine of the eleven characters that have room. -/
theorem truncate_cutAt_line_feed :
    let s := "1234\n6789\nabcdefghijklmnopqrstuvwxyz0123456789"
    (39 : Int) < s.length ∧ (truncationMarker.length : Int) < 39 ∧ CutAt s.toList 11 9 ∧
    truncate s 39 = "1234\n6789\n\n// ... (content truncated)" ∧
    truncate (truncate s 39) 39 = truncate s 39 := by
  intro s
  have hlong : (39 : Int) < s.length := by decide
  have hroom : (truncationMarker.length : Int) < 39 := by decide
  have htext : truncate s 39 = "1234\n6789\n\n// ... (content truncated)" := by decide +kernel
  have hmarker : truncationMarker.length = 28 := by decide
  obtain ⟨-, -, hagain, hcut⟩ := truncate_cutAt s 39
  obtain ⟨k, room, hsize, hat, hkept, -, hle, -⟩ := hcut hlong hroom
  obtain rfl : room = 11 := by omega
  obtain rfl : k = 9 := by
    have hlength := congrArg List.length hkept
    have hall : s.toList.length = 46 := by decide
    have hshown : "1234\n6789\n\n// ... (content truncated)".toList.length = 37 := by decide
    rw [htext, List.length_append, List.length_take] at hlength
    omega
  exact ⟨hlong, hroom, hat, htext, hagain⟩

end CodeBrief
