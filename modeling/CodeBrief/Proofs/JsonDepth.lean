import CodeBrief.Proofs.JsonFaults

/-!
# How far down the reader goes

Two numbers bound the reader, and only one of them belongs to it. The room is the
stack of the program: a text that starts with more opening brackets than there is
room for is refused for its depth, whatever stands behind them
(`read_openings`).

The fuel is bookkeeping. Each bracket spends two steps, one on the list or object
and one on its first entry, and an entry takes at least two characters with the
comma in front of it; so twice the length covers every step, and two runs with
that much fuel agree (`readValue_eq_readValue`). The lists of items and members
are entered behind a bracket and need one step more than a value does.
-/

namespace CodeBrief.Json

variable {α β : Type} {room : Nat} {cs : List Char}

/-- Two ways to go on from what one reader left agree if they do on every end of its text. -/
theorem FromFront.bind_congr {r : Except Fault (α × List Char)}
    {f g : α × List Char → Except Fault (β × List Char)} (h : FromFront room cs r)
    (hfg : ∀ a rest, rest <:+ cs → f (a, rest) = g (a, rest)) : r >>= f = r >>= g := by
  match r with
  | .ok (a, rest) => exact hfg a rest h
  | .error _ => rfl

theorem length_skipGap_le (cs : List Char) : (skipGap cs).length ≤ cs.length :=
  (List.dropWhile_suffix _).length_le

/-- What is left behind a character and the gap in front of it is shorter. -/
theorem length_lt_of_skipGap {c : Char} {rest : List Char} (h : skipGap cs = c :: rest) :
    rest.length < cs.length := by
  have hlength := length_skipGap_le cs
  rw [h, List.length_cons] at hlength
  exact hlength

mutual

theorem readValue_eq_readValue {fuel : Nat} (fuel' : Nat) {room : Nat} {cs : List Char}
    (h : 2 * cs.length < fuel) (h' : 2 * cs.length < fuel') :
    readValue fuel room cs = readValue fuel' room cs := by
  match fuel, fuel' with
  | 0, _ => exact absurd h (Nat.not_lt_zero _)
  | _, 0 => exact absurd h' (Nat.not_lt_zero _)
  | fuel + 1, fuel' + 1 =>
      rw [readValue.eq_def, readValue.eq_def (fuel' + 1)]
      simp only []
      split
      · rfl
      · rfl
      · next rest room =>
          have hgap := length_skipGap_le rest
          rw [List.length_cons] at h h'
          split
          · rfl
          · rw [readMembers_eq_readMembers fuel' (by omega) (by omega)]
      · rfl
      · next rest room =>
          have hgap := length_skipGap_le rest
          rw [List.length_cons] at h h'
          split
          · rfl
          · rw [readItems_eq_readItems fuel' (by omega) (by omega)]
      · rfl

theorem readItems_eq_readItems {fuel : Nat} (fuel' : Nat) {room : Nat} {cs : List Char}
    (h : 2 * cs.length + 1 < fuel) (h' : 2 * cs.length + 1 < fuel') :
    readItems fuel room cs = readItems fuel' room cs := by
  match fuel, fuel' with
  | 0, _ => exact absurd h (Nat.not_lt_zero _)
  | _, 0 => exact absurd h' (Nat.not_lt_zero _)
  | fuel + 1, fuel' + 1 =>
      rw [readItems.eq_def, readItems.eq_def (fuel' + 1)]
      simp only []
      rw [readValue_eq_readValue fuel' (by omega) (by omega)]
      refine (fromFront_readValue fuel' room cs).bind_congr fun v rest hend => ?_
      have hlength := hend.length_le
      simp only []
      split
      · rfl
      · next rest' heq =>
          have hrest := length_lt_of_skipGap heq
          have hgap := length_skipGap_le rest'
          rw [readItems_eq_readItems fuel' (by omega) (by omega)]
      · rfl

theorem readMembers_eq_readMembers {fuel : Nat} (fuel' : Nat) {room : Nat}
    {sofar : List (Text.Wide × Value)} {cs : List Char} (h : 2 * cs.length + 1 < fuel)
    (h' : 2 * cs.length + 1 < fuel') :
    readMembers fuel room sofar cs = readMembers fuel' room sofar cs := by
  match fuel, fuel' with
  | 0, _ => exact absurd h (Nat.not_lt_zero _)
  | _, 0 => exact absurd h' (Nat.not_lt_zero _)
  | fuel + 1, fuel' + 1 =>
      rw [readMembers.eq_def, readMembers.eq_def (fuel' + 1)]
      simp only []
      split
      · next rest =>
          rw [List.length_cons] at h h'
          refine (fromFront_readString room rest).bind_congr fun name rest' hend => ?_
          have hlength := hend.length_le
          simp only []
          split
          · next more heq =>
              have hmore := length_lt_of_skipGap heq
              have hgap := length_skipGap_le more
              rw [readValue_eq_readValue fuel' (by omega) (by omega)]
              refine (fromFront_readValue fuel' room _).bind_congr fun v rest₃ hend' => ?_
              have hlength' := hend'.length_le
              simp only []
              split
              · rfl
              · next more' heq' =>
                  have hmore' := length_lt_of_skipGap heq'
                  have hgap' := length_skipGap_le more'
                  exact readMembers_eq_readMembers fuel' (by omega) (by omega)
              · rfl
          · rfl
      · rfl

end

theorem readItems_error {fuel : Nat} {fault : Fault} (h : readValue fuel room cs = .error fault) :
    readItems (fuel + 1) room cs = .error fault := by
  rw [readItems, h]
  rfl

/-- A list has one place less for lists and objects than there is around it. -/
theorem readValue_opening {fuel : Nat} {fault : Fault}
    (h : readItems fuel room ('[' :: cs) = .error fault) :
    readValue (fuel + 1) (room + 1) ('[' :: '[' :: cs) = .error fault := by
  have hgap : skipGap ('[' :: cs) = '[' :: cs := rfl
  rw [readValue, hgap]
  split
  · next heq => cases heq
  · rw [h]
    rfl

/-- The reader meets its bound at the first bracket for which there is no room. -/
theorem readValue_openings {n fuel : Nat} (rest : List Char) (hroom : room < n)
    (hfuel : 2 * room < fuel) :
    readValue fuel room (List.replicate n '[' ++ rest) = .error .nestedTooDeep := by
  induction room generalizing n fuel with
  | zero =>
      obtain ⟨n, rfl⟩ : ∃ k, n = k + 1 := ⟨n - 1, by omega⟩
      obtain ⟨fuel, rfl⟩ : ∃ k, fuel = k + 1 := ⟨fuel - 1, by omega⟩
      rfl
  | succ room ih =>
      obtain ⟨n, rfl⟩ : ∃ k, n = k + 2 := ⟨n - 2, by omega⟩
      obtain ⟨fuel, rfl⟩ : ∃ k, fuel = k + 2 := ⟨fuel - 2, by omega⟩
      have hitem := @ih (n + 1) fuel (by omega) (by omega)
      rw [List.replicate_succ, List.cons_append] at hitem
      rw [List.replicate_succ, List.replicate_succ, List.cons_append, List.cons_append]
      exact readValue_opening (readItems_error hitem)

/-- A text that opens more lists than there is room for is refused for its depth, whatever follows. -/
theorem read_openings {n : Nat} (h : nestingLimit < n) (rest : List Char) :
    read (List.replicate n '[' ++ rest) = .error .nestedTooDeep := by
  obtain ⟨n, rfl⟩ : ∃ k, n = k + 1 := ⟨n - 1, by omega⟩
  have hlength : n + 1 ≤ (List.replicate (n + 1) '[' ++ rest).length := by
    rw [List.length_append, List.length_replicate]
    omega
  have hfuel : 2 * nestingLimit < 2 * (List.replicate (n + 1) '[' ++ rest).length + 1 := by omega
  have hvalue := readValue_openings rest h hfuel
  rw [List.replicate_succ, List.cons_append] at hvalue ⊢
  have hgap : skipGap ('[' :: (List.replicate n '[' ++ rest)) =
      '[' :: (List.replicate n '[' ++ rest) := rfl
  rw [read, if_neg (by decide), read.go, hgap, hvalue]
  rfl

theorem normalizeBreaks_openings (n : Nat) (rest : List Char) :
    Text.normalizeBreaks (List.replicate n '[' ++ rest) =
      List.replicate n '[' ++ Text.normalizeBreaks rest := by
  induction n with
  | zero => rfl
  | succ n ih =>
      rw [List.replicate_succ, List.cons_append, Text.normalizeBreaks, ih]
      · rfl
      · exact fun _ hreturn => absurd hreturn (by decide)
      · exact fun hreturn => absurd hreturn (by decide)

end CodeBrief.Json
