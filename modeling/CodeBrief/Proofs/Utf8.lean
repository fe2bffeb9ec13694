import CodeBrief.Text.Utf8

/-!
# Decoding inverts encoding

The decoder takes a character from the front of its bytes and leaves the rest
alone, so one lemma about one character (`step_encodeChar`) carries over to a
text. That lemma is arithmetic: each of the four lengths of an encoding has its
own leading byte, and the trailing bytes give the value back by their six
significant bits each.

The leading bytes with bounds of their own for the byte that follows exclude
overlong forms and surrogates. A character is neither, which is where its value
being a Unicode scalar value is used.
-/

namespace CodeBrief.Text.Utf8

/-! ## Bytes of a text -/

theorem toList_loop (bytes : ByteArray) (i : Nat) (back : List UInt8) :
    ByteArray.toList.loop bytes i back = back.reverse ++ bytes.data.toList.drop i := by
  fun_induction ByteArray.toList.loop bytes i back with
  | case1 i back h ih =>
      have hi : i < bytes.data.toList.length := h
      have hget : bytes.get! i = bytes.data.toList[i] := getElem!_pos bytes.data i h
      rw [ih, List.reverse_cons, List.append_assoc, hget, List.singleton_append,
        ← List.drop_eq_getElem_cons hi]
  | case2 i back h =>
      have hi : bytes.data.toList.length ≤ i := Nat.le_of_not_lt h
      rw [List.drop_eq_nil_of_le hi, List.append_nil]

theorem encode_eq (s : String) : encode s = s.toList.flatMap String.utf8EncodeChar := by
  have h : s.toUTF8 = s.toList.utf8Encode := String.utf8Encode_toList.symm
  rw [encode, h, List.utf8Encode, ByteArray.toList, toList_loop, List.toList_data_toByteArray]
  rfl

/-! ## One character -/

theorem step_of_lead {b : UInt8} {bs rest : List UInt8} {trailing low high v : Nat}
    (hb : 0x80 ≤ b.toNat) (hl : Lead.of? b.toNat = some ⟨trailing, low, high⟩)
    (ht : trail (Lead.bits ⟨trailing, low, high⟩ b.toNat) trailing low high bs =
      (some v, rest)) :
    step b bs = (some (Char.ofNat v), rest) := by
  have hlt : ¬b < 0x80 := fun h => by
    have hlt : b.toNat < 0x80 := h
    omega
  rw [step, if_neg hlt, hl]
  simp only [ht, Option.map_some]

theorem trail_cons {value count low high : Nat} {b : UInt8} {bs : List UInt8}
    (hlow : low ≤ b.toNat) (hhigh : b.toNat ≤ high) :
    trail value (count + 1) low high (b :: bs) =
      trail (value * 64 + b.toNat % 64) count 0x80 0xBF bs := by
  rw [trail, if_pos ⟨hlow, hhigh⟩]

theorem Lead.of?_two {b : Nat} (h₁ : 0xC2 ≤ b) (h₂ : b < 0xE0) :
    Lead.of? b = some ⟨1, 0x80, 0xBF⟩ := by
  rw [Lead.of?, if_neg (by omega), if_pos h₂]

/-- A lead of three bytes; the byte after the first and the last but two are bounded. -/
theorem Lead.of?_three {b : Nat} (h₁ : 0xE0 ≤ b) (h₂ : b < 0xF0) :
    Lead.of? b =
      some ⟨2, if b = 0xE0 then 0xA0 else 0x80, if b = 0xED then 0x9F else 0xBF⟩ := by
  rw [Lead.of?, if_neg (by omega), if_neg (by omega)]
  split
  · next h => rw [if_neg (by omega)]
  · split <;> rfl

theorem Lead.of?_four {b : Nat} (h₁ : 0xF0 ≤ b) (h₂ : b ≤ 0xF4) :
    Lead.of? b =
      some ⟨3, if b = 0xF0 then 0x90 else 0x80, if b = 0xF4 then 0x8F else 0xBF⟩ := by
  rw [Lead.of?, if_neg (by omega), if_neg (by omega), if_neg (by omega), if_neg (by omega),
    if_neg (by omega)]
  split
  · next h => rw [if_neg (by omega)]
  · split
    · next h => rw [if_neg (by omega)]
    · rw [if_pos (by omega), if_pos (by omega)]

theorem toNat_ofNat {n : Nat} (h : n < 256) : (UInt8.ofNat n).toNat = n := by
  rw [UInt8.toNat_ofNat', Nat.mod_eq_of_lt h]

theorem toNat_lt (c : Char) : c.toNat < 0x110000 := by
  have h := c.valid
  rw [UInt32.isValidChar, Nat.isValidChar] at h
  have hval : c.val.toNat = c.toNat := rfl
  omega

theorem not_surrogate (c : Char) : c.toNat < 0xD800 ∨ 0xE000 ≤ c.toNat := by
  have h := c.valid
  rw [UInt32.isValidChar, Nat.isValidChar] at h
  have hval : c.val.toNat = c.toNat := rfl
  omega

/-- The decoder takes the encoding of a character from the front. -/
theorem step_encodeChar (c : Char) (rest : List UInt8) :
    ∃ b bs, String.utf8EncodeChar c = b :: bs ∧ step b (bs ++ rest) = (some c, rest) := by
  have hmax := toNat_lt c
  have hgap := not_surrogate c
  have hback : Char.ofNat c.toNat = c := Char.ofNat_toNat c
  have hval : c.val.toNat = c.toNat := rfl
  rw [String.utf8EncodeChar]
  simp only [hval]
  generalize c.toNat = v at *
  split
  · next h1 =>
      refine ⟨_, [], rfl, ?_⟩
      have hb : (UInt8.ofNat v).toNat = v := toNat_ofNat (by omega)
      have hlt : UInt8.ofNat v < 0x80 := by
        rw [UInt8.lt_iff_toNat_lt, hb]
        exact Nat.lt_succ_of_le h1
      rw [step, if_pos hlt, hb, hback, List.nil_append]
  · split
    · next h1 h2 =>
        refine ⟨_, _, rfl, ?_⟩
        have hb : (UInt8.ofNat (v / 64 % 0x20 + 0xC0)).toNat = v / 64 + 0xC0 := by
          rw [toNat_ofNat (by omega)]; omega
        have ht : (UInt8.ofNat (v % 0x40 + 0x80)).toNat = v % 64 + 0x80 := toNat_ofNat (by omega)
        have hlead := Lead.of?_two (b := v / 64 + 0xC0) (by omega) (by omega)
        rw [← hb] at hlead
        refine hback ▸ step_of_lead (by omega) hlead ?_
        rw [List.cons_append, List.nil_append, trail_cons (by omega) (by omega), trail, hb, ht,
          Lead.bits]
        have hv : (v / 64 + 0xC0) % 32 * 64 + (v % 64 + 0x80) % 64 = v := by omega
        simp only [hv]
    · split
      · next h2 h3 =>
          refine ⟨_, _, rfl, ?_⟩
          have hb : (UInt8.ofNat (v / 4096 % 0x10 + 0xE0)).toNat = v / 4096 + 0xE0 := by
            rw [toNat_ofNat (by omega)]; omega
          have h₁ : (UInt8.ofNat (v / 64 % 0x40 + 0x80)).toNat = v / 64 % 64 + 0x80 :=
            toNat_ofNat (by omega)
          have h₂ : (UInt8.ofNat (v % 0x40 + 0x80)).toNat = v % 64 + 0x80 :=
            toNat_ofNat (by omega)
          have hlead := Lead.of?_three (b := v / 4096 + 0xE0) (by omega) (by omega)
          rw [← hb] at hlead
          refine hback ▸ step_of_lead (by omega) hlead ?_
          rw [List.cons_append, List.cons_append, List.nil_append,
            trail_cons (by split <;> omega) (by split <;> omega),
            trail_cons (by omega) (by omega), trail, hb, h₁, h₂, Lead.bits]
          have hv : ((v / 4096 + 0xE0) % 16 * 64 + (v / 64 % 64 + 0x80) % 64) * 64 +
              (v % 64 + 0x80) % 64 = v := by omega
          simp only [hv]
      · next h2 h3 =>
          refine ⟨_, _, rfl, ?_⟩
          have hb : (UInt8.ofNat (v / 262144 % 0x08 + 0xF0)).toNat = v / 262144 + 0xF0 := by
            rw [toNat_ofNat (by omega)]; omega
          have h₁ : (UInt8.ofNat (v / 4096 % 0x40 + 0x80)).toNat = v / 4096 % 64 + 0x80 :=
            toNat_ofNat (by omega)
          have h₂ : (UInt8.ofNat (v / 64 % 0x40 + 0x80)).toNat = v / 64 % 64 + 0x80 :=
            toNat_ofNat (by omega)
          have h₃ : (UInt8.ofNat (v % 0x40 + 0x80)).toNat = v % 64 + 0x80 :=
            toNat_ofNat (by omega)
          have hlead := Lead.of?_four (b := v / 262144 + 0xF0) (by omega) (by omega)
          rw [← hb] at hlead
          refine hback ▸ step_of_lead (by omega) hlead ?_
          rw [List.cons_append, List.cons_append, List.cons_append, List.nil_append,
            trail_cons (by split <;> omega) (by split <;> omega),
            trail_cons (by omega) (by omega), trail_cons (by omega) (by omega), trail,
            hb, h₁, h₂, h₃, Lead.bits]
          have hv : (((v / 262144 + 0xF0) % 8 * 64 + (v / 4096 % 64 + 0x80) % 64) * 64 +
              (v / 64 % 64 + 0x80) % 64) * 64 + (v % 64 + 0x80) % 64 = v := by omega
          simp only [hv]

/-! ## A text -/

theorem scan_encodeChar_append (c : Char) (rest : List UInt8) :
    scan (String.utf8EncodeChar c ++ rest) = some c :: scan rest := by
  obtain ⟨b, bs, hc, hstep⟩ := step_encodeChar c rest
  rw [hc, List.cons_append, scan, hstep]

theorem scan_encode (cs : List Char) :
    scan (cs.flatMap String.utf8EncodeChar) = cs.map some := by
  induction cs with
  | nil => rw [List.flatMap_nil, scan, List.map_nil]
  | cons c cs ih => rw [List.flatMap_cons, scan_encodeChar_append, ih, List.map_cons]

/-- What is written of a text is read back as the text. -/
theorem decode?_encode (s : String) : decode? (encode s) = some s.toList := by
  have hall (cs : List Char) : (cs.map some).mapM id = some cs := by
    induction cs with
    | nil => rfl
    | cons c cs ih => rw [List.map_cons, List.mapM_cons, ih]; rfl
  rw [decode?, encode_eq, scan_encode, hall]

end CodeBrief.Text.Utf8
