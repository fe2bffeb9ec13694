import CodeBrief.Json.Reader
import CodeBrief.Json.Writer
import CodeBrief.Proofs.Utf8

/-!
# Strings are read as they were written

The writer turns a code point into itself or into an escape, the reader turns
either back into the code point and goes on behind it. One lemma for each escape
the writer uses says so of `readEscape`, one for a code point says so of
`readPoints` (`readPoints_writePoint`), and a string follows by induction.

A character above U+FFFF is written as two units, which are read as the two halves
of a pair. What is read is then the same up to halves that make a character
(`Spelling`), and joining them gives the string back, since no halves of the string
itself could be joined.
-/

namespace CodeBrief.Json

open Text (Point Wide)

/-! ## Units of four digits -/

theorem hexValue?_hexDigit {d : Nat} (h : d < 16) : hexValue? (Text.hexDigit d) = some d := by
  have hall : ∀ d < 16, hexValue? (Text.hexDigit d) = some d := by decide
  exact hall d h

/-- Four digits are read as the unit they were written for, if something follows. -/
theorem takeHex4_hex {n : Nat} (h : n < 0x10000) (c : Char) (cs : List Char) :
    takeHex4 (Text.hex 4 n ++ c :: cs) = .ok (n, c :: cs) := by
  have hhex : Text.hex 4 n = [Text.hexDigit (n / 16 / 16 / 16 % 16),
      Text.hexDigit (n / 16 / 16 % 16), Text.hexDigit (n / 16 % 16),
      Text.hexDigit (n % 16)] := rfl
  have hvalue : hex4? (Text.hexDigit (n / 16 / 16 / 16 % 16))
      (Text.hexDigit (n / 16 / 16 % 16)) (Text.hexDigit (n / 16 % 16))
      (Text.hexDigit (n % 16)) = some n := by
    have hn : ((n / 16 / 16 / 16 % 16 * 16 + n / 16 / 16 % 16) * 16 + n / 16 % 16) * 16 +
        n % 16 = n := by omega
    rw [hex4?, hexValue?_hexDigit (by omega), hexValue?_hexDigit (by omega),
      hexValue?_hexDigit (by omega), hexValue?_hexDigit (by omega)]
    exact congrArg some hn
  rw [hhex, List.cons_append, List.cons_append, List.cons_append, List.cons_append,
    List.nil_append, takeHex4, hvalue]

/-! ## Escapes -/

theorem readEscape_letter {start : Nat} {letter e : Char} (hu : letter ≠ 'u')
    (h : escaped? letter = some e) (cs : List Char) :
    readEscape start (letter :: cs) = .ok (.char e, cs) := by
  rw [readEscape]
  · rw [h]
  · exact fun h => hu h

/-- A unit. -/
theorem readEscape_unit {start n : Nat} (hn : n < 0x10000) (c : Char) (cs : List Char) :
    readEscape start ('u' :: (Text.hex 4 n ++ c :: cs)) = .ok (.ofUnit n, c :: cs) := by
  rw [readEscape, takeHex4_hex hn]
  rfl

/-- A code point below U+10000 is what its unit stands for. -/
theorem ofUnit_code {p : Point} (hp : p.code < 0x10000) : Point.ofUnit p.code = p := by
  cases p with
  | char c =>
      have hgap := Text.Utf8.not_surrogate c
      rw [Point.code, Point.ofUnit, if_neg (by omega), if_neg (by omega), Char.ofNat_toNat]
  | high bits =>
      have hbits := bits.isLt
      rw [Point.code, Point.ofUnit, if_pos (by omega), Nat.add_sub_cancel_left]
      exact congrArg Point.high (Fin.ext (Nat.mod_eq_of_lt hbits))
  | low bits =>
      have hbits := bits.isLt
      rw [Point.code, Point.ofUnit, if_neg (by omega), if_pos (by omega),
        Nat.add_sub_cancel_left]
      exact congrArg Point.low (Fin.ext (Nat.mod_eq_of_lt hbits))

/-! ## Code points -/

section Points

variable {start fuel : Nat} {cs rest : List Char} {ps : List Point}

theorem readPoints_ok_ne_nil (h : readPoints start fuel cs = .ok (ps, rest)) : ∃ d ds, cs = d :: ds := by
  cases cs with
  | nil => cases fuel <;> cases h
  | cons d ds => exact ⟨d, ds, rfl⟩

theorem readPoints_escape {p : Point} {more : List Char} (he : readEscape start cs = .ok (p, more))
    (h : readPoints start fuel more = .ok (ps, rest)) :
    readPoints start (fuel + 1) ('\\' :: cs) = .ok (p :: ps, rest) := by
  rw [readPoints, if_neg (by decide), if_pos rfl, he]
  simp only [bind, Except.bind, h]
  rfl

theorem readPoints_plain {c : Char} (hquote : c ≠ '"') (hslash : c ≠ '\\') (hc : ¬c.toNat < 0x20)
    (h : readPoints start fuel cs = .ok (ps, rest)) :
    readPoints start (fuel + 1) (c :: cs) = .ok (.char c :: ps, rest) := by
  rw [readPoints, if_neg hquote, if_neg hslash, if_neg hc]
  simp only [bind, Except.bind, h]
  rfl

theorem readPoints_unitEscape {n : Nat} (hn : n < 0x10000)
    (h : readPoints start fuel cs = .ok (ps, rest)) :
    readPoints start (fuel + 1) (unitEscape n ++ cs) = .ok (.ofUnit n :: ps, rest) := by
  obtain ⟨d, ds, rfl⟩ := readPoints_ok_ne_nil h
  exact readPoints_escape (readEscape_unit hn d ds) h

theorem readPoints_half {p : Point} (hp : p.code < 0x10000)
    (h : readPoints start fuel cs = .ok (ps, rest)) :
    readPoints start (fuel + 1) (unitEscape p.code ++ cs) = .ok (p :: ps, rest) := by
  rw [readPoints_unitEscape hp h, ofUnit_code hp]

end Points

/-- The four forms that a written character can have. -/
theorem writeChar_cases (style : Style) (c : Char) :
    (∃ letter, letter ≠ 'u' ∧ escaped? letter = some c ∧ writeChar style c = ['\\', letter]) ∨
      (c.toNat < 0x10000 ∧ writeChar style c = unitEscape c.toNat) ∨
      (c ≠ '"' ∧ c ≠ '\\' ∧ ¬c.toNat < 0x20 ∧ writeChar style c = [c]) ∨
      ∃ a b : Fin 0x400, c = Point.paired a b ∧
        writeChar style c = unitEscape (Point.high a).code ++ unitEscape (Point.low b).code := by
  have hback {n : Nat} (hn : c.toNat = n) : some (Char.ofNat n) = some c := by
    rw [← hn, Char.ofNat_toNat]
  rw [writeChar]
  by_cases hquote : c = '"'
  · exact Or.inl ⟨'"', by decide, by rw [hquote]; rfl, if_pos hquote⟩
  · rw [if_neg hquote]
    by_cases hslash : c = '\\'
    · exact Or.inl ⟨'\\', by decide, by rw [hslash]; rfl, if_pos hslash⟩
    · rw [if_neg hslash]
      by_cases hfeed : c = '\n'
      · exact Or.inl ⟨'n', by decide, by rw [hfeed]; rfl, if_pos hfeed⟩
      · rw [if_neg hfeed]
        by_cases hreturn : c = '\r'
        · exact Or.inl ⟨'r', by decide, by rw [hreturn]; rfl, if_pos hreturn⟩
        · rw [if_neg hreturn]
          by_cases htab : c = '\t'
          · exact Or.inl ⟨'t', by decide, by rw [htab]; rfl, if_pos htab⟩
          · rw [if_neg htab]
            by_cases hb : c.toNat = 8
            · exact Or.inl ⟨'b', by decide, hback hb, if_pos hb⟩
            · rw [if_neg hb]
              by_cases hf : c.toNat = 12
              · exact Or.inl ⟨'f', by decide, hback hf, if_pos hf⟩
              · rw [if_neg hf]
                by_cases hcontrol : c.toNat < 0x20
                · exact Or.inr (Or.inl ⟨by omega, if_pos hcontrol⟩)
                · rw [if_neg hcontrol]
                  by_cases hplain : c.toNat < 0x7F ∨ style = .verbatim
                  · exact Or.inr (Or.inr (Or.inl ⟨hquote, hslash, hcontrol, if_pos hplain⟩))
                  · rw [if_neg hplain]
                    by_cases hunit : c.toNat < 0x10000
                    · exact Or.inr (Or.inl ⟨hunit, if_pos hunit⟩)
                    · have hmax := Text.Utf8.toNat_lt c
                      refine Or.inr (Or.inr (Or.inr ⟨⟨(c.toNat - 0x10000) / 0x400, by omega⟩,
                        ⟨(c.toNat - 0x10000) % 0x400, by omega⟩, ?_, if_neg hunit⟩))
                      have hpair : 0x10000 + (c.toNat - 0x10000) / 0x400 * 0x400 +
                        (c.toNat - 0x10000) % 0x400 = c.toNat := by omega
                      rw [Point.paired, hpair, Char.ofNat_toNat]

/-- Code points, and what is read of them if some characters were written as pairs. -/
inductive Spelling : (written read : List Point) → Prop
  | nil : Spelling [] []
  | point (p : Point) {ps qs : List Point} (rest : Spelling ps qs) : Spelling (p :: ps) (p :: qs)
  | pair (a b : Fin 0x400) {ps qs : List Point} (rest : Spelling ps qs) :
      Spelling (.char (Point.paired a b) :: ps) (.high a :: .low b :: qs)

/-- Joining the halves gives back what was written. -/
theorem join_of_spelling {ps qs : List Point} (h : Spelling ps qs) (hapart : Point.isApart ps = true) :
    Point.join qs = ps := by
  induction h with
  | nil => rfl
  | pair a b rest ih => rw [Point.join, ih (by simpa [Point.isApart] using hapart)]
  | @point p ps qs rest ih =>
      have hnot : ∀ a b more, p = .high a → qs ≠ .low b :: more := by
        rintro a b more rfl rfl
        cases rest with
        | point => cases hapart
      have htail : Point.isApart ps = true := by
        rw [Point.isApart.eq_def] at hapart
        split at hapart
        · cases hapart
        · next heq => exact (List.cons.inj heq).2 ▸ hapart
        · next heq => cases heq
      rw [Point.join, ih htail]
      exact fun a b more hp => hnot a b more hp

/-- A written code point is read as itself or as the two halves of its pair, and reading goes on
behind it. -/
theorem readPoints_writePoint (style : Style) (p : Point) :
    (∀ {start fuel cs rest qs}, readPoints start fuel cs = .ok (qs, rest) →
        readPoints start (fuel + 1) (writePoint style p ++ cs) = .ok (p :: qs, rest)) ∨
      ∃ a b, p = .char (Point.paired a b) ∧ 2 ≤ (writePoint style p).length ∧
        ∀ {start fuel cs rest qs}, readPoints start fuel cs = .ok (qs, rest) →
          readPoints start (fuel + 2) (writePoint style p ++ cs) =
            .ok (.high a :: .low b :: qs, rest) := by
  have hcode (a b : Fin 0x400) : (Point.high a).code < 0x10000 ∧ (Point.low b).code < 0x10000 := by
    simp only [Point.code]
    omega
  cases p with
  | char c =>
      rw [writePoint]
      rcases writeChar_cases style c with ⟨letter, hu, he, hw⟩ | ⟨hx, hw⟩ | ⟨hquote, hslash, hc, hw⟩ |
        ⟨a, b, rfl, hw⟩
      · exact .inl fun h => by rw [hw]; exact readPoints_escape (readEscape_letter hu he _) h
      · exact .inl fun h => by rw [hw]; exact readPoints_half (p := .char c) hx h
      · exact .inl fun h => by rw [hw]; exact readPoints_plain hquote hslash hc h
      · refine .inr ⟨a, b, rfl, by rw [hw]; exact Nat.le_add_left 2 10, fun h => ?_⟩
        rw [hw, List.append_assoc]
        exact readPoints_half (hcode a b).1 (readPoints_half (hcode a b).2 h)
  | high a => exact .inl fun h => readPoints_half (hcode a 0).1 h
  | low b => exact .inl fun h => readPoints_half (hcode 0 b).2 h

theorem writePoint_ne_nil (style : Style) (p : Point) : writePoint style p ≠ [] := by
  cases p with
  | char c =>
      rw [writePoint]
      rcases writeChar_cases style c with ⟨_, _, _, h⟩ | ⟨_, h⟩ | ⟨_, _, _, h⟩ | ⟨_, _, _, h⟩
      all_goals
        rw [h]
        exact List.cons_ne_nil _ _
  | high _ => exact List.cons_ne_nil _ _
  | low _ => exact List.cons_ne_nil _ _

/-! ## Strings -/

/-- Written code points are read, with enough fuel for what is read of them. -/
theorem exists_readPoints_flatMap (style : Style) (ps : List Point) (start : Nat) (rest : List Char) :
    ∃ qs, Spelling ps qs ∧ qs.length ≤ (ps.flatMap (writePoint style)).length ∧
      ∀ fuel, qs.length < fuel →
        readPoints start fuel (ps.flatMap (writePoint style) ++ '"' :: rest) = .ok (qs, rest) := by
  induction ps with
  | nil =>
      refine ⟨[], .nil, Nat.le_refl _, fun fuel hfuel => ?_⟩
      obtain ⟨fuel, rfl⟩ := Nat.exists_eq_add_of_lt hfuel
      rw [List.flatMap_nil, List.nil_append, readPoints, if_pos rfl]
  | cons p ps ih =>
      obtain ⟨qs, hspelling, hlength, hread⟩ := ih
      simp only [List.flatMap_cons, List.append_assoc, List.length_append]
      rcases readPoints_writePoint style p with hself | ⟨a, b, rfl, hlong, hpair⟩
      · have hpos := List.length_pos_iff.mpr (writePoint_ne_nil style p)
        refine ⟨p :: qs, hspelling.point p, by rw [List.length_cons]; omega, fun fuel hfuel => ?_⟩
        obtain ⟨fuel, rfl⟩ := Nat.exists_eq_add_of_lt hfuel
        exact hself (hread _ (by rw [List.length_cons]; omega))
      · refine ⟨_, hspelling.pair a b, by simp only [List.length_cons]; omega, fun fuel hfuel => ?_⟩
        simp only [List.length_cons] at hfuel
        obtain ⟨fuel, rfl⟩ : ∃ n, fuel = n + 2 := ⟨fuel - 2, by omega⟩
        exact hpair (hread fuel (by omega))

/-- A written string is read as itself. -/
theorem readString_flatMap (style : Style) (s : Wide) (rest : List Char) :
    readString (s.points.flatMap (writePoint style) ++ '"' :: rest) = .ok (s, rest) := by
  rw [readString]
  obtain ⟨qs, hspelling, hlength, hread⟩ := exists_readPoints_flatMap style s.points
    ((s.points.flatMap (writePoint style) ++ '"' :: rest).length + 1) rest
  rw [hread _ (by rw [List.length_append, List.length_cons]; omega)]
  have hjoin := join_of_spelling hspelling s.isApart_points
  have hpoints := Point.join_of_isApart s.isApart_points
  have hsame : Wide.ofPoints qs = Wide.ofPoints s.points := by
    simp only [Wide.ofPoints, hjoin, hpoints]
  simp only [bind, Except.bind, hsame, Wide.ofPoints_points]
  rfl

end CodeBrief.Json
