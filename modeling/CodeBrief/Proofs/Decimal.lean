import CodeBrief.Json.Reader

/-!
# Decimal digits

A count is written in the digits that the library's `Nat.toDigits` gives, so
what is needed of them is known there and only has to be said of `Text.digits`.
Two facts carry weight elsewhere: a larger number never has fewer digits, on
which the bound of a prompt's frame rests, and a digit reader gives back the
number whose digits it reads.
-/

namespace CodeBrief.Text

theorem digits_eq_toDigits (n : Nat) : digits n = Nat.toDigits 10 n := by
  rw [digits, Nat.toString_eq_repr, Nat.toList_repr]

theorem digits_ne_nil (n : Nat) : digits n ≠ [] := by
  rw [digits_eq_toDigits]
  exact Nat.toDigits_ne_nil

theorem isDigit_of_mem_digits {n : Nat} {c : Char} (h : c ∈ digits n) :
    c.isDigit = true := by
  rw [digits_eq_toDigits] at h
  exact Nat.isDigit_of_mem_toDigits (by decide) (by decide) h

/-- A larger number is written with at least as many digits. -/
theorem length_digits_mono {m n : Nat} (h : m ≤ n) :
    (digits m).length ≤ (digits n).length := by
  have hpos : 0 < (Nat.toDigits 10 n).length := Nat.length_toDigits_pos
  have hn : n < 10 ^ (Nat.toDigits 10 n).length :=
    (Nat.length_toDigits_le_iff (by decide) hpos).mp (Nat.le_refl _)
  rw [digits_eq_toDigits, digits_eq_toDigits]
  exact (Nat.length_toDigits_le_iff (by decide) hpos).mpr (by omega)

end CodeBrief.Text

namespace CodeBrief.Json

/-- Only zero itself is written with a zero in front. -/
theorem digits_head_ne_zero {n : Nat} (hn : n ≠ 0) :
    ∃ d ds, Text.digits n = d :: ds ∧ d ≠ '0' := by
  have hdigit : ∀ k < 10, k ≠ 0 → Nat.digitChar k ≠ '0' := by decide
  induction n using Nat.strongRecOn with
  | ind n ih =>
      rw [Text.digits_eq_toDigits]
      rcases Nat.lt_or_ge n 10 with hlt | hge
      · rw [Nat.toDigits_of_lt_base hlt]
        exact ⟨Nat.digitChar n, [], rfl, hdigit n hlt hn⟩
      · obtain ⟨d, ds, h, hne⟩ := ih (n / 10) (by omega) (by omega)
        rw [Text.digits_eq_toDigits] at h
        rw [Nat.toDigits_of_base_le (by decide) hge, h]
        exact ⟨d, ds ++ [Nat.digitChar (n % 10)], rfl, hne⟩

theorem intText_natCast (n : Nat) : intText n = String.ofList (Text.digits n) := by
  rw [intText, if_neg (by omega), Int.natAbs_natCast]

theorem length_intText_mono {m n : Nat} (h : m ≤ n) :
    (intText m).length ≤ (intText n).length := by
  rw [intText_natCast, intText_natCast, String.length_ofList, String.length_ofList]
  exact Text.length_digits_mono h

theorem digitsValue_digits (n : Nat) : digitsValue (Text.digits n) = n := by
  have h : digitsValue (Text.digits n) = Nat.ofDigitChars 10 (Text.digits n) 0 := by
    rw [digitsValue, Nat.ofDigitChars_eq_foldl]
    congr 1
    funext n d
    rw [Nat.mul_comm]
    rfl
  rw [h, Text.digits_eq_toDigits, Nat.ofDigitChars_ten_toDigits]

end CodeBrief.Json
