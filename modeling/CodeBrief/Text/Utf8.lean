/-!
# Decoding of UTF-8

`decode` replaces what is ill-formed: every maximal part of a sequence that
could have been continued to a character, and every byte that starts none,
becomes one U+FFFD. `decode?` refuses ill-formed input instead.

Both go through `step`, which takes one character or one ill-formed part from
the front and always consumes a byte.
-/

namespace CodeBrief.Text.Utf8

/-- The mark that stands for an ill-formed part. -/
def replacement : Char := Char.ofNat 0xFFFD

/-- The bytes that may follow a leading byte: how many, and the bounds of the first of them. -/
structure Lead where
  trailing : Nat
  low : Nat
  high : Nat

/-- What a byte announces; `none` if no sequence of several bytes starts with it. -/
def Lead.of? (b : Nat) : Option Lead :=
  if b < 0xC2 then none
  else if b < 0xE0 then some ⟨1, 0x80, 0xBF⟩
  else if b = 0xE0 then some ⟨2, 0xA0, 0xBF⟩
  else if b = 0xED then some ⟨2, 0x80, 0x9F⟩
  else if b < 0xF0 then some ⟨2, 0x80, 0xBF⟩
  else if b = 0xF0 then some ⟨3, 0x90, 0xBF⟩
  else if b < 0xF4 then some ⟨3, 0x80, 0xBF⟩
  else if b = 0xF4 then some ⟨3, 0x80, 0x8F⟩
  else none

/-- Takes up to `count` trailing bytes, the first between `low` and `high`; the value is complete if none is missing. -/
def trail (value : Nat) : (count low high : Nat) → List UInt8 → Option Nat × List UInt8
  | 0, _, _, bs => (some value, bs)
  | _ + 1, _, _, [] => (none, [])
  | count + 1, low, high, b :: bs =>
      if low ≤ b.toNat ∧ b.toNat ≤ high then trail (value * 64 + b.toNat % 64) count 0x80 0xBF bs
      else (none, b :: bs)

/-- The significant bits of a leading byte. -/
def Lead.bits (l : Lead) (b : Nat) : Nat :=
  match l.trailing with
  | 1 => b % 32
  | 2 => b % 16
  | _ => b % 8

/-- One character, or one ill-formed part, of a sequence that starts with byte `b`. -/
def step (b : UInt8) (bs : List UInt8) : Option Char × List UInt8 :=
  if b < 0x80 then (some (Char.ofNat b.toNat), bs)
  else match Lead.of? b.toNat with
    | none => (none, bs)
    | some l =>
        match trail (l.bits b.toNat) l.trailing l.low l.high bs with
        | (value, rest) => (value.map Char.ofNat, rest)

theorem trail_length_le (value count low high : Nat) (bs : List UInt8) :
    (trail value count low high bs).2.length ≤ bs.length := by
  induction bs generalizing value count low high with
  | nil => cases count <;> simp [trail]
  | cons b bs ih =>
      cases count with
      | zero => simp [trail]
      | succ count =>
          simp only [trail]
          split
          · exact Nat.le_succ_of_le (ih ..)
          · simp

theorem step_length_le (b : UInt8) (bs : List UInt8) : (step b bs).2.length ≤ bs.length := by
  unfold step
  split
  · simp
  · split
    · simp
    · next l _ =>
        have := trail_length_le (l.bits b.toNat) l.trailing l.low l.high bs
        simpa using this

/-- The characters and ill-formed parts of a sequence of bytes, in order. -/
def scan : List UInt8 → List (Option Char)
  | [] => []
  | b :: bs => (step b bs).1 :: scan (step b bs).2
  termination_by bs => bs.length
  decreasing_by
    have := step_length_le b bs
    simp only [List.length_cons]
    omega

/-- The text of a sequence of bytes, with a mark for each ill-formed part. -/
def decode (bytes : List UInt8) : List Char :=
  (scan bytes).map (·.getD replacement)

/-- The text of a well-formed sequence of bytes. -/
def decode? (bytes : List UInt8) : Option (List Char) :=
  (scan bytes).mapM id

/-- The bytes of a text. -/
def encode (s : String) : List UInt8 :=
  s.toUTF8.toList

end CodeBrief.Text.Utf8
