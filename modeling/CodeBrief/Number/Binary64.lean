/-!
# Binary floating-point numbers, exactly

A number of double precision is a sign, a significand below 2^53 and an
exponent of two not below -1074, or an infinity, or not a number. A decimal is
rounded to the nearest such number, a tie to the even significand, by exact
arithmetic on natural numbers.
-/

namespace CodeBrief

/-- A number of double precision; `finite s m e` stands for `m * 2^e` with sign `s`. -/
inductive Binary64 where
  | finite (negative : Bool) (significand : Nat) (exponent : Int)
  | infinity (negative : Bool)
  | nan
  deriving DecidableEq, Repr

namespace Binary64

/-- The quotient rounded to the nearest whole number, a tie to the even one. -/
def roundQuotient (num den : Nat) : Nat :=
  let q := num / den
  let r := num % den
  if 2 * r < den then q
  else if den < 2 * r then q + 1
  else if q % 2 = 0 then q else q + 1

/-- `num / (den * 2^e)` as a pair of natural numbers. -/
def scaleDown (num den : Nat) (e : Int) : Nat × Nat :=
  if 0 ≤ e then (num, den * Nat.pow 2 e.toNat) else (num * Nat.pow 2 (-e).toNat, den)

/-- The least exponent, not below -1074, at which the significand of `num / den` has at most 53 bits. -/
def exponentFor (num den : Nat) : Int :=
  let guess := max ((num.log2 : Int) - den.log2 - 53) (-1074)
  let fits (e : Int) : Bool :=
    match scaleDown num den e with
    | (n, d) => n / d < Nat.pow 2 53
  if fits guess then guess else if fits (guess + 1) then guess + 1 else guess + 2

/-- The number of double precision nearest to a positive quotient. -/
def ofQuotient (negative : Bool) (num den : Nat) : Binary64 :=
  let e := exponentFor num den
  match scaleDown num den e with
  | (n, d) =>
      let m := roundQuotient n d
      let (m, e) := if m = Nat.pow 2 53 then (Nat.pow 2 52, e + 1) else (m, e)
      if 971 < e then infinity negative else finite negative m e

/-- The number of double precision nearest to `m * 10^e`; exponents beyond every such number are cut short. -/
def ofDecimal (negative : Bool) (m : Nat) (e : Int) : Binary64 :=
  if m = 0 then finite negative 0 (-1074)
  else
    let size : Int := m.log2 / 3
    if 700 < e + size ∧ 400 < e then infinity negative
    else if e + 2 * size < -800 then finite negative 0 (-1074)
    else if 0 ≤ e then ofQuotient negative (m * Nat.pow 10 e.toNat) 1
    else ofQuotient negative m (Nat.pow 10 (-e).toNat)

/-- The whole number that a finite number is, if it has no fractional part. -/
def toInt? : Binary64 → Option Int
  | finite negative m e =>
      let sign (n : Nat) : Int := if negative then -n else n
      if 0 ≤ e then some (sign (m * Nat.pow 2 e.toNat))
      else
        let d := Nat.pow 2 (-e).toNat
        if m % d = 0 then some (sign (m / d)) else none
  | _ => none

end Binary64
end CodeBrief
