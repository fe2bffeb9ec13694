import CodeBrief.Number.Binary64
import CodeBrief.Text.Grouped

/-!
# The shortest text of a number

A number of double precision is shown with the fewest decimal digits that read
back as the same number, and of those with the nearest. Positional notation is
used while the point stands at most three places before the first digit and at
most sixteen after it; a whole number keeps `.0`. Otherwise the exponent has a
sign and at least two digits.
-/

namespace CodeBrief.Binary64

/-- `m * 2^e` as a quotient. -/
def quotient (m : Nat) (e : Int) : Nat × Nat :=
  if 0 ≤ e then (m * Nat.pow 2 e.toNat, 1) else (m, Nat.pow 2 (-e).toNat)

/-- The least `k` from `k₀` on with `den ≤ num * 10^k`, found within `fuel` steps. -/
def leadingZeros (num den : Nat) : (fuel k : Nat) → Nat
  | 0, k => k
  | fuel + 1, k => if den ≤ num * Nat.pow 10 k then k else leadingZeros num den fuel (k + 1)

/-- The place of the decimal point after the first digit: `10^(p-1) ≤ num / den < 10^p`. -/
def pointPlace (num den : Nat) : Int :=
  if den ≤ num then ((Text.digits (num / den)).length : Int)
  else 1 - (leadingZeros num den 400 0 : Int)

/-- The decimals with `count` digits next to `num / den`, nearer first, each as digits with an exponent of ten. -/
def neighbours (num den : Nat) (p : Int) (count : Nat) : List (Nat × Int) :=
  let e := p - count
  let (n, d) := if 0 ≤ e then (num, den * Nat.pow 10 e.toNat) else (num * Nat.pow 10 (-e).toNat, den)
  let low := n / d
  if 2 * (n % d) ≤ d then [(low, e), (low + 1, e)] else [(low + 1, e), (low, e)]

/-- The shortest decimal with `count` or more digits that reads back as the same number as `num / den`. -/
def shortestFrom (num den : Nat) (p : Int) : (fuel count : Nat) → Nat × Int
  | 0, _ => (num / den, 0)
  | fuel + 1, count =>
      match (neighbours num den p count).find? fun d => ofDecimal false d.1 d.2 == ofQuotient false num den with
      | some d => d
      | none => shortestFrom num den p fuel (count + 1)

/-- A digit sequence without the zeros at its end. -/
def trimZeros (ds : List Char) : List Char :=
  (ds.reverse.dropWhile (· == '0')).reverse

/-- Digits with the decimal point after the first `p` places. -/
def layOut (ds : List Char) (p : Int) : List Char :=
  if -4 < p ∧ p ≤ 16 then
    if p ≤ 0 then ['0', '.'] ++ List.replicate (-p).toNat '0' ++ ds
    else
      let k := p.toNat
      let whole := ds.take k ++ List.replicate (k - ds.length) '0'
      let part := ds.drop k
      whole ++ ['.'] ++ (if part.isEmpty then ['0'] else part)
  else
    let x := p - 1
    let xs := Text.digits x.natAbs
    let tail := (if x < 0 then '-' else '+') :: (if xs.length < 2 then '0' :: xs else xs)
    match ds with
    | [] => 'e' :: tail
    | [d] => d :: 'e' :: tail
    | d :: rest => d :: '.' :: rest ++ 'e' :: tail

/-- The shortest text of a number. -/
def text : Binary64 → List Char
  | nan => ['n', 'a', 'n']
  | infinity negative => (if negative then ['-'] else []) ++ ['i', 'n', 'f']
  | finite negative m e =>
      let sign := if negative then ['-'] else []
      if m = 0 then sign ++ ['0', '.', '0']
      else
        let (num, den) := quotient m e
        let (d, x) := shortestFrom num den (pointPlace num den) 17 1
        let ds := Text.digits d
        sign ++ layOut (trimZeros ds) (ds.length + x)

end CodeBrief.Binary64
