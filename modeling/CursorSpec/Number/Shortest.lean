/-
The shortest decimal fraction that reads back as a given floating-point number.

Every number owns the reals that round to it: an interval that reaches half way to both neighbours, ends included iff
the mantissa is even. For 1, 2, ... 17 digits the two points of that decimal grid next to the number are tested; the
first grid with a point inside the interval wins, and of two points the nearer one.
-/
import CursorSpec.Number.Binary64
import CursorSpec.Text.Basic

namespace CursorSpec.Binary64

/-- whether `a · 10 ^ g ≤ b · 2 ^ e` -/
def decimalLe (a : Nat) (g : Int) (b : Nat) (e : Int) : Bool :=
  let p := powerRatio 10 g
  let q := powerRatio 2 e
  a * p.1 * q.2 ≤ b * q.1 * p.2

/-- whether `b · 2 ^ e ≤ a · 10 ^ g` -/
def leDecimal (b : Nat) (e : Int) (a : Nat) (g : Int) : Bool :=
  let p := powerRatio 10 g
  let q := powerRatio 2 e
  b * q.1 * p.2 ≤ a * p.1 * q.2

/-- the exponent of the leading decimal digit of `m · 2 ^ e`, for a positive mantissa -/
def leadingExponent (m : Nat) (e : Int) : Int :=
  let q := powerRatio 2 e
  ((Nat.toDigits 10 (m * q.1 * Nat.pow 10 350 / q.2)).length : Int) - 351

/-- whether `a · 10 ^ g` rounds to `m · 2 ^ e` -/
def owns (m : Nat) (e : Int) (a : Nat) (g : Int) : Bool :=
  let low := if m = leastMantissa ∧ leastExponent < e then 4 * m - 1 else 4 * m - 2
  let high := 4 * m + 2
  if m % 2 = 0 then leDecimal low (e - 2) a g && decimalLe a g high (e - 2)
  else !decimalLe a g low (e - 2) && !leDecimal high (e - 2) a g

/-- a point of the grid of multiples of `10 ^ g` that rounds to `m · 2 ^ e`, the nearer of two -/
def gridPoint? (m : Nat) (e g : Int) : Option Nat :=
  let p := powerRatio 10 g
  let q := powerRatio 2 e
  let num := m * q.1 * p.2
  let den := q.2 * p.1
  let a := num / den
  match owns m e a g, owns m e (a + 1) g with
  | true, true => some (roundDiv num den)
  | true, false => some a
  | false, true => some (a + 1)
  | false, false => none

/-- the digits and the exponent of their last place, trying `n` digits and more -/
def shortestFrom (m : Nat) (e k : Int) : (fuel n : Nat) → Nat × Int
  | 0, n => (roundDiv (m * (powerRatio 2 e).1) (powerRatio 2 e).2, n)
  | fuel + 1, n =>
    let g := k - n + 1
    match gridPoint? m e g with
    | some a => (a, g)
    | none => shortestFrom m e k fuel (n + 1)

/-- trailing zeros moved into the exponent -/
def trimZeros : (fuel : Nat) → Nat × Int → Nat × Int
  | 0, d => d
  | fuel + 1, (a, g) => if a ≠ 0 ∧ a % 10 = 0 then trimZeros fuel (a / 10, g + 1) else (a, g)

/-- the shortest decimal that reads back as `m · 2 ^ e`: digits and the exponent of their last place -/
def shortest (m : Nat) (e : Int) : Nat × Int :=
  if m = 0 then (0, 0) else trimZeros 20 (shortestFrom m e (leadingExponent m e) 17 1)

/-- an exponent has a sign and at least two digits -/
def exponentText (x : Int) : Text :=
  let d := Text.ofNat x.natAbs
  (if x < 0 then '-' else '+') :: (if d.length < 2 then '0' :: d else d)

/-- Shown positionally from 10 ^ -4 up to below 10 ^ 16, always with a fraction; otherwise with an exponent. -/
def text : Binary64 → Text
  | .nan => "nan"
  | .infinite false => "inf"
  | .infinite true => "-inf"
  | .finite negative m e =>
    let s := shortest m e
    let d := Text.ofNat s.1
    let point : Int := d.length + s.2
    let body : Text :=
      if m = 0 then "0.0"
      else if point < -3 ∨ 16 < point then
        let fraction := match d.tail with
          | [] => []
          | r => '.' :: r
        d.take 1 ++ fraction ++ 'e' :: exponentText (point - 1)
      else if point ≤ 0 then "0." ++ List.replicate (-point).toNat '0' ++ d
      else
        let whole := d.take point.toNat ++ List.replicate (point.toNat - d.length) '0'
        whole ++ '.' :: (match d.drop point.toNat with
          | [] => ['0']
          | r => r)
    if negative then '-' :: body else body

end CursorSpec.Binary64
