/-
Floating-point numbers of 53 binary digits, as exact values: a finite number is `± mantissa · 2 ^ exponent`.

`ofRatio` rounds a quotient to the nearest number, ties to an even mantissa; `ofDecimal` does so for a decimal
fraction. Finite numbers are kept in one form: the mantissa is below 2 ^ 53, and it is at least 2 ^ 52 unless the
exponent is the smallest, so equal values of equal sign are equal terms.
-/

namespace CursorSpec

inductive Binary64 where
  | finite (negative : Bool) (mantissa : Nat) (exponent : Int)
  | infinite (negative : Bool)
  | nan
  deriving DecidableEq, Inhabited

namespace Binary64

/-- every mantissa is below this -/
def mantissaBound : Nat := Nat.pow 2 53

/-- mantissas are at least this, unless the exponent is the smallest -/
def leastMantissa : Nat := Nat.pow 2 52

/-- exponent of the smallest positive number -/
def leastExponent : Int := -1074

/-- exponent of the largest finite numbers -/
def greatestExponent : Int := 971

def zero (negative : Bool) : Binary64 := .finite negative 0 leastExponent

/-- the power `base ^ e` as a quotient of natural numbers -/
def powerRatio (base : Nat) (e : Int) : Nat × Nat :=
  if 0 ≤ e then (Nat.pow base e.toNat, 1) else (1, Nat.pow base (-e).toNat)

/-- the natural number nearest to `num / den`, ties to even -/
def roundDiv (num den : Nat) : Nat :=
  let q := num / den
  let r := num % den
  if 2 * r < den ∨ (2 * r = den ∧ q % 2 = 0) then q else q + 1

/-- the quotient `num / den` divided by `2 ^ e` -/
def scaled (num den : Nat) (e : Int) : Nat × Nat :=
  let p := powerRatio 2 e
  (num * p.2, den * p.1)

/-- the number nearest to `num / den` -/
def ofRatio (negative : Bool) (num den : Nat) : Binary64 :=
  if num = 0 then zero negative
  else
    let low := max leastExponent ((num.log2 : Int) - den.log2 - 53)
    let s := scaled num den low
    let e := if s.1 / s.2 < mantissaBound then low else low + 1
    let s := scaled num den e
    let m := roundDiv s.1 s.2
    let r := if m < mantissaBound then (m, e) else (leastMantissa, e + 1)
    if greatestExponent < r.2 then .infinite negative else .finite negative r.1 r.2

/-- the number nearest to `digits · 10 ^ e`; magnitudes far outside the range are not expanded -/
def ofDecimal (negative : Bool) (digits : Nat) (e : Int) : Binary64 :=
  let size : Int := e + (Nat.toDigits 10 digits).length
  if digits = 0 then zero negative
  else if 400 < size then .infinite negative
  else if size < -400 then zero negative
  else
    let p := powerRatio 10 e
    ofRatio negative (digits * p.1) p.2

def ofInt (n : Int) : Binary64 := ofRatio (n < 0) n.natAbs 1

/-- the integer equal to a number, if there is one -/
def toInt? : Binary64 → Option Int
  | .finite negative m e =>
    let p := powerRatio 2 e
    let n := m * p.1
    if n % p.2 = 0 then
      let k : Int := (n / p.2 : Nat)
      some (if negative then -k else k)
    else none
  | _ => none

def isFinite : Binary64 → Bool
  | .finite .. => true
  | _ => false

end Binary64

end CursorSpec
