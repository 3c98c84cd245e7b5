/-
Number literals: decimal, hexadecimal, octal and binary integers, decimal fractions with exponents, and imaginary
numbers. Single underscores may stand between digits.

A literal ends where a digit, letter or underscore cannot follow; only the beginning of a word operator may.
-/
import CursorSpec.Number.Binary64
import CursorSpec.Text.Basic

namespace CursorSpec.Expr

inductive Number where
  | int (n : Nat)
  | float (x : Binary64)
  | imaginary
  deriving DecidableEq, Inhabited

/-- decimal integers may not have more digits than this -/
def maxDigits : Nat := 4300

/-- the value of a digit, in bases up to sixteen -/
def digitValue (c : Char) : Nat :=
  if c.isDigit then c.toNat - 48
  else if 'a' ≤ c && c ≤ 'f' then c.toNat - 87
  else if 'A' ≤ c && c ≤ 'F' then c.toNat - 55
  else 16

/-- whether a character is a digit of a base -/
def isDigitOf (base : Nat) (c : Char) : Bool := digitValue c < base

def digitsValue (base : Nat) (ds : Text) : Nat := ds.foldl (fun n c => n * base + digitValue c) 0

/-- digits with single underscores before and between them, and the rest; `none` for an underscore with no digit
after it -/
def takeDigits (base : Nat) : Text → Option (Text × Text)
  | [] => some ([], [])
  | c :: t =>
    if c = '_' then
      match t with
      | [] => none
      | d :: _ => if isDigitOf base d then takeDigits base t else none
    else if isDigitOf base c then (takeDigits base t).map fun r => (c :: r.1, r.2)
    else some ([], c :: t)

/-- characters that names are made of, as far as cutting a text into words goes -/
def isNameChar (c : Char) : Bool := c.isAlpha || c.isDigit || c = '_' || 128 ≤ c.toNat

/-- word operators that may follow a number with no space between -/
def followers : List Text := ["and", "else", "for", "if", "in", "is", "or", "not"]

def endsNumber (t : Text) : Bool := !t.head?.any isNameChar || followers.any fun w => Text.startsWith t w

/-- a literal that must end here -/
def ended (n : Number) (t : Text) : Option (Number × Text) := if endsNumber t then some (n, t) else none

/-- an integer in the base that a letter after a zero announces -/
def basedLiteral (base : Nat) (t : Text) : Option (Number × Text) := do
  let (ds, t) ← takeDigits base t
  if ds.isEmpty || t.head?.any Char.isDigit then none else ended (.int (digitsValue base ds)) t

/-- the end of a literal that may turn out imaginary -/
def realOrImaginary (n : Number) (t : Text) : Option (Number × Text) :=
  match t with
  | 'j' :: t => ended .imaginary t
  | 'J' :: t => ended .imaginary t
  | t => ended n t

def exponentDigits (whole fraction : Text) (negative : Bool) (t : Text) : Option (Number × Text) := do
  if !t.head?.any Char.isDigit then none
  let (ds, t) ← takeDigits 10 t
  let e : Int := digitsValue 10 ds
  let x := Binary64.ofDecimal false (digitsValue 10 (whole ++ fraction))
    ((if negative then -e else e) - fraction.length)
  realOrImaginary (.float x) t

/-- the exponent of a literal, if one follows, and its end -/
def withExponent (whole fraction : Text) (plain : Option Number) (t : Text) : Option (Number × Text) :=
  let bare : Text → Option (Number × Text) := fun t =>
    match plain with
    | some n => realOrImaginary n t
    | none => realOrImaginary (.float (.ofDecimal false (digitsValue 10 (whole ++ fraction)) (-fraction.length))) t
  match t with
  | e :: s =>
    if e = 'e' || e = 'E' then
      match s with
      | '+' :: u => exponentDigits whole fraction false u
      | '-' :: u => exponentDigits whole fraction true u
      | d :: _ =>
        if d.isDigit then exponentDigits whole fraction false s
        else match plain with
          | some n => ended n t
          | none => ended (.float (.ofDecimal false (digitsValue 10 (whole ++ fraction)) (-fraction.length))) t
      | [] => none
    else bare t
  | [] => bare t

/-- the fraction after a point, and the rest of the literal -/
def fractionLiteral (whole t : Text) : Option (Number × Text) :=
  if t.head?.any Char.isDigit then do
    let (ds, t) ← takeDigits 10 t
    withExponent whole ds none t
  else withExponent whole [] none t

/-- a decimal integer, if its digits are acceptable: not too many, and no leading zeros -/
def decimalInteger? (ds : Text) : Option Number :=
  if ds.head? = some '0' && ds.any (· ≠ '0') then none
  else if maxDigits < ds.length && ds.any (· ≠ '0') then none
  else some (.int (digitsValue 10 ds))

def decimalLiteral (t : Text) : Option (Number × Text) := do
  let (ds, t) ← takeDigits 10 t
  match t with
  | '.' :: t => fractionLiteral ds t
  | c :: s =>
    if c = 'e' || c = 'E' then
      if s.head?.any (fun d => d.isDigit || d = '+' || d = '-') then withExponent ds [] none t
      else do ended (← decimalInteger? ds) t
    else if c = 'j' || c = 'J' then ended .imaginary s
    else do ended (← decimalInteger? ds) t
  | [] => do ended (← decimalInteger? ds) t

/-- the literal at the head of a text that begins with a digit -/
def takeNumber (t : Text) : Option (Number × Text) :=
  match t with
  | '0' :: c :: u =>
    if c = 'x' || c = 'X' then basedLiteral 16 u
    else if c = 'o' || c = 'O' then basedLiteral 8 u
    else if c = 'b' || c = 'B' then basedLiteral 2 u
    else decimalLiteral t
  | t => decimalLiteral t

end CursorSpec.Expr
