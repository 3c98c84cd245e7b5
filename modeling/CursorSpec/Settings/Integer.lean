/-
Integers in settings may be written in several ways: as numbers without a fraction, as truth values, and as texts with
blanks around, a plus sign, leading zeros, underscores between digits or a fraction of zeros.
-/
import CursorSpec.Text.Blank
import CursorSpec.Value.Basic

namespace CursorSpec

/-- why a value is no integer -/
inductive IntegerFault where
  | type
  | unreadable
  | tooLong
  | fraction
  | notFinite
  deriving DecidableEq, Inhabited

namespace IntegerFault

def kind : IntegerFault → Text
  | .type => "int_type"
  | .unreadable => "int_parsing"
  | .tooLong => "int_parsing_size"
  | .fraction => "int_from_float"
  | .notFinite => "finite_number"

def message : IntegerFault → Text
  | .type => "Input should be a valid integer"
  | .unreadable => "Input should be a valid integer, unable to parse string as an integer"
  | .tooLong => "Unable to parse input string as an integer, exceeded maximum size"
  | .fraction => "Input should be a valid integer, got a number with a fractional part"
  | .notFinite => "Input should be a finite number"

end IntegerFault

namespace Text

/-- blanks that may surround an integer -/
def isOuterBlank (c : Char) : Bool := isBlank c && !(0x1c ≤ c.toNat && c.toNat ≤ 0x1f)

/-- the number of a text of digits without leading zeros -/
def canonicalNat? (t : Text) : Option Nat :=
  if t.isEmpty || !t.all Char.isDigit || (1 < t.length && t.head? = some '0') then none
  else some (t.foldl (fun n c => n * 10 + (c.toNat - 48)) 0)

/-- the number of digits without leading zeros, perhaps after a hyphen -/
def canonicalInt? : Text → Option Int
  | '-' :: t => (canonicalNat? t).map fun n => -(n : Int)
  | t => (canonicalNat? t).map fun n => (n : Int)

/-- a fraction of zeros removed -/
def withoutZeroFraction (t : Text) : Text :=
  match cutAt? '.' t with
  | some (whole, fraction) => if fraction.all (· = '0') then whole else t
  | none => t

/-- leading zeros removed, and underscores among them; the text must begin with a digit or a hyphen -/
def withoutLeadingZeros? (t : Text) : Option Text :=
  match t with
  | '0' :: u =>
    let rest := u.dropWhile fun c => c = '0' || c = '_'
    match rest with
    | [] => some (t.drop (t.length - 1))
    | c :: _ => if c.isDigit then some rest else none
  | c :: _ => if c.isDigit || c = '-' then some t else none
  | [] => none

/-- whether an underscore stands beside another one -/
def hasDoubleUnderscore : Text → Bool
  | '_' :: '_' :: _ => true
  | _ :: t => hasDoubleUnderscore t
  | [] => false

/-- single underscores inside a text removed -/
def withoutUnderscores (t : Text) : Text :=
  if t.head? = some '_' || t.getLast? = some '_' || hasDoubleUnderscore t then t else t.filter (· ≠ '_')

/-- an integer may not have more characters than this -/
def maxIntegerLength : Nat := 4300

/-- the integer that a text spells -/
def integer (t : Text) : Except IntegerFault Int :=
  let t := trim isOuterBlank t
  let t := match t with
    | '+' :: u => if u.head? = some '+' || u.head? = some '-' then t else u
    | u => u
  if maxIntegerLength < t.length then .error .tooLong
  else match canonicalInt? t with
    | some n => .ok n
    | none =>
      match (withoutLeadingZeros? (withoutZeroFraction t)).bind fun u => canonicalInt? (withoutUnderscores u) with
      | some n => .ok n
      | none => .error .unreadable

end Text

namespace Value

/-- the integer that a value stands for -/
def integer : Value → Except IntegerFault Int
  | .bool b => .ok (if b then 1 else 0)
  | .int n => .ok n
  | .float x =>
    if !x.isFinite then .error .notFinite
    else match x.toInt? with
      | some n => if n.natAbs < Nat.pow 2 63 then .ok n else .error .tooLong
      | none => .error .fraction
  | .str t => Text.integer t
  | _ => .error .type

end Value

end CursorSpec
