/-
Plain data values: what configuration files, command arguments and results are made of. Mappings keep their entries
in order, and their keys may be any scalar.
-/
import CursorSpec.Number.Binary64
import CursorSpec.Text.Basic

namespace CursorSpec

/-- a plain data value -/
inductive Value where
  | null
  | bool (b : Bool)
  | int (n : Int)
  | float (x : Binary64)
  | str (t : Text)
  | date (t : Text)
  | list (vs : List Value)
  | dict (entries : List (Value × Value))
  deriving Inhabited

namespace Value

/-! ## Equality -/

mutual
def isSame : Value → Value → Bool
  | .null, .null => true
  | .bool a, .bool b => a = b
  | .int m, .int n => m = n
  | .float x, .float y => x = y
  | .str s, .str t => s = t
  | .date s, .date t => s = t
  | .list vs, .list ws => areSame vs ws
  | .dict es, .dict fs => haveSame es fs
  | _, _ => false

def areSame : List Value → List Value → Bool
  | [], [] => true
  | v :: vs, w :: ws => isSame v w && areSame vs ws
  | _, _ => false

/-- whether two lists hold the same entries -/
def haveSame : List (Value × Value) → List (Value × Value) → Bool
  | [], [] => true
  | e :: es, f :: fs => isSame e.1 f.1 && isSame e.2 f.2 && haveSame es fs
  | _, _ => false
end

mutual
theorem isSame_iff : ∀ a b : Value, isSame a b = true ↔ a = b
  | .null, b => by cases b <;> simp [isSame]
  | .bool _, b => by cases b <;> simp [isSame]
  | .int _, b => by cases b <;> simp [isSame]
  | .float _, b => by cases b <;> simp [isSame]
  | .str _, b => by cases b <;> simp [isSame]
  | .date _, b => by cases b <;> simp [isSame]
  | .list vs, b => by cases b <;> simp [isSame, areSame_iff vs]
  | .dict es, b => by cases b <;> simp [isSame, haveSame_iff es]

theorem areSame_iff : ∀ vs ws : List Value, areSame vs ws = true ↔ vs = ws
  | [], ws => by cases ws <;> simp [areSame]
  | v :: vs, ws => by cases ws <;> simp [areSame, isSame_iff v, areSame_iff vs]

theorem haveSame_iff : ∀ es fs : List (Value × Value), haveSame es fs = true ↔ es = fs
  | [], fs => by cases fs <;> simp [haveSame]
  | (k, v) :: es, fs => by cases fs <;> simp [haveSame, isSame_iff k, isSame_iff v, haveSame_iff es, Prod.ext_iff]
end

instance : DecidableEq Value := fun a b => decidable_of_iff _ (isSame_iff a b)

/-! ## Keys and entries -/

/-- the value as a number, if it is one; truth values count as 0 and 1 -/
def number? : Value → Option (Int ⊕ Binary64)
  | .bool b => some (.inl (if b then 1 else 0))
  | .int n => some (.inl n)
  | .float x => some (match x.toInt? with
    | some n => .inl n
    | none => .inr x)
  | _ => none

/-- whether two scalars are the same key: numbers of any kind by value, everything else by form -/
def sameKey (a b : Value) : Bool :=
  match a.number?, b.number? with
  | some (.inl m), some (.inl n) => m = n
  | some (.inr x), some (.inr y) => x = y
  | none, none => a = b
  | _, _ => false

/-- lists and mappings cannot be keys -/
def isScalar : Value → Bool
  | .list _ | .dict _ => false
  | _ => true

/-- the entry of a mapping under a key -/
def lookup? (key : Value) (entries : List (Value × Value)) : Option Value :=
  (entries.find? fun e => sameKey e.1 key).map (·.2)

/-- entry added at the end, or its value replaced where its key already stands -/
def put (key v : Value) : List (Value × Value) → List (Value × Value)
  | [] => [(key, v)]
  | e :: es => if sameKey e.1 key then (e.1, v) :: es else e :: put key v es

/-- empty and zero values count as absent -/
def isEmpty : Value → Bool
  | .null => true
  | .bool b => !b
  | .int n => n = 0
  | .float (.finite _ m _) => m = 0
  | .float _ => false
  | .str t => t.isEmpty
  | .date _ => false
  | .list vs => vs.isEmpty
  | .dict es => es.isEmpty

end Value

end CursorSpec
