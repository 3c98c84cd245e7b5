/-
Decoding UTF-8. Only the shortest form of a code point is accepted, and no surrogates.
-/
import CursorSpec.Text.Basic

namespace CursorSpec.Utf8

/-- the value of `n` continuation bytes after a start, and what follows -/
def continued (start : Nat) : (n : Nat) → List Nat → Option (Nat × List Nat)
  | 0, bs => some (start, bs)
  | n + 1, b :: bs => if 0x80 ≤ b && b < 0xc0 then continued (start * 64 + (b - 0x80)) n bs else none
  | _ + 1, [] => none

/-- the character that bytes begin with, and what follows; `least` is the smallest code point of this many bytes -/
def character (least start n : Nat) (bs : List Nat) : Option (Char × List Nat) := do
  let (v, rest) ← continued start n bs
  if h : v.isValidChar then if least ≤ v then some (Char.ofNatAux v h, rest) else none else none

def first (b : Nat) (bs : List Nat) : Option (Char × List Nat) :=
  if b < 0x80 then character 0 b 0 bs
  else if b < 0xc0 then none
  else if b < 0xe0 then character 0x80 (b - 0xc0) 1 bs
  else if b < 0xf0 then character 0x800 (b - 0xe0) 2 bs
  else if b < 0xf8 then character 0x10000 (b - 0xf0) 3 bs
  else none

def decodeFrom : (fuel : Nat) → List Nat → Option Text
  | 0, _ => some []
  | _, [] => some []
  | fuel + 1, b :: bs => do
    let (c, rest) ← first b bs
    return c :: (← decodeFrom fuel rest)

def decode? (bs : List Nat) : Option Text := decodeFrom bs.length bs

end CursorSpec.Utf8
