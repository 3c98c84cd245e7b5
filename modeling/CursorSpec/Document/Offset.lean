/-
Offsets into a text and positions in it.

`offsetAt?` clamps the character to the line and the result to the text. A negative line counts from the last line
and must exist; a negative offset or count of lines counts from the end. So `slice` and `position` accept every
integer, and `offsetAt?` fails only for a line too far before the first.
-/
import CursorSpec.Document.Basic

namespace CursorSpec

namespace Text

/-- an index that counts from the end where it is negative, brought into `0 .. length` -/
def bound (length : Nat) (i : Int) : Nat := if i < 0 then (length + i).toNat else min i.toNat length

/-- the elements before an index -/
def upTo {α : Type} (t : List α) (i : Int) : List α := t.take (bound t.length i)

/-- the elements from an index on -/
def fromOn {α : Type} (t : List α) (i : Int) : List α := t.drop (bound t.length i)

/-- the elements from one index up to another -/
def slice {α : Type} (t : List α) (i j : Int) : List α :=
  (t.take (bound t.length j)).drop (bound t.length i)

/-- the element at an index that counts from the end where it is negative -/
def at? {α : Type} (t : List α) (i : Int) : Option α :=
  if 0 ≤ i then t[i.toNat]? else if 0 ≤ t.length + i then t[(t.length + i).toNat]? else none

end Text

namespace Document

/-- the offset of a position, clamped to its line; `none` for a line that does not exist before the first -/
def offsetAt? (text : Text) (p : Position) : Option Int :=
  let ls := Text.lines text
  let before : Int := ((Text.upTo ls p.line).foldr (fun l n => l.length + 1 + n) 0 : Nat)
  if p.line < ls.length then
    (Text.at? ls p.line).map fun l => min (before + min p.character l.length) text.length
  else some (min before text.length)

def positionAt (text : Text) (offset : Int) : Position :=
  let before := Text.upTo text offset
  let tail := (before.reverse.takeWhile (· ≠ '\n')).length
  ⟨before.count '\n', offset - (before.length - tail : Nat)⟩

end Document

end CursorSpec
