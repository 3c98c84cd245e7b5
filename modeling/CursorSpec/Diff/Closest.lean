/-
The closest of several texts to a given one.

The likeness of two texts is twice the number of matched characters over the number of all characters. A candidate
must reach three fifths; the most alike wins, and of equally alike ones the last in the order of texts.
-/
import CursorSpec.Diff.Matching
import CursorSpec.Text.Basic

namespace CursorSpec.Diff

/-- a candidate with its likeness `2 · matched / total`; two empty texts are alike -/
structure Candidate where
  text : Text
  matched : Nat
  total : Nat
  deriving DecidableEq, Inhabited

namespace Candidate

/-- how a text compares with the one looked for -/
def compare (wanted text : Text) : Candidate :=
  let total := text.length + wanted.length
  if total = 0 then ⟨text, 1, 2⟩ else ⟨text, Diff.matched text wanted, total⟩

/-- at least three fifths alike -/
def isClose (c : Candidate) : Bool := 3 * c.total ≤ 10 * c.matched

/-- less alike, or equally alike and earlier in the order of texts -/
def le (c d : Candidate) : Bool :=
  let x := c.matched * d.total
  let y := d.matched * c.total
  x < y || (x = y && Text.le c.text d.text)

end Candidate

/-- the better of the best so far and another candidate -/
def better (best : Option Candidate) (c : Candidate) : Option Candidate :=
  match best with
  | none => some c
  | some d => if c.le d then some d else some c

/-- the closest of the known texts, if any is close enough -/
def closest? (wanted : Text) (known : List Text) : Option Text :=
  (((known.map (Candidate.compare wanted)).filter Candidate.isClose).foldl better none).map (·.text)

end CursorSpec.Diff
