/-
Edits of a document: replacing all selections, and applying changes at the main one.

Positions become offsets first, so an edit fails where a selection lies on a line too far before the first. Replaced
selections that overlap are cut where the one before them ends, and every selection becomes a caret after what it was
replaced by.
-/
import CursorSpec.Document.Offset

namespace CursorSpec

/-- a change of text: an insertion at the active end of the main selection, or a replacement of that selection -/
structure TextChange where
  text : Text
  rangeLength : Int
  deriving DecidableEq, Inhabited

namespace DocState

/-! ## Replacing all selections -/

/-- a selection as offsets, with its place among the selections -/
structure Span where
  start : Int
  stop : Int
  index : Nat
  deriving DecidableEq, Inhabited

/-- spans by where they start and then by where they end -/
def Span.le (a b : Span) : Bool := a.start < b.start || (a.start = b.start && a.stop ≤ b.stop)

def spans? (s : DocState) : Option (List Span) :=
  (s.selections.mapIdx fun i x => (i, x)).mapM fun (i, x) => do
    return ⟨← Document.offsetAt? s.text x.start, ← Document.offsetAt? s.text x.stop, i⟩

/-- how far a replacement has come: the new text, the offset in the old one, and the carets so far -/
structure Replacing where
  text : Text
  cursor : Nat
  carets : List (Nat × Nat)
  deriving DecidableEq, Inhabited

/-- one span replaced -/
def Replacing.step (old replacement : Text) (r : Replacing) (s : Span) : Replacing :=
  let start := max s.start.toNat r.cursor
  let stop := max s.stop.toNat start
  let text := r.text ++ (old.take start).drop r.cursor ++ replacement
  ⟨text, stop, r.carets ++ [(s.index, text.length)]⟩

def replaceSelections? (s : DocState) (replacement : Text) : Option DocState := do
  let spans ← s.spans?
  let r := (sortBy Span.le spans).foldl (Replacing.step s.text replacement) ⟨[], 0, []⟩
  let text := r.text ++ s.text.drop r.cursor
  let carets := sortBy (fun a b => decide (a.1 ≤ b.1)) r.carets
  return make text (carets.map fun c => .caret (Document.positionAt text c.2))

/-! ## Changes at the main selection -/

/-- one change, and the main selection after it -/
def applyChange? (text : Text) (main : Selection) (c : TextChange) : Option (Text × Selection) := do
  let start ← Document.offsetAt? text (if c.rangeLength = 0 then main.active else main.start)
  let stop ← Document.offsetAt? text (if c.rangeLength = 0 then main.active else main.stop)
  let text := Text.upTo text start ++ c.text ++ Text.fromOn text stop
  return (text, .caret (Document.positionAt text (start + c.text.length)))

/-- changes one after the other -/
def applyChangesFrom? (text : Text) (main : Selection) : List TextChange → Option (Text × Selection)
  | [] => some (text, main)
  | c :: cs => do
    let (text, main) ← applyChange? text main c
    applyChangesFrom? text main cs

/-- the selection that changes are applied at -/
def mainSelection (s : DocState) : Selection := s.selections.head?.getD (.caret ⟨0, 0⟩)

/-- changes applied at the main selection, which alone is left -/
def applyChanges? (s : DocState) (cs : List TextChange) : Option DocState := do
  let (text, main) ← applyChangesFrom? s.text s.mainSelection cs
  return make text [main]

end DocState

end CursorSpec
