/-
Rendering: a document state written in the marker convention.

Each selection puts its markers at its two ends. The markers are ordered by position, equal positions in the order of
the selections, and each stands before the first character at or after its position; those beyond the text stand at
its end.
-/
import CursorSpec.Document.Marker

namespace CursorSpec

/-- a marker and the position it belongs to -/
structure PlacedMark where
  position : Position
  mark : Mark
  deriving DecidableEq, Inhabited

namespace Selection

def marks (s : Selection) : List PlacedMark :=
  if s.isCaret then [⟨s.active, .bar⟩]
  else if s.isReversed then [⟨s.active, .bar⟩, ⟨s.anchor, .closing⟩]
  else [⟨s.anchor, .opening⟩, ⟨s.active, .bar⟩]

end Selection

namespace Document

/-- characters and markers interleaved, from a position on -/
def interleave (here : Position) : Text → List PlacedMark → List Token
  | [], ms => ms.map fun m => .mark m.mark
  | c :: t, ms =>
    (ms.takeWhile fun m => m.position.le here).map (fun m => .mark m.mark) ++
      .char c :: interleave (here.after c) t (ms.dropWhile fun m => m.position.le here)

end Document

namespace DocState

/-- the markers of a state, by position -/
def marks (s : DocState) : List PlacedMark :=
  sortBy (fun a b => a.position.le b.position) (s.selections.flatMap Selection.marks)

def tokens (s : DocState) : List Token := Document.interleave ⟨0, 0⟩ s.text s.marks

/-- a state written in the marker convention -/
def render (s : DocState) : Text := Document.write s.tokens

end DocState

end CursorSpec
