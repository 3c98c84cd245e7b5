/-
Messages about two things that should have been the same.

Texts are shown by their unified difference; where that is empty, two display forms stand below each other, cut to a
length.
-/
import CursorSpec.Diff.Unified
import CursorSpec.Document.Offset
import CursorSpec.Document.Render
import CursorSpec.Value.Display

namespace CursorSpec

namespace Diff

/-- a display form cut to a length; the last three characters of a cut one are dots -/
def truncated (maxLength : Int) (t : Text) : Text :=
  if maxLength < t.length then Text.upTo t (maxLength - 3) ++ "..." else t

/-- two display forms below each other -/
def displayDiff (maxLength : Int) (expected actual : Text) : Text :=
  "Expected: " ++ truncated maxLength expected ++ "\n  Actual: " ++ truncated maxLength actual

/-- the length that display forms are cut to where texts do not differ -/
def fallbackLength : Int := 400

/-- the difference of two texts, or of the display forms of what they stand for -/
def textDiff (expected actual expectedDisplay actualDisplay : Text) : Text :=
  match unified "expected" "actual" (Text.lines expected) (Text.lines actual) with
  | [] => displayDiff fallbackLength expectedDisplay actualDisplay
  | ls => Text.unlines ls

end Diff

namespace Value

def diff (maxLength : Int) (expected actual : Value) : Text :=
  Diff.displayDiff maxLength expected.display actual.display

def textDiff (expected actual : Value) : Text :=
  Diff.textDiff expected.plain actual.plain expected.display actual.display

end Value

/-! ## Document states -/

namespace Position

def display (p : Position) : Text :=
  "Position(line=" ++ Text.ofInt p.line ++ ", character=" ++ Text.ofInt p.character ++ ")"

end Position

namespace Selection

def display (s : Selection) : Text :=
  "Selection(anchor=" ++ s.anchor.display ++ ", active=" ++ s.active.display ++ ")"

end Selection

namespace DocState

/-- selections between round brackets; a single one has a comma after it -/
def displaySelections (ss : List Selection) : Text :=
  let inner := Text.join ", " (ss.map Selection.display)
  if ss.length = 1 then "(" ++ inner ++ ",)" else "(" ++ inner ++ ")"

def display (s : DocState) : Text :=
  "DocumentState(text=" ++ Text.display s.text ++ ", selections=" ++ displaySelections s.selections ++ ")"

/-- the difference of two states in their renderings -/
def diff (expected actual : DocState) : Text :=
  Diff.textDiff expected.render actual.render expected.display actual.display

/-- the message about a state that is not the expected one -/
def mismatch? (expected actual : DocState) : Option Text :=
  if expected = actual then none else some ("document does not match expected state\n" ++ expected.diff actual)

theorem mismatch?_eq_none_iff (expected actual : DocState) : expected.mismatch? actual = none ↔ actual = expected := by
  unfold mismatch?
  by_cases h : expected = actual
  · simp [h]
  · simp [h, Ne.symm h]

end DocState

end CursorSpec
