/-
Document states: a text with cursors.

A selection has an anchor and an active end; where they are equal it is a caret. A state keeps its selections in
textual order, by where they start and then by where they end, so the order in which they were given is lost except
among selections of one extent. `DocState.make` orders any list; `make_selections` says that it only reorders.
-/
import CursorSpec.Text.Basic

namespace CursorSpec

/-- a line and a character in it, both counted from zero; either may be negative or lie outside a text -/
@[ext]
structure Position where
  line : Int
  character : Int
  deriving DecidableEq, Inhabited

namespace Position

/-- textual order: by line, then by character -/
def le (p q : Position) : Bool := p.line < q.line || (p.line = q.line && p.character ≤ q.character)

def lt (p q : Position) : Bool := p.line < q.line || (p.line = q.line && p.character < q.character)

/-- a position as `line:character` -/
def text (p : Position) : Text := Text.ofInt p.line ++ ':' :: Text.ofInt p.character

/-- the position after a character: a line feed begins the next line -/
def after (p : Position) (c : Char) : Position := if c = '\n' then ⟨p.line + 1, 0⟩ else ⟨p.line, p.character + 1⟩

theorem le_iff (p q : Position) :
    p.le q = true ↔ p.line < q.line ∨ (p.line = q.line ∧ p.character ≤ q.character) := by
  simp [le]

theorem lt_iff (p q : Position) :
    p.lt q = true ↔ p.line < q.line ∨ (p.line = q.line ∧ p.character < q.character) := by
  simp [lt]

theorem le_refl (p : Position) : p.le p = true := by simp [le_iff]

theorem le_total (p q : Position) : p.le q = true ∨ q.le p = true := by
  simp only [le_iff]; omega

theorem le_trans {p q r : Position} (h1 : p.le q = true) (h2 : q.le r = true) : p.le r = true := by
  simp only [le_iff] at *; omega

theorem le_antisymm {p q : Position} (h1 : p.le q = true) (h2 : q.le p = true) : p = q := by
  cases p; cases q
  simp only [le_iff, Position.mk.injEq] at *
  omega

end Position

/-- a selection from its anchor to its active end -/
structure Selection where
  anchor : Position
  active : Position
  deriving DecidableEq, Inhabited

namespace Selection

/-- the empty selection at a position -/
def caret (p : Position) : Selection := ⟨p, p⟩

/-- whether nothing is selected -/
def isCaret (s : Selection) : Bool := s.anchor = s.active

/-- whether the active end comes first -/
def isReversed (s : Selection) : Bool := s.active.lt s.anchor

/-- the end that comes first -/
def start (s : Selection) : Position := if s.isReversed then s.active else s.anchor

/-- the end that comes last -/
def stop (s : Selection) : Position := if s.isReversed then s.anchor else s.active

/-- textual order of selections: by start, then by end -/
def le (s t : Selection) : Bool := s.start.lt t.start || (s.start = t.start && s.stop.le t.stop)

theorem le_iff (s t : Selection) :
    s.le t = true ↔ s.start.lt t.start = true ∨ (s.start = t.start ∧ s.stop.le t.stop = true) := by
  simp [le]

theorem le_total (s t : Selection) : s.le t = true ∨ t.le s = true := by
  have h1 := Position.le_total s.stop t.stop
  simp only [le_iff, Position.lt_iff]
  by_cases h : s.start = t.start
  · simpa [h] using h1
  · have h2 := Position.le_total s.start t.start
    have h3 : ¬(s.start.line = t.start.line ∧ s.start.character = t.start.character) :=
      fun e => h (Position.ext e.1 e.2)
    simp only [Position.le_iff] at h2
    omega

theorem le_trans (s t u : Selection) (h1 : s.le t = true) (h2 : t.le u = true) : s.le u = true := by
  simp only [le_iff] at *
  rcases h1 with h1 | ⟨e1, h1⟩ <;> rcases h2 with h2 | ⟨e2, h2⟩
  · left; simp only [Position.lt_iff] at *; omega
  · left; rwa [← e2]
  · left; rwa [e1]
  · exact Or.inr ⟨e1.trans e2, Position.le_trans h1 h2⟩

end Selection

/-- a text and its cursors in textual order -/
structure DocState where
  text : Text
  selections : List Selection
  ordered : selections.Pairwise fun s t => s.le t = true
  deriving DecidableEq

namespace DocState

/-- the state of a text with the given selections -/
def make (text : Text) (selections : List Selection) : DocState :=
  ⟨text, sortBy Selection.le selections, sortBy_pairwise Selection.le_total Selection.le_trans selections⟩

/-- a text without cursors -/
def plain (text : Text) : DocState := ⟨text, [], List.Pairwise.nil⟩

instance : Inhabited DocState := ⟨plain []⟩

/-- Making a state only reorders the selections. -/
theorem make_selections (text : Text) (selections : List Selection) :
    (make text selections).selections.Perm selections :=
  sortBy_perm Selection.le selections

@[ext]
theorem ext {s t : DocState} (h1 : s.text = t.text) (h2 : s.selections = t.selections) : s = t := by
  cases s; cases t; simp_all

end DocState

end CursorSpec
