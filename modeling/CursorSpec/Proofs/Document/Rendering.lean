/-
A rendering spells the text and the markers of any state.

The text may have brackets, bars and backslashes in any order, and selections may overlap, touch, or lie outside the
text. `render_spells`: the rendering is read as characters, which are the text, and as markers, which are those of the
selections by position. Each marker comes before the first character at or after its position, or at the end
(`IsPlaceOf`), and markers of one position come in the order of the selections.
-/
import CursorSpec.Proofs.Document.Token
import CursorSpec.Proofs.Sorting

namespace CursorSpec

namespace Document

/-- whether a place in a text that goes on behind what is read is that of a position: all characters up to the place
stand before the position, and the next one, if there is one, stands at it or behind it -/
def IsPlaceOf (read t : Text) (p place : Position) : Prop :=
  ∃ before rest, t = before ++ rest ∧ place = .afterText (read ++ before) ∧
    (∀ u c v, before = u ++ c :: v → (Position.afterText (read ++ u)).lt p = true) ∧
    ∀ c ∈ rest.head?, p.le (.afterText (read ++ before)) = true

/-- What the way through a text comes by is the place of the position. -/
theorem isPlaceOf_place (read t : Text) (p : Position) : IsPlaceOf read t p (place (.afterText read) p t) := by
  induction t generalizing read with
  | nil => exact ⟨[], [], rfl, by rw [List.append_nil]; rfl, by simp, by simp⟩
  | cons c t ih =>
    rw [place]
    by_cases hp : p.le (.afterText read) = true
    · refine ⟨[], c :: t, rfl, ?_, by simp, fun _ _ => ?_⟩
      · rw [if_pos hp, List.append_nil]
      · rwa [List.append_nil]
    · obtain ⟨before, rest, rfl, hplace, hbefore, hrest⟩ := ih (read ++ [c])
      rw [List.append_assoc] at hplace hrest
      refine ⟨c :: before, rest, rfl, ?_, fun u d v hu => ?_, hrest⟩
      · rw [if_neg hp, ← Position.afterText_concat]
        exact hplace
      · cases u with
        | nil =>
          rw [List.append_nil]
          exact Position.lt_of_not_le hp
        | cons e u =>
          obtain ⟨rfl, htail⟩ := List.cons.inj hu
          have hlt := hbefore u d v htail
          rwa [List.append_assoc] at hlt

end Document

namespace DocState

variable (s : DocState)

theorem marks_pairwise : s.marks.Pairwise fun a b => a.position.le b.position = true :=
  sortBy_pairwise (fun a b : PlacedMark => a.position.le_total b.position) (fun _ _ _ => Position.le_trans) _

/-- Markers of one position come in the order of the selections. -/
theorem filter_marks (p : Position) : s.marks.filter (fun m => m.position = p) =
    (s.selections.flatMap Selection.marks).filter fun m => m.position = p := by
  have htied : tied (fun a b : PlacedMark => a.position.le b.position) ⟨p, .bar⟩ =
      fun m => decide (m.position = p) := by
    funext m
    rw [Bool.eq_iff_iff, tied_iff, decide_eq_true_iff]
    constructor
    · exact fun h => Position.le_antisymm h.2 h.1
    · rintro rfl
      exact ⟨Position.le_refl _, Position.le_refl _⟩
  rw [← htied]
  exact filter_sortBy (fun a b : PlacedMark => a.position.le_total b.position)
    (fun _ _ _ => Position.le_trans) _ _

/-- **Rendering never garbles text.** Whatever the selections are, a rendering is read as characters, which are the
text, and as markers. The markers are those of all selections, ordered by their positions, and those of one position in
the order of the selections; each stands where its position has its place in the text. -/
theorem render_spells :
    Document.characters (Document.tokenize s.render) = s.text ∧
      s.marks.Perm (s.selections.flatMap Selection.marks) ∧
      s.marks.Pairwise (fun a b => a.position.le b.position = true) ∧
      (∀ p, s.marks.filter (fun m => m.position = p) =
        (s.selections.flatMap Selection.marks).filter fun m => m.position = p) ∧
      List.Forall₂ (fun m q => q.mark = m.mark ∧ Document.IsPlaceOf [] s.text m.position q.position) s.marks
        (Document.placed ⟨0, 0⟩ (Document.tokenize s.render)) := by
  have htokens : Document.tokenize s.render = s.tokens := Document.tokenize_write s.tokens
  rw [htokens]
  refine ⟨Document.characters_interleave _ _ _, sortBy_perm _ _, s.marks_pairwise, s.filter_marks, ?_⟩
  rw [tokens, Document.placed_interleave_place s.marks_pairwise, List.forall₂_map_right_iff, List.forall₂_same]
  exact fun m _ => ⟨rfl, Document.isPlaceOf_place [] s.text m.position⟩

/-- A selection from before the text to behind it, and a caret behind a backslash. -/
example : Document.tokenize (make ['\\'] [⟨⟨-1, 0⟩, ⟨7, 7⟩⟩, .caret ⟨0, 1⟩]).render =
    [.mark .opening, .char '\\', .mark .bar, .mark .bar] := by decide

end DocState

end CursorSpec
