/-
Changes applied one after the other are one insertion.

A change replaces the main selection, or inserts at its active end, and leaves a caret behind what it has inserted. So
every change but the first is an insertion at a caret, right behind the one before it (`applyChangesFrom?_caret`), and
only the first can remove text. Together they insert all their texts in order, where the first one stands
(`applyChanges?_cons`); the other selections have no part in it.
-/
import CursorSpec.Editor.Edit
import CursorSpec.Proofs.Document.Offset

namespace CursorSpec

namespace TextChange

/-- the text that changes insert, one after the other -/
def inserted (cs : List TextChange) : Text := cs.flatMap (·.text)

theorem inserted_cons (c : TextChange) (cs : List TextChange) : inserted (c :: cs) = c.text ++ inserted cs :=
  List.flatMap_cons

theorem inserted_append (cs ds : List TextChange) : inserted (cs ++ ds) = inserted cs ++ inserted ds :=
  List.flatMap_append

/-- Changes made over and over insert their texts that many times. -/
theorem inserted_replicate (n : Nat) (cs : List TextChange) :
    inserted (List.replicate n cs).flatten = Text.times n (inserted cs) := by
  induction n with
  | zero => rfl
  | succ n ih =>
    rw [List.replicate_succ, List.flatten_cons, inserted_append, ih, Text.times, Text.times, List.replicate_succ,
      List.flatten_cons]

end TextChange

namespace DocState

/-- whether a change at a selection replaces the text between two offsets: the ends of the selection, or its active end
alone for an insertion -/
def ReplacesAt (text : Text) (main : Selection) (c : TextChange) (a b : Nat) : Prop :=
  if c.rangeLength = 0 then Document.offsetAt? text main.active = some (a : Int) ∧ b = a
  else Document.offsetAt? text main.start = some (a : Int) ∧ Document.offsetAt? text main.stop = some (b : Int)

instance (text : Text) (main : Selection) (c : TextChange) (a b : Nat) : Decidable (ReplacesAt text main c a b) := by
  unfold ReplacesAt; infer_instance

/-- a document where a text was inserted between two offsets of another, with a caret behind it -/
def withInserted (text : Text) (a b : Nat) (w : Text) : DocState :=
  .make (text.take a ++ w ++ text.drop b) [.caret (Position.afterText (text.take a ++ w))]

theorem IsNonneg.mainSelection {s : DocState} (h : s.IsNonneg) : s.mainSelection.IsNonneg := by
  unfold DocState.mainSelection
  cases hs : s.selections with
  | nil => exact ⟨⟨le_rfl, le_rfl⟩, le_rfl, le_rfl⟩
  | cons x xs => exact h x (hs ▸ List.mem_cons_self)

theorem exists_replacesAt (text : Text) {main : Selection} (h : main.IsNonneg) (c : TextChange) :
    ∃ a b, ReplacesAt text main c a b ∧ a ≤ b ∧ b ≤ text.length := by
  unfold ReplacesAt
  split
  · exact ⟨_, _, ⟨Document.offsetAt?_of_isNonneg text h.2, rfl⟩, le_rfl, Document.offsetIn_le_length text _ _⟩
  · exact ⟨_, _, ⟨Document.offsetAt?_of_isNonneg text h.start, Document.offsetAt?_of_isNonneg text h.stop⟩,
      Document.offsetIn_le_offsetIn text h.start h.stop main.start_le_stop, Document.offsetIn_le_length text _ _⟩

/-! ## One change -/

theorem applyChange?_of_replacesAt {text : Text} {main : Selection} {c : TextChange} {a b : Nat}
    (h : ReplacesAt text main c a b) (ha : a ≤ text.length) :
    applyChange? text main c =
      some (text.take a ++ c.text ++ text.drop b, .caret (Position.afterText (text.take a ++ c.text))) := by
  have hplace : Document.positionAt (text.take a ++ c.text ++ text.drop b) (a + c.text.length) =
      Position.afterText (text.take a ++ c.text) := by
    have hlength : ((text.take a ++ c.text).length : Int) = a + c.text.length := by
      rw [List.length_append, List.length_take, min_eq_left ha, Nat.cast_add]
    rw [← hlength, Document.positionAt_length]
  unfold ReplacesAt at h
  unfold applyChange?
  split at h
  · next hinsert =>
    obtain ⟨hstart, rfl⟩ := h
    simp only [hinsert, if_true, hstart, Option.bind_eq_bind, Option.bind_some, Text.upTo_natCast,
      Text.fromOn_natCast, hplace, Option.pure_def]
  · next hreplace =>
    obtain ⟨hstart, hstop⟩ := h
    simp only [hreplace, if_false, hstart, hstop, Option.bind_eq_bind, Option.bind_some, Text.upTo_natCast,
      Text.fromOn_natCast, hplace, Option.pure_def]

/-- At a caret behind the first part of a text, every change inserts there. -/
theorem applyChange?_caret (u v : Text) (c : TextChange) :
    applyChange? (u ++ v) (.caret (Position.afterText u)) c =
      some (u ++ c.text ++ v, .caret (Position.afterText (u ++ c.text))) := by
  have hplace : ReplacesAt (u ++ v) (.caret (Position.afterText u)) c u.length u.length := by
    unfold ReplacesAt
    split
    · exact ⟨Document.offsetAt?_afterText u v, rfl⟩
    · rw [Selection.start_caret, Selection.stop_caret]
      exact ⟨Document.offsetAt?_afterText u v, Document.offsetAt?_afterText u v⟩
  simpa using applyChange?_of_replacesAt hplace (by simp)

/-! ## Changes in a row -/

/-- **From a caret behind the first part of a text on, changes insert their texts there, one after the other.** -/
theorem applyChangesFrom?_caret (u v : Text) (cs : List TextChange) :
    applyChangesFrom? (u ++ v) (.caret (Position.afterText u)) cs =
      some (u ++ TextChange.inserted cs ++ v, .caret (Position.afterText (u ++ TextChange.inserted cs))) := by
  induction cs generalizing u with
  | nil => simp [applyChangesFrom?, TextChange.inserted]
  | cons c cs ih =>
    rw [applyChangesFrom?, applyChange?_caret, TextChange.inserted_cons, ← List.append_assoc]
    exact ih (u ++ c.text)

/-- **Changes insert all their texts at once where the first one stands, which alone removes text.** -/
theorem applyChanges?_cons {s : DocState} {c : TextChange} {a b : Nat} (h : ReplacesAt s.text s.mainSelection c a b)
    (ha : a ≤ s.text.length) (cs : List TextChange) :
    s.applyChanges? (c :: cs) = some (withInserted s.text a b (TextChange.inserted (c :: cs))) := by
  have hall : applyChangesFrom? s.text s.mainSelection (c :: cs) =
      some (s.text.take a ++ c.text ++ TextChange.inserted cs ++ s.text.drop b,
        .caret (Position.afterText (s.text.take a ++ c.text ++ TextChange.inserted cs))) := by
    rw [applyChangesFrom?, applyChange?_of_replacesAt h ha]
    exact applyChangesFrom?_caret (s.text.take a ++ c.text) (s.text.drop b) cs
  rw [applyChanges?, hall, TextChange.inserted_cons, withInserted, ← List.append_assoc]
  rfl

/-- Without changes, only the main selection is kept. -/
theorem applyChanges?_nil (s : DocState) : s.applyChanges? [] = some (.make s.text [s.mainSelection]) := rfl

/-- The same changes over and over insert their texts that many times, all at once. -/
theorem applyChanges?_replicate {s : DocState} {c : TextChange} {a b : Nat}
    (h : ReplacesAt s.text s.mainSelection c a b) (ha : a ≤ s.text.length) (cs : List TextChange) (n : Nat) :
    s.applyChanges? (List.replicate (n + 1) (c :: cs)).flatten =
      some (withInserted s.text a b (Text.times (n + 1) (TextChange.inserted (c :: cs)))) := by
  rw [← TextChange.inserted_replicate, List.replicate_succ, List.flatten_cons, List.cons_append]
  exact applyChanges?_cons h ha _

end DocState

end CursorSpec
