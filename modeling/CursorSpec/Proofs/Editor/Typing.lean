/-
Typing is substitution among markers.

A decodable state is a row of pieces (`Document.Piece`). Replacing its selections puts the typed text and a caret in the
place of every piece that is a selection, and leaves the characters as they are (`Piece.typedOver`): what the row then
spells decodes to the state after the replacement (`typing_substitutes`). The proof walks through the row with the text
that was kept since the last replacement in hand (`typed_row`, `carets_row`). On the text alone, that is one
substitution after the other from the last selection to the first (`foldr_substitute`): the selections before it have
the places that they had.
-/
import CursorSpec.Proofs.Document.Grammar
import CursorSpec.Proofs.Editor.Replacing
import CursorSpec.Proofs.Lists

namespace CursorSpec

namespace Document.Piece

/-- the extent of a piece that stands behind so many characters, if it is a selection -/
def extent? (before : Nat) : Piece → Option Extent
  | .char _ => none
  | p => some ⟨before, before + p.characters.length⟩

/-- the extents of the selections of a row that stands behind so many characters -/
def extents (before : Nat) : List Piece → List Extent
  | [] => []
  | p :: ps => (p.extent? before).toList ++ extents (before + p.characters.length) ps

/-- what typing makes of a piece: a selection is replaced by the typed text and a caret -/
def typedOver (r : Text) : Piece → List Piece
  | .char c => [.char c]
  | _ => r.map .char ++ [.caret]

/-- A piece is a character or a selection. -/
theorem char_or_selection (p : Piece) :
    (∃ c, p = .char c) ∨
      (∀ n, p.extent? n = some ⟨n, n + p.characters.length⟩) ∧ ∀ r, p.typedOver r = r.map .char ++ [.caret] := by
  cases p with
  | char c => exact Or.inl ⟨c, rfl⟩
  | _ => exact Or.inr ⟨fun _ => rfl, fun _ => rfl⟩

/-- The text of characters and a caret is the characters. -/
theorem characters_typed (r : Text) (ps : List Piece) :
    (r.map Piece.char ++ [Piece.caret] ++ ps).flatMap characters = r ++ ps.flatMap characters := by
  induction r with
  | nil => rfl
  | cons c r ih => exact congrArg (c :: ·) ih

/-- The selections of characters and a caret begin with the caret behind them. -/
theorem selections_typed (before r : Text) (ps : List Piece) :
    selections before (r.map .char ++ [.caret] ++ ps) =
      .caret (.afterText (before ++ r)) :: selections (before ++ r) ps := by
  rw [List.append_assoc, selections_chars_append, List.singleton_append, selections, characters, List.append_nil]
  rfl

end Document.Piece

open Document (Piece)

namespace DocState

/-! ## The extents of a row -/

/-- whether a selection selects an extent of a text -/
structure Selects (text : Text) (x : Selection) (e : Extent) : Prop where
  ordered : e.start ≤ e.stop
  inside : e.stop ≤ text.length
  start_eq : x.start = .afterText (text.take e.start)
  stop_eq : x.stop = .afterText (text.take e.stop)

theorem Selects.isExtentOf {text : Text} {x : Selection} {e : Extent} (h : Selects text x e) : IsExtentOf text x e :=
  ⟨h.start_eq ▸ Document.offsetAt?_of_le (h.ordered.trans h.inside), h.stop_eq ▸ Document.offsetAt?_of_le h.inside⟩

/-- A selection that is written behind a text selects its characters. -/
theorem selects_selection? {before : Text} {p : Piece} {x : Selection} (h : p.selection? before = some x)
    (after : Text) :
    Selects (before ++ p.characters ++ after) x ⟨before.length, before.length + p.characters.length⟩ := by
  have hstart : (before ++ p.characters ++ after).take before.length = before := by simp
  have hstop : (before ++ p.characters ++ after).take (before.length + p.characters.length) =
      before ++ p.characters := by
    rw [← List.length_append, List.take_left']
    rfl
  have hends : x.start = .afterText before ∧ x.stop = .afterText (before ++ p.characters) := by
    cases p with
    | char c => cases h
    | caret =>
      cases h
      rw [Selection.start_caret, Selection.stop_caret, Piece.characters, List.append_nil]
      exact ⟨rfl, rfl⟩
    | forward c t =>
      cases h
      have hlt := Document.afterText_lt before c t
      have hforward : ¬ (Position.afterText (before ++ c :: t)).lt (.afterText before) = true := fun hback =>
        Position.not_le_of_lt hback (Position.le_of_lt hlt)
      rw [Selection.start, Selection.stop, Selection.isReversed, if_neg hforward, if_neg hforward]
      exact ⟨rfl, rfl⟩
    | backward c t =>
      cases h
      have hlt := Document.afterText_lt before c t
      rw [Selection.start, Selection.stop, Selection.isReversed, if_pos hlt, if_pos hlt]
      exact ⟨rfl, rfl⟩
  refine ⟨Nat.le_add_right _ _, by simp, ?_, ?_⟩
  · rw [hstart]; exact hends.1
  · rw [hstop]; exact hends.2

/-- The selections of a row select its extents. -/
theorem forall₂_selects_row (before : Text) (ps : List Piece) :
    List.Forall₂ (Selects (before ++ ps.flatMap Piece.characters)) (Piece.selections before ps)
      (Piece.extents before.length ps) := by
  induction ps generalizing before with
  | nil => exact .nil
  | cons p ps ih =>
    have hrest := ih (before ++ p.characters)
    rw [List.append_assoc, List.length_append, ← List.flatMap_cons] at hrest
    rw [Piece.selections, Piece.extents]
    rcases p.char_or_selection with ⟨c, rfl⟩ | ⟨hextent, -⟩
    · exact hrest
    · obtain ⟨x, hx⟩ : ∃ x, p.selection? before = some x := by
        cases p with
        | char c => cases hextent 0
        | _ => exact ⟨_, rfl⟩
      have hselects := selects_selection? hx (ps.flatMap Piece.characters)
      rw [List.append_assoc, ← List.flatMap_cons] at hselects
      rw [hx, hextent]
      exact .cons hselects hrest

/-! ## Substituting from the last to the first -/

theorem areApart_row (n : Nat) (ps : List Piece) : AreApart n (Piece.extents n ps) := by
  induction ps generalizing n with
  | nil => trivial
  | cons p ps ih =>
    have hrest := ih (n + p.characters.length)
    rw [Piece.extents]
    rcases p.char_or_selection with ⟨c, rfl⟩ | ⟨hextent, -⟩
    · exact areApart_mono (Nat.le_add_right n 1) hrest
    · rw [hextent]
      exact ⟨le_rfl, Nat.le_add_right _ _, hrest⟩

/-- **Substituting from the last extent to the first** leaves what stands before each extent where it is, and so makes
the same text as replacing them all at once. -/
theorem foldr_substitute {old r : Text} {cursor : Nat} {xs : List Extent} (apart : AreApart cursor xs)
    (inside : ∀ x ∈ xs, x.stop ≤ old.length) :
    xs.foldr (fun x t => t.take x.start ++ r ++ t.drop x.stop) old =
      old.take cursor ++ (typed r (kept old cursor xs) ++ old.drop (reach cursor xs)) := by
  induction xs generalizing cursor with
  | nil => exact (List.take_append_drop cursor old).symm
  | cons x xs ih =>
    obtain ⟨hcursor, hx, hxs⟩ := apart
    have hstop : x.stop ≤ old.length := inside x List.mem_cons_self
    have hmax : max x.start cursor = x.start := max_eq_left hcursor
    have hfrom : x.stopFrom cursor = x.stop := by rw [Extent.stopFrom, hmax, max_eq_left hx]
    have hcut : (old.take x.stop).take x.start = old.take cursor ++ (old.take x.start).drop cursor := by
      have hsplit := List.take_append_drop cursor (old.take x.start)
      rw [List.take_take, min_eq_left hcursor] at hsplit
      rw [List.take_take, min_eq_left hx, hsplit]
    have hlength : (old.take x.stop).length = x.stop := by rw [List.length_take, min_eq_left hstop]
    rw [List.foldr_cons, ih hxs fun y hy => inside y (List.mem_cons_of_mem x hy), kept, reach, typed_cons, hmax, hfrom,
      List.take_append_of_le_length (hlength.symm ▸ hx), hcut, List.drop_left' hlength]
    simp only [List.append_assoc]

/-! ## Replacing in a row -/

/-- A selection behind a text, where the text from a cursor on has been kept. -/
theorem kept_cons_length {before : Text} {cursor : Nat} (hcursor : cursor ≤ before.length) (rest : Text) (k : Nat)
    (xs : List Extent) :
    kept (before ++ rest) cursor (⟨before.length, before.length + k⟩ :: xs) =
        before.drop cursor :: kept (before ++ rest) (before.length + k) xs ∧
      reach cursor (⟨before.length, before.length + k⟩ :: xs) = reach (before.length + k) xs := by
  have hmax : max before.length cursor = before.length := max_eq_left hcursor
  have hfrom : Extent.stopFrom cursor ⟨before.length, before.length + k⟩ = before.length + k := by
    rw [Extent.stopFrom, hmax, max_eq_left (Nat.le_add_right _ _)]
  rw [kept, reach, hmax, hfrom, List.take_left]
  exact ⟨rfl, rfl⟩

/-- **What replacing makes of a row** from a cursor on, behind what was made of the text before: the text from the
cursor on, and then the pieces typed over. -/
theorem replaced_row (r before made : Text) {cursor : Nat} (hcursor : cursor ≤ before.length) (ps : List Piece) :
    typed r (kept (before ++ ps.flatMap Piece.characters) cursor (Piece.extents before.length ps)) ++
        (before ++ ps.flatMap Piece.characters).drop (reach cursor (Piece.extents before.length ps)) =
      before.drop cursor ++ (ps.flatMap (Piece.typedOver r)).flatMap Piece.characters ∧
    carets r made (kept (before ++ ps.flatMap Piece.characters) cursor (Piece.extents before.length ps)) =
      Piece.selections (made ++ before.drop cursor) (ps.flatMap (Piece.typedOver r)) := by
  induction ps generalizing before made cursor with
  | nil => simp [Piece.extents, kept, typed, reach, carets, Piece.selections]
  | cons p ps ih =>
    have hold : before ++ (p :: ps).flatMap Piece.characters =
        before ++ p.characters ++ ps.flatMap Piece.characters := by
      rw [List.flatMap_cons, List.append_assoc]
    rcases p.char_or_selection with ⟨c, rfl⟩ | ⟨hextent, htyped⟩
    · -- a character is kept, and is in hand from now on
      have hlength : (before ++ [c]).length = before.length + 1 := List.length_append
      have hrest := ih (before ++ [c]) made (hcursor.trans (hlength ▸ Nat.le_succ _))
      rw [hlength, List.drop_append_of_le_length hcursor, ← List.append_assoc made,
        List.append_assoc (before.drop cursor)] at hrest
      rw [hold]
      exact hrest
    · -- a selection is where the text in hand ends, and leaves nothing in hand
      have hlength : (before ++ p.characters).length = before.length + p.characters.length := List.length_append
      have hrest := ih (before ++ p.characters) (made ++ before.drop cursor ++ r)
        hlength.ge
      rw [hlength, List.drop_eq_nil_of_le hlength.le, List.append_nil, List.append_assoc before, ← List.flatMap_cons]
        at hrest
      have hkept := kept_cons_length hcursor ((p :: ps).flatMap Piece.characters) p.characters.length
        (Piece.extents (before.length + p.characters.length) ps)
      rw [Piece.extents, hextent, Option.toList_some, List.singleton_append, hkept.1, hkept.2,
        List.flatMap_cons (f := Piece.typedOver r), htyped, Piece.characters_typed, Piece.selections_typed]
      constructor
      · rw [typed_cons, List.append_assoc, List.append_assoc, hrest.1, List.nil_append]
      · rw [carets, hrest.2]

/-- **Typing at all cursors is substitution in the marker rendering.** A decodable state is one row of pieces and no
other, and the state after its selections were replaced is the one that the row spells with the typed text and a caret
in the place of each selection. Its text is the old one with the typed text put for the selected extents, one after the
other from the last to the first. -/
theorem typing_substitutes {s : DocState} (h : s.IsDecodable) (r : Text) :
    ∃ (s' : DocState) (ps : List Piece) (es : List Extent), s.replaceSelections? r = some s' ∧
      (s.tokens = ps.flatMap Piece.tokens ∧ ∀ qs, s.tokens = qs.flatMap Piece.tokens → qs = ps) ∧
      Document.decode (Document.write ((ps.flatMap (Piece.typedOver r)).flatMap Piece.tokens) ++ ['\n']) = .ok s' ∧
      List.Forall₂ (Selects s.text) s.selections es ∧
      s'.text = es.foldr (fun x t => t.take x.start ++ r ++ t.drop x.stop) s.text := by
  obtain ⟨htext, hmarks⟩ := Document.ofTokens_eq_ok_iff.1 (Document.ofTokens_tokens h)
  obtain ⟨ps, hps, hselections⟩ := Document.exists_row [] hmarks
  rw [← hps, Document.characters_row] at htext
  have hselects : List.Forall₂ (Selects s.text) s.selections (Piece.extents 0 ps) := by
    have hrow := forall₂_selects_row [] ps
    rwa [hselections, List.nil_append, ← htext] at hrow
  have hapart := areApart_row 0 ps
  have hreplaced := replaceSelections?_of_ordered (hselects.imp fun _ _ hx => hx.isExtentOf)
    (pairwise_before_of_areApart hapart) r
  have hrow := replaced_row r [] [] le_rfl ps
  rw [List.nil_append, ← htext] at hrow
  refine ⟨_, ps, Piece.extents 0 ps, hreplaced, ⟨hps.symm, fun qs hqs => ?_⟩, ?_, hselects, ?_⟩
  · exact Document.row_unique (hqs.symm.trans hps.symm)
  · rw [Document.decode, Document.withoutFinalLineFeed_append, Document.tokenize_write, Document.ofTokens_eq_ok_iff,
      Document.characters_row, replaced_text, replaced_selections]
    exact ⟨hrow.1, hrow.2 ▸ (Document.placed_row [] _).symm⟩
  · rw [replaced_text, foldr_substitute hapart fun x hx => ?_]
    · rfl
    · obtain ⟨y, -, hy⟩ := exists_of_mem_forall₂ hselects hx
      exact hy.inside

/-- the state of a row with every kind of piece -/
def everyPiece : DocState :=
  .make ['a', ']', '\n', 'b'] [.caret ⟨0, 0⟩, ⟨⟨0, 0⟩, ⟨0, 2⟩⟩, ⟨⟨1, 1⟩, ⟨1, 0⟩⟩, .caret ⟨1, 1⟩]

/-- Typed over every kind of piece: each selection makes place for the text and a caret. -/
theorem typing_everyPiece :
    everyPiece.IsDecodable ∧ ∃ s', everyPiece.replaceSelections? ['x', '|'] = some s' ∧
      Document.decode ['x', '\\', '|', '|', 'x', '\\', '|', '|', '\n', 'x', '\\', '|', '|', 'x', '\\', '|', '|', '\n'] =
        .ok s' := by
  obtain ⟨s', ps, es, hreplaced, ⟨-, honly⟩, hdecoded, -⟩ :=
    typing_substitutes (s := everyPiece) (by decide) ['x', '|']
  obtain rfl := honly Document.everyPiece (by decide)
  exact ⟨by decide, s', hreplaced, hdecoded⟩

end DocState

end CursorSpec
