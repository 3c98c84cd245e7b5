/-
The grammar of written documents.

A written document is a row of pieces: characters, carets, and selections that are written around the text they select.
That text has at least one character and no markers. Spelling comes first: `Spells` says which tokens a text spells,
and every text spells exactly one list of them (`tokenize_eq_iff`).

`decodes_exactly_rows`: a document is decoded exactly if its tokens are those of a row of pieces. Then there is only
one such row, and it says what is decoded: the characters of the pieces, and the selections where the pieces stand. The
proof reads placed markers, not tokens: a row puts its markers where its selections have theirs (`placed_row`), and
selections whose markers are placed in a text come from a row (`exists_row`).
-/
import CursorSpec.Proofs.Document.RoundTrip

namespace CursorSpec.Document

/-! ## Spelling -/

/-- whether a text spells tokens, from left to right: a backslash makes the special character behind it literal, other
bars and brackets are markers, and everything else stands for itself -/
inductive Spells : Text → List Token → Prop
  | nil : Spells [] []
  | literal {c : Char} {t : Text} {ts : List Token} (special : isSpecial c = true) :
      Spells t ts → Spells ('\\' :: c :: t) (.char c :: ts)
  | mark (m : Mark) {t : Text} {ts : List Token} : Spells t ts → Spells (m.char :: t) (.mark m :: ts)
  | plain {c : Char} {t : Text} {ts : List Token} (unmarked : Mark.ofChar? c = none)
      (alone : c = '\\' → t.head?.any isSpecial = false) : Spells t ts → Spells (c :: t) (.char c :: ts)

theorem spells_tokenOf {c : Char} {t : Text} {ts : List Token} (alone : c = '\\' → t.head?.any isSpecial = false)
    (h : Spells t ts) : Spells (c :: t) (tokenOf c :: ts) := by
  cases hc : Mark.ofChar? c with
  | none =>
    rw [tokenOf_of_ofChar? hc]
    exact .plain hc alone h
  | some m =>
    rw [← char_of_ofChar? hc, tokenOf_char]
    exact .mark m h

theorem spells_tokenize (t : Text) : Spells t (tokenize t) := by
  induction t using tokenize.induct with
  | case1 => exact .nil
  | case2 c => exact spells_tokenOf (fun _ => rfl) .nil
  | case3 c d t h ih =>
    rw [tokenize, if_pos h]
    simp only [Bool.and_eq_true, decide_eq_true_eq] at h
    rw [h.1]
    exact .literal h.2 ih
  | case4 c d t h ih =>
    rw [tokenize, if_neg h]
    refine spells_tokenOf (fun hc => ?_) ih
    simpa [hc] using h

/-- **A text spells its tokens and no others.** -/
theorem tokenize_eq_iff {t : Text} {ts : List Token} : tokenize t = ts ↔ Spells t ts := by
  constructor
  · rintro rfl
    exact spells_tokenize t
  · intro h
    induction h with
    | nil => rfl
    | literal special _ ih => rw [tokenize_escaped special, ih]
    | mark m _ ih =>
      have hm : m.char ≠ '\\' := by cases m <;> decide
      rw [tokenize_cons hm, tokenOf_char, ih]
    | @plain c t ts unmarked alone _ ih =>
      by_cases hc : c = '\\'
      · rw [hc, tokenize_backslash (alone hc), ih]
      · rw [tokenize_cons hc, tokenOf_of_ofChar? unmarked, ih]

/-! ## Rows of pieces -/

/-- a piece of a written document: a character, a caret, or a selection around the characters it selects -/
inductive Piece where
  | char (c : Char)
  | caret
  /-- `[` and `|` around the text -/
  | forward (first : Char) (others : Text)
  /-- `|` and `]` around the text -/
  | backward (first : Char) (others : Text)
  deriving DecidableEq, Inhabited

namespace Piece

def characters : Piece → Text
  | .char c => [c]
  | .caret => []
  | .forward c t => c :: t
  | .backward c t => c :: t

def tokens : Piece → List Token
  | .char c => [.char c]
  | .caret => [.mark .bar]
  | .forward c t => .mark .opening :: ((c :: t).map .char ++ [.mark .bar])
  | .backward c t => .mark .bar :: ((c :: t).map .char ++ [.mark .closing])

theorem forward_tokens_append (c : Char) (t : Text) (ts : List Token) :
    (forward c t).tokens ++ ts = .mark .opening :: ((c :: t).map .char ++ .mark .bar :: ts) := by
  simp [tokens]

theorem backward_tokens_append (c : Char) (t : Text) (ts : List Token) :
    (backward c t).tokens ++ ts = .mark .bar :: ((c :: t).map .char ++ .mark .closing :: ts) := by
  simp [tokens]

/-- the selection of a piece that stands behind a text, if it is one -/
def selection? (before : Text) : Piece → Option Selection
  | .char _ => none
  | .caret => some (.caret (.afterText before))
  | .forward c t => some ⟨.afterText before, .afterText (before ++ c :: t)⟩
  | .backward c t => some ⟨.afterText (before ++ c :: t), .afterText before⟩

def selections (before : Text) : List Piece → List Selection
  | [] => []
  | p :: ps => (p.selection? before).toList ++ selections (before ++ p.characters) ps

end Piece

/-! ## Rows and where their markers stand -/

theorem characters_chars (t : Text) : characters (t.map .char) = t := by
  induction t with
  | nil => rfl
  | cons c t ih => exact congrArg (c :: ·) ih

theorem placed_chars (here : Position) (t : Text) : placed here (t.map .char) = [] := by
  induction t generalizing here with
  | nil => rfl
  | cons c t ih => exact ih (here.after c)

/-- A marker behind characters. -/
theorem placed_chars_mark (before t : Text) (m : Mark) (ts : List Token) :
    placed (.afterText before) (t.map .char ++ .mark m :: ts) =
      ⟨.afterText (before ++ t), m⟩ :: placed (.afterText (before ++ t)) ts := by
  rw [placed_append, placed_chars, characters_chars, placed]
  rfl

theorem characters_tokens (p : Piece) : characters p.tokens = p.characters := by
  cases p with
  | char c => rfl
  | caret => rfl
  | forward c t =>
    rw [Piece.tokens, characters_mark, characters_append, characters_chars]
    exact List.append_nil _
  | backward c t =>
    rw [Piece.tokens, characters_mark, characters_append, characters_chars]
    exact List.append_nil _

theorem characters_row (ps : List Piece) : characters (ps.flatMap Piece.tokens) = ps.flatMap Piece.characters := by
  induction ps with
  | nil => rfl
  | cons p ps ih => rw [List.flatMap_cons, List.flatMap_cons, characters_append, characters_tokens, ih]

theorem placed_tokens (before : Text) (p : Piece) :
    placed (.afterText before) p.tokens = (p.selection? before).toList.flatMap Selection.marks := by
  cases p with
  | char c => rfl
  | caret =>
    rw [Piece.selection?, Option.toList_some, List.flatMap_singleton, Selection.marks_caret]
    rfl
  | forward c t =>
    have hlt := afterText_lt before c t
    have hmarks := Selection.marks_forward (Position.le_of_lt hlt) (Position.ne_of_lt hlt)
    rw [Piece.selection?, Option.toList_some, List.flatMap_singleton, hmarks, Piece.tokens, placed, placed_chars_mark,
      placed]
  | backward c t =>
    have hlt := afterText_lt before c t
    have hmarks := Selection.marks_backward (Position.le_of_lt hlt) (Position.ne_of_lt hlt)
    rw [Piece.selection?, Option.toList_some, List.flatMap_singleton, hmarks, Piece.tokens, placed, placed_chars_mark,
      placed]

/-- **A row puts its markers where its selections have theirs.** -/
theorem placed_row (before : Text) (ps : List Piece) :
    placed (.afterText before) (ps.flatMap Piece.tokens) = (Piece.selections before ps).flatMap Selection.marks := by
  induction ps generalizing before with
  | nil => rfl
  | cons p ps ih =>
    rw [List.flatMap_cons, placed_append, placed_tokens, characters_tokens, ih, Piece.selections, List.flatMap_append]

/-! ## Selections whose markers are placed in a text -/

/-- The first marker among tokens stands behind some characters. -/
theorem exists_of_placed_eq_cons {before : Text} {ts : List Token} {m : PlacedMark} {ms : List PlacedMark}
    (h : placed (.afterText before) ts = m :: ms) :
    ∃ t us, ts = t.map .char ++ .mark m.mark :: us ∧ m.position = .afterText (before ++ t) ∧
      placed (.afterText (before ++ t)) us = ms := by
  induction ts generalizing before with
  | nil => cases h
  | cons t ts ih =>
    cases t with
    | char c =>
      rw [placed, ← Position.afterText_concat] at h
      obtain ⟨t, us, rfl, hposition, hrest⟩ := ih h
      rw [List.append_assoc] at hposition hrest
      exact ⟨c :: t, us, rfl, hposition, hrest⟩
    | mark k =>
      cases h
      exact ⟨[], ts, rfl, by rw [List.append_nil], by rw [List.append_nil]⟩

/-- Two markers at different places have characters between them. -/
theorem exists_of_placed_eq_cons_cons {before : Text} {ts : List Token} {m n : PlacedMark} {ms : List PlacedMark}
    (h : placed (.afterText before) ts = m :: n :: ms) (hne : m.position ≠ n.position) :
    ∃ t c u us, ts = t.map .char ++ .mark m.mark :: ((c :: u).map .char ++ .mark n.mark :: us) ∧
      m.position = .afterText (before ++ t) ∧ n.position = .afterText (before ++ t ++ c :: u) ∧
      placed (.afterText (before ++ t ++ c :: u)) us = ms := by
  obtain ⟨t, us, rfl, hm, h⟩ := exists_of_placed_eq_cons h
  obtain ⟨u, vs, rfl, hn, hrest⟩ := exists_of_placed_eq_cons h
  cases u with
  | nil =>
    rw [List.append_nil] at hn
    exact absurd (hm.trans hn.symm) hne
  | cons c u => exact ⟨t, c, u, vs, rfl, hm, hn, hrest⟩

/-- Without markers there are only characters. -/
theorem exists_of_placed_eq_nil {here : Position} {ts : List Token} (h : placed here ts = []) :
    ∃ t : Text, ts = t.map .char := by
  induction ts generalizing here with
  | nil => exact ⟨[], rfl⟩
  | cons t ts ih =>
    cases t with
    | char c =>
      obtain ⟨t, rfl⟩ := ih h
      exact ⟨c :: t, rfl⟩
    | mark k => cases h

theorem tokens_chars_append (t : Text) (ps : List Piece) :
    (t.map Piece.char ++ ps).flatMap Piece.tokens = t.map .char ++ ps.flatMap Piece.tokens := by
  induction t with
  | nil => rfl
  | cons c t ih => exact congrArg (.char c :: ·) ih

theorem selections_chars_append (before t : Text) (ps : List Piece) :
    Piece.selections before (t.map Piece.char ++ ps) = Piece.selections (before ++ t) ps := by
  induction t generalizing before with
  | nil => rw [List.append_nil]; rfl
  | cons c t ih =>
    have h := ih (before ++ [c])
    rw [List.append_assoc] at h
    exact h

/-- **Selections whose markers are placed among tokens are those of a row.** -/
theorem exists_row (before : Text) {ts : List Token} {ss : List Selection}
    (h : ss.flatMap Selection.marks = placed (.afterText before) ts) :
    ∃ ps, ps.flatMap Piece.tokens = ts ∧ Piece.selections before ps = ss := by
  induction ss generalizing before ts with
  | nil =>
    obtain ⟨t, rfl⟩ := exists_of_placed_eq_nil h.symm
    have htokens := tokens_chars_append t []
    have hselections := selections_chars_append before t []
    rw [List.append_nil] at htokens hselections
    exact ⟨t.map .char, by simpa using htokens, hselections⟩
  | cons s ss ih =>
    rw [List.flatMap_cons] at h
    rcases Selection.marks_cases s with ⟨p, rfl, hs⟩ | ⟨hne, hs⟩ | ⟨hne, hs⟩ <;> rw [hs] at h
    · obtain ⟨t, us, rfl, hp, hrest⟩ := exists_of_placed_eq_cons h.symm
      obtain ⟨ps, rfl, rfl⟩ := ih _ hrest.symm
      cases hp
      refine ⟨t.map .char ++ .caret :: ps, tokens_chars_append t _, ?_⟩
      rw [selections_chars_append, Piece.selections, Piece.characters, List.append_nil]
      rfl
    · obtain ⟨t, c, u, us, rfl, hanchor, hactive, hrest⟩ := exists_of_placed_eq_cons_cons h.symm hne
      obtain ⟨ps, rfl, rfl⟩ := ih _ hrest.symm
      refine ⟨t.map .char ++ .forward c u :: ps, ?_, ?_⟩
      · rw [tokens_chars_append, List.flatMap_cons, Piece.forward_tokens_append]
      · rw [selections_chars_append, Piece.selections, Piece.characters, Piece.selection?, ← hanchor, ← hactive]
        rfl
    · obtain ⟨t, c, u, us, rfl, hactive, hanchor, hrest⟩ := exists_of_placed_eq_cons_cons h.symm hne.symm
      obtain ⟨ps, rfl, rfl⟩ := ih _ hrest.symm
      refine ⟨t.map .char ++ .backward c u :: ps, ?_, ?_⟩
      · rw [tokens_chars_append, List.flatMap_cons, Piece.backward_tokens_append]
      · rw [selections_chars_append, Piece.selections, Piece.characters, Piece.selection?, ← hanchor, ← hactive]
        rfl

/-! ## A row is determined by its tokens -/

/-- Characters up to a marker are determined, and so are the marker and what follows it. -/
theorem chars_append_mark_inj {t u : Text} {m n : Mark} {ts us : List Token}
    (h : t.map Token.char ++ .mark m :: ts = u.map .char ++ .mark n :: us) : t = u ∧ m = n ∧ ts = us := by
  induction t generalizing u with
  | nil =>
    cases u with
    | nil => cases h; exact ⟨rfl, rfl, rfl⟩
    | cons d u => cases h
  | cons c t ih =>
    cases u with
    | nil => cases h
    | cons d u =>
      simp only [List.map_cons, List.cons_append, List.cons.injEq, Token.char.injEq] at h
      obtain ⟨rfl, hrest⟩ := h
      obtain ⟨rfl, hmark⟩ := ih hrest
      exact ⟨rfl, hmark⟩

/-- No row begins with characters and a closing bracket: the bracket belongs to a bar before it. -/
theorem row_ne_chars_closing (ps : List Piece) (t : Text) (ts : List Token) :
    ps.flatMap Piece.tokens ≠ t.map .char ++ .mark .closing :: ts := by
  induction ps generalizing t with
  | nil => cases t <;> simp
  | cons p ps ih =>
    intro h
    cases p with
    | char c =>
      cases t with
      | nil => cases h
      | cons d t => exact ih t (List.cons.inj h).2
    | caret => cases t <;> cases h
    | forward c u => cases t <;> cases h
    | backward c u => cases t <;> cases h

/-- **Tokens are those of at most one row.** -/
theorem row_unique {ps qs : List Piece} (h : ps.flatMap Piece.tokens = qs.flatMap Piece.tokens) : ps = qs := by
  induction ps generalizing qs with
  | nil =>
    cases qs with
    | nil => rfl
    | cons q qs => cases q <;> cases h
  | cons p ps ih =>
    cases qs with
    | nil => cases p <;> cases h
    | cons q qs =>
      rw [List.flatMap_cons, List.flatMap_cons] at h
      cases p with
      | char c =>
        cases q with
        | char d =>
          obtain ⟨hhead, htail⟩ := List.cons.inj h
          rw [Token.char.inj hhead, ih htail]
        | _ => cases h
      | caret =>
        cases q with
        | caret => rw [ih (List.cons.inj h).2]
        | backward d u =>
          rw [Piece.backward_tokens_append] at h
          exact absurd (List.cons.inj h).2 (row_ne_chars_closing ps (d :: u) _)
        | _ => cases h
      | forward c t =>
        cases q with
        | forward d u =>
          rw [Piece.forward_tokens_append, Piece.forward_tokens_append] at h
          obtain ⟨htext, -, htail⟩ := chars_append_mark_inj (List.cons.inj h).2
          cases htext
          rw [ih htail]
        | _ => cases h
      | backward c t =>
        cases q with
        | backward d u =>
          rw [Piece.backward_tokens_append, Piece.backward_tokens_append] at h
          obtain ⟨htext, -, htail⟩ := chars_append_mark_inj (List.cons.inj h).2
          cases htext
          rw [ih htail]
        | caret =>
          rw [Piece.backward_tokens_append] at h
          exact absurd (List.cons.inj h).2.symm (row_ne_chars_closing qs (c :: t) _)
        | _ => cases h

/-! ## Decoding -/

/-- **What decodes, and to what.** A document decodes exactly if it spells a row of pieces, to the text of the pieces
and the selections that they are. It spells one row at most, and one that spells none is refused. -/
theorem decodes_exactly_rows (raw : Text) :
    (∀ s, decode raw = .ok s ↔ ∃ ps : List Piece, Spells (withoutFinalLineFeed raw) (ps.flatMap Piece.tokens) ∧
        s.text = ps.flatMap Piece.characters ∧ s.selections = Piece.selections [] ps) ∧
      (∀ ps qs : List Piece, Spells (withoutFinalLineFeed raw) (ps.flatMap Piece.tokens) →
        Spells (withoutFinalLineFeed raw) (qs.flatMap Piece.tokens) → ps = qs) ∧
      ((¬ ∃ ps : List Piece, Spells (withoutFinalLineFeed raw) (ps.flatMap Piece.tokens)) →
        ∃ p, decode raw = .error p) := by
  simp only [← tokenize_eq_iff]
  have hdecode : ∀ s, decode raw = .ok s ↔ ∃ ps : List Piece,
      tokenize (withoutFinalLineFeed raw) = ps.flatMap Piece.tokens ∧
        s.text = ps.flatMap Piece.characters ∧ s.selections = Piece.selections [] ps := by
    intro s
    rw [decode, ofTokens_eq_ok_iff]
    constructor
    · rintro ⟨htext, hmarks⟩
      obtain ⟨ps, hps, hselections⟩ := exists_row [] hmarks
      rw [← hps, characters_row] at htext
      exact ⟨ps, hps.symm, htext, hselections.symm⟩
    · rintro ⟨ps, hps, htext, hselections⟩
      rw [hps, characters_row]
      exact ⟨htext, hselections ▸ (placed_row [] ps).symm⟩
  refine ⟨hdecode, fun ps qs hps hqs => row_unique (hps.symm.trans hqs), fun hnone => ?_⟩
  cases h : decode raw with
  | error p => exact ⟨p, rfl⟩
  | ok s =>
    obtain ⟨ps, hps, -⟩ := (hdecode s).1 h
    exact absurd ⟨ps, hps⟩ hnone

/-- every kind of piece, with an escaped bracket in a selection and a line feed between selections -/
def everyPiece : List Piece := [.caret, .forward 'a' [']'], .char '\n', .backward 'b' [], .caret]

/-- A document of every kind of piece decodes to their selections. -/
theorem decode_everyPiece :
    decode ['|', '[', 'a', '\\', ']', '|', '\n', '|', 'b', ']', '|'] = .ok (.make ['a', ']', '\n', 'b']
      [.caret ⟨0, 0⟩, ⟨⟨0, 0⟩, ⟨0, 2⟩⟩, ⟨⟨1, 1⟩, ⟨1, 0⟩⟩, .caret ⟨1, 1⟩]) :=
  ((decodes_exactly_rows _).1 _).2 ⟨everyPiece, tokenize_eq_iff.1 (by decide), by decide, by decide⟩

end CursorSpec.Document
