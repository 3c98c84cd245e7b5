/-
A rendering reproduces the placement that a state was decoded from.

- `render_reproduces`: it spells the tokens of the document, so documents decode to one state exactly if they spell the
  same tokens. Redundant escapes are all that decoding forgets.
- `rereads_unless_bare`: read as a fenced block, a rendering gives the state back, unless the text ends in a line feed
  with no marker behind it. That line feed is then taken for the one that belongs to the fence, and is lost.
-/
import CursorSpec.Proofs.Document.RoundTrip

namespace CursorSpec

namespace DocState

/-- whether the text ends in a line feed and no selection reaches behind it -/
structure EndsBare (s : DocState) : Prop where
  lineFeed : s.text.getLast? = some '\n'
  bare : ∀ x ∈ s.selections, x.stop ≠ .afterText s.text

theorem endsBare_iff (s : DocState) :
    s.EndsBare ↔ s.text.getLast? = some '\n' ∧ ∀ x ∈ s.selections, x.stop ≠ .afterText s.text :=
  ⟨fun h => ⟨h.lineFeed, h.bare⟩, fun h => ⟨h.1, h.2⟩⟩

instance (s : DocState) : Decidable s.EndsBare := decidable_of_iff' _ s.endsBare_iff

end DocState

namespace Document

/-! ## The tokens of a rendering -/

theorem tokens_of_ofTokens {ts : List Token} {s : DocState} (h : ofTokens ts = .ok s) : s.tokens = ts := by
  obtain ⟨htext, hmarks⟩ := ofTokens_eq_ok_iff.1 h
  rw [DocState.tokens, DocState.marks_of_isDecodable (isDecodable_of_ofTokens h), hmarks, htext, interleave_placed]

theorem tokenize_render {ts : List Token} {s : DocState} (h : ofTokens ts = .ok s) : tokenize s.render = ts := by
  rw [DocState.render, tokenize_write, tokens_of_ofTokens h]

/-- **Rendering reproduces the placement.** The rendering of what a document decodes to spells the same tokens, and two
documents decode to the same state exactly if they spell the same. -/
theorem render_reproduces :
    (∀ raw s, decode raw = .ok s → tokenize s.render = tokenize (withoutFinalLineFeed raw)) ∧
      ∀ raw raw' s s', decode raw = .ok s → decode raw' = .ok s' →
        (s = s' ↔ tokenize (withoutFinalLineFeed raw) = tokenize (withoutFinalLineFeed raw')) := by
  constructor
  · intro raw s h
    exact tokenize_render h
  · intro raw raw' s s' h h'
    constructor
    · rintro rfl
      exact (tokenize_render h).symm.trans (tokenize_render h')
    · intro heq
      rw [decode, heq] at h
      exact Except.ok.inj (h.symm.trans h')

/-- a caret on a caret before a selection, one that touches it, and a backslash that a bar follows -/
def stacked : DocState :=
  .make ['a', 'b', '\\'] [.caret ⟨0, 0⟩, .caret ⟨0, 0⟩, ⟨⟨0, 0⟩, ⟨0, 1⟩⟩, ⟨⟨0, 2⟩, ⟨0, 1⟩⟩, .caret ⟨0, 3⟩]

/-- Markers are written again where they stood. Documents that decode to the same text, one with a needless escape,
spell the same tokens. -/
theorem render_stacked :
    tokenize stacked.render = tokenize ['|', '|', '[', 'a', '|', '|', 'b', ']', '\\', '\\', '|'] ∧
      tokenize ['\\', '\\', 'a'] = tokenize ['\\', 'a'] :=
  ⟨render_reproduces.1 ['|', '|', '[', 'a', '|', '|', 'b', ']', '\\', '\\', '|'] stacked (by decide),
    (render_reproduces.2 ['\\', '\\', 'a'] ['\\', 'a', '\n'] (.plain ['\\', 'a']) _ (by decide) (by decide)).1 rfl⟩

/-! ## A line feed at the end -/

theorem withoutFinalLineFeed_of_ne {t : Text} (h : t.getLast? ≠ some '\n') : withoutFinalLineFeed t = t :=
  if_neg h

theorem needsEscape_lineFeed (ts : List Token) : needsEscape (ts ++ [.char '\n']) = needsEscape ts := by
  cases ts with
  | nil => rfl
  | cons t ts => cases t <;> rfl

theorem write_lineFeed (ts : List Token) : write (ts ++ [.char '\n']) = write ts ++ ['\n'] := by
  induction ts with
  | nil => rfl
  | cons t ts ih =>
    cases t with
    | mark m => exact congrArg (m.char :: ·) ih
    | char c =>
      simp only [List.cons_append, write, needsEscape_lineFeed, ih]
      split
      · rfl
      · split <;> rfl

theorem tokenize_lineFeed (t : Text) : tokenize (t ++ ['\n']) = tokenize t ++ [.char '\n'] := by
  induction t using tokenize.induct with
  | case1 => rfl
  | case2 c =>
    show tokenize [c, '\n'] = [tokenOf c, .char '\n']
    rw [tokenize, if_neg (by simp [isSpecial])]
    rfl
  | case3 c d t h ih =>
    rw [List.cons_append, List.cons_append, tokenize, if_pos h, ih, tokenize, if_pos h]
    rfl
  | case4 c d t h ih =>
    rw [List.cons_append, List.cons_append, tokenize, if_neg h, tokenize, if_neg h]
    exact congrArg (_ :: ·) ih

/-- A rendering ends in a line feed exactly if its tokens do. -/
theorem getLast?_render {ts : List Token} {s : DocState} (h : ofTokens ts = .ok s) :
    s.render.getLast? = some '\n' ↔ ∃ us, ts = us ++ [.char '\n'] := by
  constructor
  · intro hlast
    obtain ⟨v, hv⟩ := List.getLast?_eq_some_iff.1 hlast
    exact ⟨tokenize v, by rw [← tokenize_render h, hv, tokenize_lineFeed]⟩
  · rintro ⟨us, rfl⟩
    rw [DocState.render, tokens_of_ofTokens h, write_lineFeed, List.getLast?_concat]

/-- Without the last character, tokens spell the same selections. -/
theorem ofTokens_of_concat {us : List Token} {c : Char} {s : DocState} (h : ofTokens (us ++ [.char c]) = .ok s) :
    s.text = characters us ++ [c] ∧ ofTokens us = .ok { s with text := s.text.dropLast } := by
  obtain ⟨htext, hmarks⟩ := ofTokens_eq_ok_iff.1 h
  rw [characters_append] at htext
  rw [show placed ⟨0, 0⟩ _ = _ from placed_append [] us [.char c], placed, placed, List.append_nil] at hmarks
  refine ⟨htext, ofTokens_eq_ok_iff.2 ⟨?_, hmarks⟩⟩
  rw [htext]
  exact List.dropLast_concat

theorem stop_le_afterText {ts : List Token} {s : DocState} (h : ofTokens ts = .ok s) {x : Selection}
    (hx : x ∈ s.selections) : x.stop.le (.afterText s.text) = true := by
  obtain ⟨htext, hmarks⟩ := ofTokens_eq_ok_iff.1 h
  obtain ⟨m, hm, hstop⟩ := Selection.exists_mark_stop x
  have hplaced : m ∈ placed (.afterText []) ts := by
    rw [show placed (.afterText []) ts = _ from hmarks.symm]
    exact List.mem_flatMap.2 ⟨x, hx, hm⟩
  rw [← hstop, htext]
  exact le_afterText_of_mem_places (mem_places_of_mem_placed hplaced)

/-- Where the last token is a marker, a selection ends behind the text. -/
theorem exists_stop_eq_afterText {us : List Token} {k : Mark} {s : DocState} (h : ofTokens (us ++ [.mark k]) = .ok s) :
    ∃ x ∈ s.selections, x.stop = .afterText s.text := by
  obtain ⟨htext, hmarks⟩ := ofTokens_eq_ok_iff.1 h
  rw [characters_append, show characters [.mark k] = [] from rfl, List.append_nil] at htext
  rw [show placed ⟨0, 0⟩ _ = _ from placed_append [] us [.mark k], List.nil_append, ← htext, placed, placed] at hmarks
  have hlast : ⟨.afterText s.text, k⟩ ∈ s.selections.flatMap Selection.marks := by
    rw [hmarks]
    exact List.mem_concat_self
  obtain ⟨x, hx, hm⟩ := List.mem_flatMap.1 hlast
  refine ⟨x, hx, Position.le_antisymm (stop_le_afterText h hx) ?_⟩
  rcases Selection.position_of_mem_marks hm with e | e <;> simp only at e <;> rw [e]
  · exact Selection.start_le_stop x
  · exact Position.le_refl _

/-- The tokens end in a line feed exactly if the text does and no selection reaches behind it. -/
theorem endsBare_iff_tokens {ts : List Token} {s : DocState} (h : ofTokens ts = .ok s) :
    s.EndsBare ↔ ∃ us, ts = us ++ [.char '\n'] := by
  constructor
  · rintro ⟨hlast, hbare⟩
    rcases List.eq_nil_or_concat' ts with rfl | ⟨us, t, rfl⟩
    · cases h; cases hlast
    · cases t with
      | char c =>
        rw [(ofTokens_of_concat h).1, List.getLast?_concat] at hlast
        exact ⟨us, by rw [Option.some.inj hlast]⟩
      | mark k =>
        obtain ⟨x, hx, hstop⟩ := exists_stop_eq_afterText h
        exact absurd hstop (hbare x hx)
  · rintro ⟨us, rfl⟩
    obtain ⟨htext, hus⟩ := ofTokens_of_concat h
    refine ⟨by rw [htext, List.getLast?_concat], fun x hx => ?_⟩
    have hle := stop_le_afterText hus hx
    rw [htext, List.dropLast_concat] at hle
    rw [htext]
    exact Position.ne_of_lt (Position.lt_of_le_of_lt hle (afterText_lt _ '\n' []))

theorem decode_render_of_not_endsBare {raw : Text} {s : DocState} (h : decode raw = .ok s) (hbare : ¬ s.EndsBare) :
    decode s.render = .ok s := by
  have hlast : s.render.getLast? ≠ some '\n' := fun hlast =>
    hbare ((endsBare_iff_tokens h).2 ((getLast?_render h).1 hlast))
  rw [decode, withoutFinalLineFeed_of_ne hlast, tokenize_render h]
  exact h

theorem decode_render_of_endsBare {raw : Text} {s : DocState} (h : decode raw = .ok s) (hbare : s.EndsBare) :
    decode s.render = .ok { s with text := s.text.dropLast } := by
  obtain ⟨us, hus⟩ := (endsBare_iff_tokens h).1 hbare
  rw [decode, hus] at h
  rw [decode, DocState.render, tokens_of_ofTokens h, write_lineFeed, withoutFinalLineFeed_append, tokenize_write]
  exact (ofTokens_of_concat h).2

/-- **What a rendering is read as.** It is always accepted, and gives the state back unless the text ends in a line feed
that no selection reaches behind; then that line feed is lost, and nothing else. -/
theorem rereads_unless_bare (raw : Text) (s : DocState) (h : decode raw = .ok s) :
    (decode s.render = .ok s ↔ ¬ s.EndsBare) ∧
      (s.EndsBare → decode s.render = .ok { s with text := s.text.dropLast }) := by
  refine ⟨⟨fun hsame hbare => ?_, decode_render_of_not_endsBare h⟩, decode_render_of_endsBare h⟩
  have htext : s.text.dropLast = s.text :=
    congrArg DocState.text (Except.ok.inj ((decode_render_of_endsBare h hbare).symm.trans hsame))
  have hlength := congrArg List.length htext
  have hnil : s.text ≠ [] := fun hnil => by
    have hlast := hbare.lineFeed
    rw [hnil] at hlast
    cases hlast
  have hpos := List.length_pos_of_ne_nil hnil
  rw [List.length_dropLast] at hlength
  omega

/-- A line feed at the end of a text is kept where a caret stands behind it, and lost where none does. -/
theorem rereads_line_feeds :
    decode (DocState.make ['a', '\n'] [.caret ⟨1, 0⟩]).render = .ok (.make ['a', '\n'] [.caret ⟨1, 0⟩]) ∧
      decode (DocState.make ['a', '\n'] [.caret ⟨0, 1⟩]).render = .ok (.make ['a'] [.caret ⟨0, 1⟩]) :=
  ⟨(rereads_unless_bare ['a', '\n', '|'] _ (by decide)).1.2 (by decide),
    (rereads_unless_bare ['a', '|', '\n', '\n'] _ (by decide)).2 (by decide)⟩

/-- Rendering and reading again does not always give the state back: without a caret behind it, the line feed at the
end of `hello` is lost. -/
theorem not_reread :
    decode ['h', 'e', 'l', 'l', 'o', '\n', '\n'] = .ok (.plain ['h', 'e', 'l', 'l', 'o', '\n']) ∧
      decode (DocState.plain ['h', 'e', 'l', 'l', 'o', '\n']).render ≠ .ok (.plain ['h', 'e', 'l', 'l', 'o', '\n']) := by
  decide

end Document

end CursorSpec
