/-
Decoding undoes rendering, exactly on the decodable states.

A state is decodable if its selections lie in its text and none begins before the one before it ends; they may touch.
`decode_undoes_render`: decoding yields decodable states only, and a decodable state is decoded from its rendering
with the line feed that belongs to the fence. The proof goes through the markers alone: the markers of selections are
in textual order exactly if the selections do not overlap (`pairwise_marks_iff`), and then no sorting moves anything.
-/
import CursorSpec.Proofs.Document.Marks

namespace CursorSpec

/-! ## Selections that do not overlap -/

namespace Selection

/-- whether a selection ends before another begins, or where it begins -/
def isBefore (s t : Selection) : Bool := s.stop.le t.start

theorem isBefore_trans {s t u : Selection} (h1 : s.isBefore t = true) (h2 : t.isBefore u = true) :
    s.isBefore u = true :=
  Position.le_trans h1 (Position.le_trans (start_le_stop t) h2)

/-- Selections that do not overlap are in textual order. -/
theorem le_of_isBefore {s t : Selection} (h : s.isBefore t = true) : s.le t = true := by
  have hle : s.start.le t.start = true := Position.le_trans (start_le_stop s) h
  rw [le_iff]
  by_cases he : s.start = t.start
  · exact Or.inr ⟨he, Position.le_trans h (start_le_stop t)⟩
  · exact Or.inl (Position.lt_of_le_of_ne hle he)

/-- The markers of a selection stand at its two ends, the first one at its start. -/
theorem marks_eq (s : Selection) :
    (s.start = s.stop ∧ ∃ k, s.marks = [⟨s.start, k⟩]) ∨ ∃ k l, s.marks = [⟨s.start, k⟩, ⟨s.stop, l⟩] := by
  unfold marks start stop
  by_cases hc : s.isCaret = true
  · have h : s.anchor = s.active := by simpa [isCaret] using hc
    left
    simp [hc, h]
  · right
    cases hr : s.isReversed <;> simp [hc]

theorem exists_mark_start (s : Selection) : ∃ m ∈ s.marks, m.position = s.start := by
  rcases marks_eq s with ⟨-, k, h⟩ | ⟨k, l, h⟩ <;> exact ⟨⟨s.start, k⟩, by simp [h], rfl⟩

theorem exists_mark_stop (s : Selection) : ∃ m ∈ s.marks, m.position = s.stop := by
  rcases marks_eq s with ⟨he, k, h⟩ | ⟨k, l, h⟩
  · exact ⟨⟨s.start, k⟩, by simp [h], he⟩
  · exact ⟨⟨s.stop, l⟩, by simp [h], rfl⟩

theorem position_of_mem_marks {s : Selection} {m : PlacedMark} (h : m ∈ s.marks) :
    m.position = s.start ∨ m.position = s.stop := by
  rcases marks_eq s with ⟨-, k, hs⟩ | ⟨k, l, hs⟩ <;> rw [hs] at h <;> simp only [List.mem_cons, List.not_mem_nil,
    or_false] at h
  · exact Or.inl (by rw [h])
  · rcases h with rfl | rfl
    · exact Or.inl rfl
    · exact Or.inr rfl

theorem marks_pairwise (s : Selection) : s.marks.Pairwise fun a b => a.position.le b.position = true := by
  rcases marks_eq s with ⟨-, k, h⟩ | ⟨k, l, h⟩
  · rw [h]; exact List.pairwise_singleton _ _
  · rw [h]; simpa using start_le_stop s

/-- All markers of one selection stand before those of another, or where they stand, exactly if the one does not
overlap the other. -/
theorem marks_before_iff (s t : Selection) :
    (∀ m ∈ s.marks, ∀ n ∈ t.marks, m.position.le n.position = true) ↔ s.isBefore t = true := by
  constructor
  · intro h
    obtain ⟨m, hm, hstop⟩ := exists_mark_stop s
    obtain ⟨n, hn, hstart⟩ := exists_mark_start t
    have hle := h m hm n hn
    rwa [hstop, hstart] at hle
  · intro h m hm n hn
    have hm' : m.position.le s.stop = true := by
      rcases position_of_mem_marks hm with e | e <;> rw [e]
      · exact start_le_stop s
      · exact Position.le_refl _
    have hn' : t.start.le n.position = true := by
      rcases position_of_mem_marks hn with e | e <;> rw [e]
      · exact Position.le_refl _
      · exact start_le_stop t
    exact Position.le_trans hm' (Position.le_trans h hn')

/-- Markers of selections are in textual order exactly if the selections do not overlap. -/
theorem pairwise_marks_iff (ss : List Selection) :
    (ss.flatMap marks).Pairwise (fun a b => a.position.le b.position = true) ↔
      ss.Pairwise fun s t => s.isBefore t = true := by
  rw [List.pairwise_flatMap]
  simp only [marks_before_iff, marks_pairwise, implies_true, true_and]

/-- The ends of a selection are where its markers stand. -/
theorem ends_of_marks {s : Selection} {P : Position → Prop} (h : ∀ m ∈ s.marks, P m.position) :
    P s.anchor ∧ P s.active := by
  obtain ⟨m, hm, hstart⟩ := exists_mark_start s
  obtain ⟨n, hn, hstop⟩ := exists_mark_stop s
  have h1 := h m hm
  have h2 := h n hn
  rw [hstart] at h1
  rw [hstop] at h2
  unfold start at h1
  unfold stop at h2
  split at h1
  · next hr => rw [if_pos hr] at h2; exact ⟨h2, h1⟩
  · next hr => rw [if_neg hr] at h2; exact ⟨h1, h2⟩

end Selection

/-! ## Decodable states -/

namespace DocState

/-- what a fenced block can spell: selections that lie in the text, none of which begins before the one before it
ends -/
structure IsDecodable (s : DocState) : Prop where
  inside : ∀ x ∈ s.selections, x.anchor.IsIn s.text ∧ x.active.IsIn s.text
  apart : s.selections.IsChain fun x y => x.stop.le y.start = true

theorem isDecodable_iff (s : DocState) :
    s.IsDecodable ↔ (∀ x ∈ s.selections, x.anchor.IsIn s.text ∧ x.active.IsIn s.text) ∧
      s.selections.IsChain fun x y => x.stop.le y.start = true :=
  ⟨fun h => ⟨h.inside, h.apart⟩, fun h => ⟨h.1, h.2⟩⟩

instance (s : DocState) : Decidable s.IsDecodable := decidable_of_iff' _ s.isDecodable_iff

theorem isChain_iff_pairwise_isBefore (ss : List Selection) :
    (ss.IsChain fun x y => x.stop.le y.start = true) ↔ ss.Pairwise fun s t => s.isBefore t = true := by
  have : Trans (fun s t : Selection => s.isBefore t = true) (fun s t => s.isBefore t = true)
      (fun s t => s.isBefore t = true) := ⟨Selection.isBefore_trans⟩
  exact List.isChain_iff_pairwise (R := fun s t : Selection => s.isBefore t = true)

/-- Making a state of selections that do not overlap leaves them as they are. -/
theorem make_selections_of_pairwise (text : Text) {ss : List Selection}
    (h : ss.Pairwise fun s t => s.isBefore t = true) : (make text ss).selections = ss :=
  sortBy_of_pairwise (h.imp Selection.le_of_isBefore)

theorem make_selections_self (s : DocState) : make s.text s.selections = s :=
  DocState.ext rfl (sortBy_of_pairwise s.ordered)

/-- The markers of a decodable state need no sorting. -/
theorem marks_of_isDecodable {s : DocState} (h : s.IsDecodable) : s.marks = s.selections.flatMap Selection.marks :=
  sortBy_of_pairwise ((Selection.pairwise_marks_iff _).2 ((isChain_iff_pairwise_isBefore _).1 h.apart))

end DocState

namespace Document

/-- **What tokens are read as**: the state with their characters whose markers, one selection after the other, are
theirs. -/
theorem ofTokens_eq_ok_iff {ts : List Token} {s : DocState} :
    ofTokens ts = .ok s ↔ s.text = characters ts ∧ s.selections.flatMap Selection.marks = placed ⟨0, 0⟩ ts := by
  have ordered := placed_pairwise ⟨0, 0⟩ ts
  rw [ofTokens_eq]
  constructor
  · intro h
    cases hr : readMarks (placed ⟨0, 0⟩ ts) with
    | error e => rw [hr] at h; cases h
    | ok ss =>
      rw [hr] at h
      cases h
      have hmarks := (readMarks_eq_ok_iff ordered ss).1 hr
      rw [← hmarks, Selection.pairwise_marks_iff] at ordered
      rw [DocState.make_selections_of_pairwise (characters ts) ordered]
      exact ⟨rfl, hmarks⟩
  · rintro ⟨htext, hmarks⟩
    rw [(readMarks_eq_ok_iff ordered s.selections).2 hmarks, ← htext]
    exact congrArg Except.ok s.make_selections_self

/-- Tokens that can be read spell a decodable state. -/
theorem isDecodable_of_ofTokens {ts : List Token} {s : DocState} (h : ofTokens ts = .ok s) : s.IsDecodable := by
  obtain ⟨htext, hmarks⟩ := ofTokens_eq_ok_iff.1 h
  constructor
  · intro x hx
    refine Selection.ends_of_marks (P := fun p => p.IsIn s.text) fun m hm => ?_
    have hplaced : m ∈ placed ⟨0, 0⟩ ts := by
      rw [← hmarks]
      exact List.mem_flatMap.2 ⟨x, hx, hm⟩
    rw [isIn_iff_mem_places, htext]
    exact mem_places_of_mem_placed hplaced
  · rw [DocState.isChain_iff_pairwise_isBefore, ← Selection.pairwise_marks_iff, hmarks]
    exact placed_pairwise _ ts

/-- A decodable state is read from its tokens. -/
theorem ofTokens_tokens {s : DocState} (h : s.IsDecodable) : ofTokens s.tokens = .ok s := by
  have hmarks := DocState.marks_of_isDecodable h
  have hordered : s.marks.Pairwise fun a b => a.position.le b.position = true := by
    rw [hmarks, Selection.pairwise_marks_iff]
    exact (DocState.isChain_iff_pairwise_isBefore _).1 h.apart
  have hinside : ∀ m ∈ s.marks, m.position ∈ places ⟨0, 0⟩ s.text := by
    intro m hm
    rw [hmarks] at hm
    obtain ⟨x, hx, hm⟩ := List.mem_flatMap.1 hm
    rw [← isIn_iff_mem_places]
    have hends := h.inside x hx
    rcases Selection.position_of_mem_marks hm with e | e <;> rw [e]
    · unfold Selection.start; split
      · exact hends.2
      · exact hends.1
    · unfold Selection.stop; split
      · exact hends.1
      · exact hends.2
  rw [ofTokens_eq_ok_iff, DocState.tokens, characters_interleave, placed_interleave hordered hinside]
  exact ⟨rfl, hmarks.symm⟩

/-- **Decoding undoes rendering, exactly on the decodable states.** What is decoded is decodable, and a decodable state
is decoded from its rendering, to which the fence adds a line feed. -/
theorem decode_undoes_render :
    (∀ raw s, decode raw = .ok s → s.IsDecodable) ∧
      ∀ s : DocState, s.IsDecodable → decode (s.render ++ ['\n']) = .ok s := by
  constructor
  · intro raw s h
    exact isDecodable_of_ofTokens h
  · intro s h
    rw [decode, withoutFinalLineFeed_append, DocState.render, tokenize_write]
    exact ofTokens_tokens h

/-- a forward selection, a backward one that begins where it ends, and a caret at the end of that, behind a backslash -/
def touching : DocState :=
  .make ['a', '\n', '\\'] [⟨⟨0, 0⟩, ⟨0, 1⟩⟩, ⟨⟨1, 1⟩, ⟨0, 1⟩⟩, .caret ⟨1, 1⟩]

/-- Selections that touch, and a backslash before a marker, are written and read back. -/
theorem decode_touching :
    decode ['[', 'a', '|', '|', '\n', '\\', '\\', ']', '|'] = .ok touching ∧ touching.IsDecodable ∧
      decode (touching.render ++ ['\n']) = .ok touching := by
  have h : decode ['[', 'a', '|', '|', '\n', '\\', '\\', ']', '|'] = .ok touching := by decide
  exact ⟨h, decode_undoes_render.1 _ _ h, decode_undoes_render.2 touching (by decide)⟩

end Document

end CursorSpec
