/-
Markers read by themselves.

Between two markers reading only counts where it stands, so reading tokens is reading their placed markers
(`ofTokens_eq`). At every moment the markers read so far are those of the selections found, of the open bracket and of
the waiting bar (`Reading.marks`); `stepAt_marks` says that one more marker keeps it so. Therefore
`readMarks_eq_ok_iff`: markers in textual order are read as some selections exactly if they are the markers of those.
-/
import CursorSpec.Proofs.Document.Token

namespace CursorSpec

namespace Selection

theorem marks_caret (p : Position) : (caret p).marks = [⟨p, .bar⟩] := by
  simp [marks, isCaret, caret]

theorem marks_forward {a p : Position} (hle : a.le p = true) (hne : a ≠ p) :
    (⟨a, p⟩ : Selection).marks = [⟨a, .opening⟩, ⟨p, .bar⟩] := by
  have hrev : (⟨a, p⟩ : Selection).isReversed = false := by
    rw [Bool.eq_false_iff]
    exact fun h => Position.not_le_of_lt h hle
  simp [marks, isCaret, hne, hrev]

theorem marks_backward {p q : Position} (hle : p.le q = true) (hne : p ≠ q) :
    (⟨q, p⟩ : Selection).marks = [⟨p, .bar⟩, ⟨q, .closing⟩] := by
  have hrev : (⟨q, p⟩ : Selection).isReversed = true := Position.lt_of_le_of_ne hle hne
  simp [marks, isCaret, hne.symm, hrev]

theorem marks_cases (s : Selection) :
    (∃ p, s = .caret p ∧ s.marks = [⟨p, .bar⟩]) ∨
      (s.anchor ≠ s.active ∧ s.marks = [⟨s.anchor, .opening⟩, ⟨s.active, .bar⟩]) ∨
      (s.anchor ≠ s.active ∧ s.marks = [⟨s.active, .bar⟩, ⟨s.anchor, .closing⟩]) := by
  obtain ⟨a, p⟩ := s
  by_cases hc : a = p
  · subst hc
    exact Or.inl ⟨a, rfl, marks_caret a⟩
  · right
    rcases Position.le_total a p with hle | hle
    · exact Or.inl ⟨hc, marks_forward hle hc⟩
    · exact Or.inr ⟨hc, marks_backward hle (Ne.symm hc)⟩

end Selection

namespace Document

namespace Reading

/-- a marker read at the position where it stands -/
def stepAt (r : Reading) (m : PlacedMark) : Except MarkerProblem Reading :=
  { r with here := m.position }.step (.mark m.mark)

def readOn (r : Reading) (ms : List PlacedMark) : Except MarkerProblem (List Selection) :=
  ms.foldlM stepAt r >>= finish

theorem readOn_cons (r : Reading) (m : PlacedMark) (ms : List PlacedMark) :
    r.readOn (m :: ms) = r.stepAt m >>= fun r => r.readOn ms := by
  simp only [readOn, List.foldlM_cons, bind_assoc]

theorem readOn_of_stepAt {r r' : Reading} {m : PlacedMark} (h : r.stepAt m = .ok r') (ms : List PlacedMark) :
    r.readOn (m :: ms) = r'.readOn ms := by
  rw [readOn_cons, h]
  rfl

theorem settle_here (r : Reading) (p : Position) :
    ({ r with here := p } : Reading).settle = { r.settle with here := p } := by
  obtain ⟨here, selections, anchor, bar⟩ := r
  cases bar <;> rfl

theorem readOn_here (r : Reading) (p : Position) (ms : List PlacedMark) :
    { r with here := p }.readOn ms = r.readOn ms := by
  cases ms with
  | nil =>
    show finish _ = finish r
    simp only [finish, settle_here]
  | cons m ms => rfl

theorem here_settle (r : Reading) : r.settle.here = r.here := by
  unfold settle; split <;> rfl

theorem here_of_step_mark {r r' : Reading} {m : Mark} (h : r.step (.mark m) = .ok r') : r'.here = r.here := by
  cases m <;> simp only [step] at h <;> repeat' split at h
  all_goals
    cases h
    try simp only [here_settle]

/-- Reading tokens is reading their markers. -/
theorem foldlM_step_finish (r : Reading) (ts : List Token) :
    (ts.foldlM step r >>= finish) = r.readOn (placed r.here ts) := by
  induction ts generalizing r with
  | nil => rfl
  | cons t ts ih =>
    rw [List.foldlM_cons, bind_assoc]
    cases t with
    | char c =>
      show (ts.foldlM step { r with here := r.here.after c } >>= finish) = _
      rw [ih, readOn_here]
      rfl
    | mark m =>
      rw [placed, readOn_cons]
      show _ = r.step (.mark m) >>= _
      cases h : r.step (.mark m) with
      | error e => rfl
      | ok r' =>
        show (ts.foldlM step r' >>= finish) = r'.readOn _
        rw [ih, here_of_step_mark h]

/-! ## The markers read so far -/

/-- the markers that were read: those of the selections, of the open bracket and of the waiting bar -/
def marks (r : Reading) : List PlacedMark :=
  r.selections.flatMap Selection.marks ++ ((r.anchor.map fun p => ⟨p, .opening⟩).toList ++
    (r.bar.map fun p => ⟨p, .bar⟩).toList)

/-- no bar waits while a bracket is open -/
def IsSettled (r : Reading) : Prop := r.anchor = none ∨ r.bar = none

theorem bar_settle (r : Reading) : r.settle.bar = none := by
  unfold settle
  split
  · assumption
  · rfl

theorem anchor_settle (r : Reading) : r.settle.anchor = r.anchor := by
  unfold settle; split <;> rfl

/-- A bar that becomes a caret is still the same marker. -/
theorem marks_settle {r : Reading} (h : r.IsSettled) : r.settle.marks = r.marks := by
  unfold settle
  split
  · rfl
  · next p hp =>
    have ha : r.anchor = none := h.resolve_right (by rw [hp]; exact Option.some_ne_none p)
    simp [marks, hp, ha, Selection.marks_caret]

/-- One more marker, not before those already read, is one more among the markers read. -/
theorem stepAt_marks {r r' : Reading} {m : PlacedMark} (settled : r.IsSettled)
    (behind : ∀ n ∈ r.marks, n.position.le m.position = true) (h : r.stepAt m = .ok r') :
    r'.marks = r.marks ++ [m] ∧ r'.IsSettled := by
  obtain ⟨p, k⟩ := m
  set q : Reading := { r with here := p }
  have hq : q.settle.marks = r.marks := marks_settle (r := q) settled
  have hbar := bar_settle q
  have hhere : q.settle.here = p := here_settle q
  rw [← hq] at behind ⊢
  cases k with
  | opening =>
    simp only [stepAt, step] at h
    split at h
    · cases h
    · next ha =>
      cases h
      refine ⟨?_, Or.inr hbar⟩
      simp [marks, hbar, ha, hhere, q]
  | bar =>
    simp only [stepAt, step] at h
    split at h
    · next ha =>
      cases h
      refine ⟨?_, Or.inl ha⟩
      simp [marks, hbar, ha, hhere, q]
    · next a ha =>
      split at h
      · cases h
      · next hne =>
        cases h
        rw [hhere] at hne
        have hle : a.le p = true := behind ⟨a, .opening⟩ (by simp [marks, q, ha])
        refine ⟨?_, Or.inl rfl⟩
        simp [marks, hbar, ha, hhere, q, Selection.marks_forward hle hne]
  | closing =>
    simp only [stepAt, step] at h
    split at h
    · cases h
    · next b hb =>
      split at h
      · cases h
      · next hne =>
        cases h
        have ha : r.anchor = none := settled.resolve_right (by rw [hb]; exact Option.some_ne_none b)
        rw [hq] at behind ⊢
        have hle : b.le p = true := behind ⟨b, .bar⟩ (by simp [marks, hb])
        refine ⟨?_, Or.inl ha⟩
        simp [marks, ha, hb, Selection.marks_backward hle hne]

/-- Markers in textual order are those of the selections that they are read as. -/
theorem marks_of_readOn {r : Reading} {ms : List PlacedMark} {ss : List Selection} (settled : r.IsSettled)
    (ordered : (r.marks ++ ms).Pairwise fun a b => a.position.le b.position = true)
    (h : r.readOn ms = .ok ss) : ss.flatMap Selection.marks = r.marks ++ ms := by
  induction ms generalizing r with
  | nil =>
    have hfin : r.finish = .ok ss := h
    unfold finish at hfin
    split at hfin
    · cases hfin
    · next ha =>
      cases hfin
      rw [List.append_nil, ← marks_settle settled]
      simp [marks, bar_settle, anchor_settle, ha]
  | cons m ms ih =>
    rw [readOn_cons] at h
    cases hs : r.stepAt m with
    | error e => rw [hs] at h; cases h
    | ok r' =>
      rw [hs] at h
      have behind : ∀ n ∈ r.marks, n.position.le m.position = true := fun n hn =>
        (List.pairwise_append.1 ordered).2.2 n hn m List.mem_cons_self
      obtain ⟨hm, hset⟩ := stepAt_marks settled behind hs
      have hcons : r.marks ++ m :: ms = r'.marks ++ ms := by rw [hm]; simp
      rw [hcons] at ordered ⊢
      exact ih hset ordered h

/-! ## Selections read back -/

theorem stepAt_bar {r : Reading} (ha : r.anchor = none) (p : Position) :
    r.stepAt ⟨p, .bar⟩ = .ok ⟨p, r.settle.selections, none, some p⟩ := by
  have h : r.settle.anchor = none := by rw [anchor_settle, ha]
  simp only [stepAt, step, settle_here, h]

theorem stepAt_opening {r : Reading} (ha : r.anchor = none) (p : Position) :
    r.stepAt ⟨p, .opening⟩ = .ok ⟨p, r.settle.selections, some p, none⟩ := by
  have h : r.settle.anchor = none := by rw [anchor_settle, ha]
  simp only [stepAt, step, settle_here, h, bar_settle]

theorem stepAt_bar_of_open (here : Position) (found : List Selection) {a p : Position} (hne : a ≠ p) :
    (⟨here, found, some a, none⟩ : Reading).stepAt ⟨p, .bar⟩ = .ok ⟨p, found ++ [⟨a, p⟩], none, none⟩ := by
  simp [stepAt, step, settle, hne]

theorem stepAt_closing (here : Position) (found : List Selection) {b p : Position} (hne : b ≠ p) :
    (⟨here, found, none, some b⟩ : Reading).stepAt ⟨p, .closing⟩ = .ok ⟨p, found ++ [⟨p, b⟩], none, none⟩ := by
  simp [stepAt, step, hne]

/-- The markers of a selection add it to those found, at once or when its bar is settled. -/
theorem readOn_marks {r : Reading} (ha : r.anchor = none) (s : Selection) :
    ∃ r' : Reading, (∀ ms, r.readOn (s.marks ++ ms) = r'.readOn ms) ∧ r'.anchor = none ∧
      r'.settle.selections = r.settle.selections ++ [s] := by
  rcases Selection.marks_cases s with ⟨p, rfl, hs⟩ | ⟨hne, hs⟩ | ⟨hne, hs⟩ <;> rw [hs]
  · refine ⟨⟨p, r.settle.selections, none, some p⟩, fun ms => ?_, rfl, rfl⟩
    rw [List.singleton_append, readOn_of_stepAt (stepAt_bar ha p)]
  · refine ⟨⟨s.active, r.settle.selections ++ [s], none, none⟩, fun ms => ?_, rfl, rfl⟩
    rw [List.cons_append, List.singleton_append, readOn_of_stepAt (stepAt_opening ha s.anchor),
      readOn_of_stepAt (stepAt_bar_of_open _ _ hne)]
  · refine ⟨⟨s.anchor, r.settle.selections ++ [s], none, none⟩, fun ms => ?_, rfl, rfl⟩
    rw [List.cons_append, List.singleton_append, readOn_of_stepAt (stepAt_bar ha s.active),
      readOn_of_stepAt (stepAt_closing _ _ hne.symm)]

theorem readOn_flatMap_marks {r : Reading} (ha : r.anchor = none) (ss : List Selection) :
    r.readOn (ss.flatMap Selection.marks) = .ok (r.settle.selections ++ ss) := by
  induction ss generalizing r with
  | nil =>
    show r.finish = _
    simp [finish, ha]
  | cons s ss ih =>
    obtain ⟨r', hread, ha', hsel⟩ := readOn_marks ha s
    rw [List.flatMap_cons, hread, ih ha', hsel, List.append_assoc]
    rfl

end Reading

/-! ## Documents -/

def readMarks (ms : List PlacedMark) : Except MarkerProblem (List Selection) := Reading.initial.readOn ms

theorem ofTokens_eq (ts : List Token) :
    ofTokens ts = (readMarks (placed ⟨0, 0⟩ ts)).map (DocState.make (characters ts)) := by
  have h := Reading.foldlM_step_finish Reading.initial ts
  unfold ofTokens readMarks
  rw [show Reading.initial.readOn (placed ⟨0, 0⟩ ts) = _ from h.symm]
  cases ts.foldlM Reading.step Reading.initial with
  | error e => rfl
  | ok r =>
    show (r.finish >>= fun ss => pure (DocState.make (characters ts) ss)) = r.finish.map _
    cases r.finish <;> rfl

/-- **What markers in textual order are read as.** They are read as some selections exactly if they are the markers of
those selections, one after the other. -/
theorem readMarks_eq_ok_iff {ms : List PlacedMark} (ordered : ms.Pairwise fun a b => a.position.le b.position = true)
    (ss : List Selection) : readMarks ms = .ok ss ↔ ss.flatMap Selection.marks = ms := by
  constructor
  · exact Reading.marks_of_readOn (r := Reading.initial) (Or.inl rfl) ordered
  · rintro rfl
    exact Reading.readOn_flatMap_marks (r := Reading.initial) rfl ss

end Document

end CursorSpec
