/-
The order in which selections are reported.

A state keeps its selections in textual order, so that it does not matter in which order they are reported. Textual
order goes by extent, and two selections of one extent are the same one or each other turned round (`tied_iff`); these
keep the order in which they came. `order_forgotten_iff`: reports of the same selections make the same state if and
only if each selection and its turned one come in one order in all of them, and that is so for every order if and only
if no selection but a caret is reported in both directions.
-/
import CursorSpec.Diff.Mismatch
import CursorSpec.Proofs.Sorting

namespace CursorSpec

namespace Selection

/-- the selection of the same places from the other end -/
def turned (s : Selection) : Selection := ⟨s.active, s.anchor⟩

/-- A selection begins and ends where the other does if it is the same one or the same one turned round. -/
theorem start_stop_iff (s t : Selection) : s.start = t.start ∧ s.stop = t.stop ↔ t = s ∨ t = s.turned := by
  obtain ⟨⟨al, ac⟩, ⟨bl, bc⟩⟩ := s
  obtain ⟨⟨cl, cc⟩, ⟨dl, dc⟩⟩ := t
  simp only [start, stop, isReversed, turned, Position.lt_iff]
  by_cases hs : bl < al ∨ (bl = al ∧ bc < ac)
  · by_cases ht : dl < cl ∨ (dl = cl ∧ dc < cc)
    · simp only [if_pos hs, if_pos ht, Selection.mk.injEq, Position.mk.injEq]
      omega
    · simp only [if_pos hs, if_neg ht, Selection.mk.injEq, Position.mk.injEq]
      omega
  · by_cases ht : dl < cl ∨ (dl = cl ∧ dc < cc)
    · simp only [if_neg hs, if_pos ht, Selection.mk.injEq, Position.mk.injEq]
      omega
    · simp only [if_neg hs, if_neg ht, Selection.mk.injEq, Position.mk.injEq]
      omega

theorem le_antisymm_iff (s t : Selection) :
    s.le t = true ∧ t.le s = true ↔ s.start = t.start ∧ s.stop = t.stop := by
  constructor
  · rintro ⟨hst, hts⟩
    rw [le_iff, Position.lt_iff] at hst hts
    rcases hst with hst | ⟨hstart, hst⟩
    · rcases hts with hts | ⟨hstart, -⟩
      · omega
      · rw [hstart] at hst
        omega
    · rcases hts with hts | ⟨-, hts⟩
      · rw [hstart] at hts
        omega
      · exact ⟨hstart, Position.le_antisymm hst hts⟩
  · rintro ⟨hstart, hstop⟩
    rw [le_iff, le_iff, hstart, hstop]
    exact ⟨Or.inr ⟨rfl, Position.le_refl _⟩, Or.inr ⟨rfl, Position.le_refl _⟩⟩

/-- Textual order ties a selection with itself and with itself turned round, and with nothing else. -/
theorem tied_iff (s t : Selection) : tied Selection.le s t = true ↔ t = s ∨ t = s.turned := by
  rw [CursorSpec.tied_iff, le_antisymm_iff, start_stop_iff]

theorem tied_eq (s : Selection) : tied Selection.le s = fun t => decide (t = s ∨ t = s.turned) := by
  funext t
  rw [Bool.eq_iff_iff, tied_iff, decide_eq_true_iff]

theorem turned_eq_self_iff (s : Selection) : s.turned = s ↔ s.isCaret = true := by
  obtain ⟨a, b⟩ := s
  simp only [turned, isCaret, Selection.mk.injEq, decide_eq_true_iff]
  exact ⟨fun h => h.2, fun h => ⟨h.symm, h⟩⟩

end Selection

namespace DocState

variable {text : Text} {given reported : List Selection}

theorem make_eq_make_iff :
    make text reported = make text given ↔
      ∀ s, reported.filter (fun t => t = s ∨ t = s.turned) = given.filter (fun t => t = s ∨ t = s.turned) := by
  have hsort : make text reported = make text given ↔ sortBy Selection.le reported = sortBy Selection.le given :=
    ⟨fun h => congrArg selections h, fun h => DocState.ext rfl h⟩
  rw [hsort, sortBy_eq_iff Selection.le_total Selection.le_trans]
  simp only [Selection.tied_eq]

/-- States are the same if every expectation says the same of them. -/
theorem eq_iff_mismatch? {s t : DocState} : s = t ↔ ∀ expected, mismatch? expected s = mismatch? expected t := by
  constructor
  · rintro rfl expected
    rfl
  · intro h
    have ht : t.mismatch? t = none := (mismatch?_eq_none_iff t t).2 rfl
    exact (mismatch?_eq_none_iff t s).1 ((h t).trans ht)

/-- A selection that is reported in both directions can be reported in two orders that make different states. -/
theorem exists_perm_make_ne (text : Text) {s : Selection} (hs : s ∈ given) (hturned : s.turned ∈ given)
    (hne : s.turned ≠ s) : ∃ reported, reported.Perm given ∧ make text reported ≠ make text given := by
  obtain ⟨rest, hrest⟩ : ∃ rest, given.Perm (s :: s.turned :: rest) := by
    have hfirst := List.perm_cons_erase hs
    have hsecond := List.perm_cons_erase ((List.mem_erase_of_ne hne).2 hturned)
    exact ⟨_, hfirst.trans (hsecond.cons s)⟩
  by_contra hsame
  push Not at hsame
  have hforward := hsame _ hrest.symm
  have hbackward := hsame _ ((List.Perm.swap s s.turned rest).trans hrest.symm)
  have hfilter := make_eq_make_iff.1 (hforward.trans hbackward.symm) s
  simp only [List.filter_cons, or_true, true_or, decide_true, if_true] at hfilter
  exact hne (List.cons.inj hfilter).1.symm

/-- Without a selection in both directions, all that is tied with a selection is one and the same. -/
theorem exists_eq_of_tied (oneWay : ∀ s ∈ given, s.turned ∈ given → s.isCaret = true) (s : Selection) :
    ∃ a, ∀ t ∈ given, t = s ∨ t = s.turned → t = a := by
  by_cases hs : s ∈ given
  · refine ⟨s, fun t ht hts => ?_⟩
    rcases hts with rfl | rfl
    · rfl
    · exact (Selection.turned_eq_self_iff s).2 (oneWay s hs ht)
  · refine ⟨s.turned, fun t ht hts => ?_⟩
    rcases hts with rfl | rfl
    · exact absurd ht hs
    · rfl

theorem filter_eq_filter_of_perm (hperm : reported.Perm given)
    (oneWay : ∀ s ∈ given, s.turned ∈ given → s.isCaret = true) (s : Selection) :
    reported.filter (fun t => t = s ∨ t = s.turned) = given.filter (fun t => t = s ∨ t = s.turned) := by
  obtain ⟨a, ha⟩ := exists_eq_of_tied oneWay s
  have hreplicate : given.filter (fun t => t = s ∨ t = s.turned) =
      List.replicate (given.filter fun t => t = s ∨ t = s.turned).length a := by
    refine List.eq_replicate_iff.2 ⟨rfl, fun t ht => ?_⟩
    obtain ⟨hmem, htied⟩ := List.mem_filter.1 ht
    exact ha t hmem (of_decide_eq_true htied)
  have hfilter := hperm.filter fun t => t = s ∨ t = s.turned
  rw [hreplicate] at hfilter ⊢
  exact List.perm_replicate.1 hfilter

/-- **What the order of a report comes to.** The order in which selections are reported never matters if and only if
none but a caret is reported in both directions. In any case two reports of the same selections make one state, and
every expectation says the same of both, if and only if each selection and its turned one come in one order in both. -/
theorem order_forgotten_iff (text : Text) (given : List Selection) :
    ((∀ reported, reported.Perm given → make text reported = make text given) ↔
        ∀ s ∈ given, s.turned ∈ given → s.isCaret = true) ∧
      ∀ reported, reported.Perm given →
        (make text reported = make text given ↔ ∀ s,
          reported.filter (fun t => t = s ∨ t = s.turned) = given.filter (fun t => t = s ∨ t = s.turned)) ∧
        (make text reported = make text given ↔ ∀ expected : DocState,
          expected.mismatch? (make text reported) = expected.mismatch? (make text given)) := by
  refine ⟨⟨fun hsame s hs hturned => ?_, fun oneWay reported hperm => ?_⟩, fun reported _ =>
    ⟨make_eq_make_iff, eq_iff_mismatch?⟩⟩
  · by_contra hcaret
    have hne : s.turned ≠ s := fun h => hcaret ((Selection.turned_eq_self_iff s).1 h)
    obtain ⟨reported, hperm, hmake⟩ := exists_perm_make_ne text hs hturned hne
    exact hmake (hsame reported hperm)
  · exact make_eq_make_iff.2 (filter_eq_filter_of_perm hperm oneWay)

/-- A caret, a selection to the right and one to the left make one state however they are reported, also where they
overlap. -/
theorem order_forgotten_overlapping :
    make ['a', 'b'] [⟨⟨0, 2⟩, ⟨0, 0⟩⟩, .caret ⟨0, 1⟩, ⟨⟨0, 0⟩, ⟨0, 1⟩⟩] =
      make ['a', 'b'] [⟨⟨0, 0⟩, ⟨0, 1⟩⟩, ⟨⟨0, 2⟩, ⟨0, 0⟩⟩, .caret ⟨0, 1⟩] :=
  (order_forgotten_iff _ _).1.2 (by decide) _ (by decide)

/-- A selection that is reported in both directions makes two states, by the direction that is reported first, and one
of them is not what the other expects. -/
theorem order_not_forgotten :
    [(⟨⟨0, 1⟩, ⟨0, 0⟩⟩ : Selection), ⟨⟨0, 0⟩, ⟨0, 1⟩⟩].Perm [⟨⟨0, 0⟩, ⟨0, 1⟩⟩, ⟨⟨0, 1⟩, ⟨0, 0⟩⟩] ∧
      make ['a'] [⟨⟨0, 1⟩, ⟨0, 0⟩⟩, ⟨⟨0, 0⟩, ⟨0, 1⟩⟩] ≠ make ['a'] [⟨⟨0, 0⟩, ⟨0, 1⟩⟩, ⟨⟨0, 1⟩, ⟨0, 0⟩⟩] ∧
      (make ['a'] [⟨⟨0, 0⟩, ⟨0, 1⟩⟩, ⟨⟨0, 1⟩, ⟨0, 0⟩⟩]).mismatch?
        (make ['a'] [⟨⟨0, 1⟩, ⟨0, 0⟩⟩, ⟨⟨0, 0⟩, ⟨0, 1⟩⟩]) ≠ none := by
  refine ⟨by decide, by decide, ?_⟩
  rw [ne_eq, mismatch?_eq_none_iff]
  decide

end DocState

end CursorSpec
