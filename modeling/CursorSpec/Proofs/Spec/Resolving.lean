/-
What resolving a spec gives.

All entries of a spec fit behind each other if and only if it is declared (`allFit_iff_isDeclared`), so a spec resolves
if and only if it is declared, and to its own entries (`resolve_eq_ok_iff`). Titles then lead to their entries
(`entry?_of_mem`), and what a test comes after stands before it (`exists_before`): initial states first, then the tests
in their order. So going from a test to what it comes after ends at an initial state and never comes back to the test
(`resolves_iff_declared`), although nobody looks for cycles.
-/
import CursorSpec.Proofs.Links
import CursorSpec.Proofs.Lists
import CursorSpec.Proofs.Spec.Declaring

namespace CursorSpec

namespace Spec

abbrev resolved (s : Spec) : ResolvedSpec := ⟨s.initial, s.transitions⟩

variable {s : Spec}

theorem getElem?_declarations_transition {i : Nat} {t : Transition} (h : s.transitions[i]? = some t) :
    s.declarations[s.initial.length + i]? = some (.transition t) := by
  rw [declarations, List.getElem?_append_right (by simp), List.length_map, Nat.add_sub_cancel_left,
    List.getElem?_map, h]
  rfl

theorem exists_of_getElem?_declarations {i : Nat} {e : Entry} (h : s.declarations[i]? = some e) {a : Text}
    (ha : e.comesAfter? = some a) :
    ∃ j t, i = s.initial.length + j ∧ s.transitions[j]? = some t ∧ t.comesAfter = a := by
  rw [declarations, List.getElem?_append, List.length_map] at h
  split at h
  · rw [List.getElem?_map] at h
    obtain ⟨x, -, rfl⟩ := Option.map_eq_some_iff.1 h
    cases ha
  · next hi =>
    rw [List.getElem?_map] at h
    obtain ⟨t, ht, rfl⟩ := Option.map_eq_some_iff.1 h
    exact ⟨i - s.initial.length, t, by omega, ht, Option.some.inj ha⟩

theorem titles_take_declarations (s : Spec) (i : Nat) :
    (s.declarations.take (s.initial.length + i)).map Entry.title =
      s.initial.map (·.title) ++ (s.transitions.take i).map (·.title) := by
  rw [declarations, ← List.length_map (f := Entry.initial), List.take_length_add_append]
  simp [Entry.title, Function.comp_def, ← List.map_take]

/-- **All entries fit if the spec is declared**, and only then. -/
theorem allFit_iff_isDeclared : Entry.AllFit [] s.declarations ↔ s.IsDeclared := by
  rw [Entry.allFit_iff, map_title_declarations]
  constructor
  · rintro ⟨-, hdistinct, hlinks⟩
    refine ⟨hdistinct, fun i t ht => ?_⟩
    have hlinked := hlinks _ _ (getElem?_declarations_transition ht) t.comesAfter rfl
    rw [List.nil_append, titles_take_declarations] at hlinked
    exact List.mem_append.1 hlinked
  · rintro ⟨hdistinct, hafter⟩
    refine ⟨fun _ _ => List.not_mem_nil, hdistinct, fun i e he a ha => ?_⟩
    obtain ⟨j, t, rfl, ht, rfl⟩ := exists_of_getElem?_declarations he ha
    rw [List.nil_append, titles_take_declarations]
    exact List.mem_append.2 (hafter j t ht)

theorem resolves_iff_allFit : (∃ r, s.resolve = .ok r) ↔ Entry.AllFit [] s.declarations := by
  have hfolds : (∃ known, s.declarations.foldlM (declareEntry s.titles) [] = .ok known) ↔
      Entry.AllFit [] s.declarations := (declares_titles s.titles).goes_through_iff
  rw [← hfolds, resolve_eq]
  simp only [map_eq_ok_iff]
  exact ⟨fun ⟨_, known, hknown, _⟩ => ⟨known, hknown⟩, fun ⟨known, hknown⟩ => ⟨_, known, hknown, rfl⟩⟩

/-- A spec with an entry that does not fit fails there. -/
theorem resolve_stops {before after : List Entry} {e : Entry} (hsplit : s.declarations = before ++ e :: after)
    (fit : Entry.AllFit [] before) (misfit : ¬ e.Fits (before.map Entry.title)) :
    ∃ p, s.resolve = .error p ∧ p.Refuses (before.map Entry.title) e := by
  obtain ⟨-, p, -, -, hrefuses, hfold⟩ := (declares_titles s.titles).stops (s := []) fit misfit after
  refine ⟨p, ?_, hrefuses⟩
  rw [resolve_eq, map_eq_error_iff, hsplit]
  exact hfold

/-- **Which specs resolve**, and what they resolve to. -/
theorem resolve_eq_ok_iff {r : ResolvedSpec} : s.resolve = .ok r ↔ s.IsDeclared ∧ r = s.resolved := by
  rw [← allFit_iff_isDeclared, ← resolves_iff_allFit]
  constructor
  · intro h
    have hr := h
    rw [resolve_eq, map_eq_ok_iff] at hr
    obtain ⟨known, -, rfl⟩ := hr
    exact ⟨⟨_, h⟩, rfl⟩
  · rintro ⟨⟨r', h⟩, rfl⟩
    have hr := h
    rw [resolve_eq, map_eq_ok_iff] at hr
    obtain ⟨known, -, rfl⟩ := hr
    exact h

end Spec

namespace ResolvedSpec

/-- where an entry stands: initial states first, then the tests one after another -/
inductive IsAt (r : ResolvedSpec) : Nat → Entry → Prop where
  | setup {x : InitialState} (h : x ∈ r.setups) : IsAt r 0 (.initial x)
  | test {i : Nat} {t : Transition} (h : r.tests[i]? = some t) : IsAt r (i + 1) (.transition t)

def before? (r : ResolvedSpec) : Entry → Option Entry
  | .initial _ => none
  | .transition t => r.predecessor? t

theorem exists_isAt {s : Spec} {e : Entry} (h : e ∈ s.declarations) : ∃ i, s.resolved.IsAt i e := by
  rcases List.mem_append.1 h with h | h
  · obtain ⟨x, hx, rfl⟩ := List.mem_map.1 h
    exact ⟨0, .setup hx⟩
  · obtain ⟨t, ht, rfl⟩ := List.mem_map.1 h
    obtain ⟨i, hi⟩ := List.mem_iff_getElem?.1 ht
    exact ⟨i + 1, .test hi⟩

end ResolvedSpec

namespace Spec

variable {s : Spec} (h : s.IsDeclared)

include h

theorem entry?_of_mem {e : Entry} (he : e ∈ s.declarations) : s.resolved.entry? e.title = some e := by
  obtain ⟨hsetups, htests, hdisjoint⟩ := List.nodup_append.1 h.distinct
  rcases List.mem_append.1 he with he | he
  · obtain ⟨x, hx, rfl⟩ := List.mem_map.1 he
    have hfind : s.initial.find? (fun y => decide (y.title = x.title)) = some x := find?_of_nodup_map hsetups hx
    show s.resolved.entry? x.title = some (.initial x)
    simp only [ResolvedSpec.entry?, hfind]
    rfl
  · obtain ⟨t, ht, rfl⟩ := List.mem_map.1 he
    have hfind : s.transitions.find? (fun y => decide (y.title = t.title)) = some t := find?_of_nodup_map htests ht
    have hnone : s.initial.find? (fun y => decide (y.title = t.title)) = none :=
      find?_eq_none_of_notMem fun hmem => hdisjoint _ hmem _ (List.mem_map_of_mem ht) rfl
    show s.resolved.entry? t.title = some (.transition t)
    simp only [ResolvedSpec.entry?, hfind, hnone]
    rfl

/-- What a test comes after is an entry that stands before it. -/
theorem exists_before {i : Nat} {t : Transition} (ht : s.transitions[i]? = some t) :
    ∃ e ∈ s.declarations, e.title = t.comesAfter ∧ s.resolved.predecessor? t = some e ∧
      ∃ j < i + 1, s.resolved.IsAt j e := by
  obtain ⟨e, he, htitle, j, hj, hplace⟩ :
      ∃ e ∈ s.declarations, e.title = t.comesAfter ∧ ∃ j < i + 1, s.resolved.IsAt j e := by
    rcases h.after i t ht with hmem | hmem
    · obtain ⟨x, hx, htitle⟩ := List.mem_map.1 hmem
      exact ⟨.initial x, List.mem_append_left _ (List.mem_map_of_mem hx), htitle, 0, Nat.succ_pos i, .setup hx⟩
    · obtain ⟨u, hu, htitle⟩ := List.mem_map.1 hmem
      obtain ⟨j, hj, hu⟩ := List.mem_take_iff_getElem.1 hu
      have hplace : s.transitions[j]? = some u := by
        rw [← hu]
        exact List.getElem?_eq_getElem _
      exact ⟨.transition u, List.mem_append_right _ (List.mem_map_of_mem (List.mem_of_getElem? hplace)), htitle, j + 1,
        by omega, .test hplace⟩
  refine ⟨e, he, htitle, ?_, j, hj, hplace⟩
  rw [ResolvedSpec.predecessor?, ← htitle]
  exact entry?_of_mem h he

/-- Going to what an entry comes after goes to an earlier place. -/
theorem before_earlier (i : Nat) (e e' : Entry) (he : s.resolved.IsAt i e) (hbefore : s.resolved.before? e = some e') :
    ∃ j < i, s.resolved.IsAt j e' := by
  cases he with
  | setup hx => cases hbefore
  | test ht =>
    obtain ⟨e'', -, -, hpred, hplace⟩ := exists_before h ht
    obtain rfl : e'' = e' := Option.some.inj (hpred.symm.trans hbefore)
    exact hplace

/-- Going back from a test ends at an initial state. -/
theorem exists_initial_before {t : Transition} (ht : t ∈ s.transitions) :
    ∃ k ≤ s.transitions.length, ∃ x ∈ s.initial,
      follow? s.resolved.before? k (.transition t) = some (.initial x) := by
  obtain ⟨i, hi⟩ := List.mem_iff_getElem?.1 ht
  obtain ⟨k, hk, e, hfollow, hend, j, hplace⟩ :=
    exists_follow?_end (before_earlier h) (ResolvedSpec.IsAt.test (r := s.resolved) hi)
  have hlt : i < s.transitions.length := (List.getElem?_eq_some_iff.1 hi).1
  cases hplace with
  | setup hx => exact ⟨k, by omega, _, hx, hfollow⟩
  | test hu =>
    obtain ⟨e', -, -, hpred, -⟩ := exists_before h hu
    have hnone := hpred.symm.trans hend
    cases hnone

omit h

/-- **Resolved specs are well-founded.** A spec resolves if and only if its titles are distinct and every transition
comes after an initial state or after a transition declared before it. It resolves to its own initial states and
transitions. Each title then leads to its entry, and what a test comes after is there. Going back from a test, one
reaches an initial state after no more steps than there are tests, and from no entry does one come back to it. -/
theorem resolves_iff_declared (s : Spec) :
    ((∃ r, s.resolve = .ok r) ↔ s.IsDeclared) ∧
      ∀ r, s.resolve = .ok r →
        r.setups = s.initial ∧ r.tests = s.transitions ∧
        (∀ e ∈ s.declarations, r.entry? e.title = some e) ∧
        (∀ t ∈ r.tests, ∃ e ∈ s.declarations, e.title = t.comesAfter ∧ r.predecessor? t = some e) ∧
        (∀ t ∈ r.tests, ∃ k ≤ r.tests.length, ∃ x ∈ r.setups,
          follow? r.before? k (.transition t) = some (.initial x)) ∧
        ∀ e ∈ s.declarations, ∀ k, follow? r.before? (k + 1) e ≠ some e := by
  refine ⟨⟨fun ⟨r, hr⟩ => (resolve_eq_ok_iff.1 hr).1, fun h => ⟨_, resolve_eq_ok_iff.2 ⟨h, rfl⟩⟩⟩, ?_⟩
  intro r hr
  obtain ⟨h, rfl⟩ := resolve_eq_ok_iff.1 hr
  refine ⟨rfl, rfl, fun e he => entry?_of_mem h he, ?_, fun t ht => exists_initial_before h ht, ?_⟩
  · intro t ht
    obtain ⟨i, hi⟩ := List.mem_iff_getElem?.1 ht
    obtain ⟨e, he, htitle, hpred, -⟩ := exists_before h hi
    exact ⟨e, he, htitle, hpred⟩
  · intro e he k
    obtain ⟨i, hplace⟩ := ResolvedSpec.exists_isAt he
    exact follow?_ne_self (before_earlier h) hplace k

/-- an initial state, a test after it, a test after that one, and another one after the initial state -/
def branching : Spec where
  initial := [⟨"A", [], "|", none⟩]
  transitions := [⟨"B", "A", [], [], "|", none⟩, ⟨"C", "B", [], [], "|", none⟩, ⟨"D", "A", [], [], "|", none⟩]
  headerCount := 4

/-- The spec that branches resolves, and going back from its second test ends at its initial state. -/
theorem resolves_branching :
    branching.IsDeclared ∧ ∃ k ≤ 3, ∃ x ∈ branching.initial,
      follow? branching.resolved.before? k (.transition ⟨"C", "B", [], [], "|", none⟩) = some (.initial x) := by
  have hresolve : branching.resolve = .ok branching.resolved := by decide
  obtain ⟨-, -, -, -, hback, -⟩ := (resolves_iff_declared branching).2 _ hresolve
  exact ⟨(resolves_iff_declared branching).1.1 ⟨_, hresolve⟩, hback _ (by decide)⟩

end Spec

end CursorSpec
