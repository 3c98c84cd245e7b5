/-
Where a suite is after some of its tests.

The tests are distinct and come in any order. `Suite.Reached` is the invariant of such a run: the nodes of seeds are as
they were loaded, tests that have not run are pending, and the node of a test that has run stands as its result said
when it ran, whatever ran after it. One test keeps it (`Reached.concat`), so it holds after every run (`reached`).

The reports of a run are the reports of its tests, each on the session that the tests before it left
(`getElem?_reportAll`).
-/
import CursorSpec.Proofs.Run.Ending
import CursorSpec.Proofs.Settings.Usable

namespace CursorSpec

/-! ## Runs -/

namespace Session

def runAll (settings : Settings) (s : Session) (ts : List SuiteTest) : Session :=
  ts.foldl (fun s t => (s.runTest settings t).1) s

/-- how a test ends that is run after others -/
def resultAfter (settings : Settings) (s : Session) (ts : List SuiteTest) (t : SuiteTest) : Except TestFault Unit :=
  ((s.runAll settings ts).runTest settings t).2

variable {settings : Settings}

theorem runAll_cons (s : Session) (t : SuiteTest) (ts : List SuiteTest) :
    s.runAll settings (t :: ts) = (s.runTest settings t).1.runAll settings ts :=
  rfl

theorem runAll_concat (s : Session) (ts : List SuiteTest) (t : SuiteTest) :
    s.runAll settings (ts ++ [t]) = ((s.runAll settings ts).runTest settings t).1 :=
  List.foldl_concat _ _ _ _

theorem reportAll_cons (s : Session) (t : SuiteTest) (ts : List SuiteTest) :
    s.reportAll settings (t :: ts) =
      (((s.runTest settings t).1.reportAll settings ts).1,
        (s.report settings t).2 :: ((s.runTest settings t).1.reportAll settings ts).2) :=
  rfl

theorem reportAll_fst (s : Session) (ts : List SuiteTest) : (s.reportAll settings ts).1 = s.runAll settings ts := by
  induction ts generalizing s with
  | nil => rfl
  | cons t ts ih => rw [reportAll_cons, runAll_cons, ih]

theorem length_reportAll (s : Session) (ts : List SuiteTest) : (s.reportAll settings ts).2.length = ts.length := by
  induction ts generalizing s with
  | nil => rfl
  | cons t ts ih => rw [reportAll_cons, List.length_cons, List.length_cons, ih]

/-- A run reports each test on the session that the tests before it left. -/
theorem getElem?_reportAll (s : Session) (ts : List SuiteTest) (k : Nat) :
    (s.reportAll settings ts).2[k]? = ts[k]?.map fun t => ((s.runAll settings (ts.take k)).report settings t).2 := by
  induction ts generalizing s k with
  | nil => rfl
  | cons t ts ih =>
    rw [reportAll_cons]
    cases k with
    | zero => rfl
    | succ k =>
      rw [List.getElem?_cons_succ, List.getElem?_cons_succ, ih, List.take_succ_cons, runAll_cons]

end Session

namespace Suite

def testsAt (s : Suite) (order : List Nat) : List SuiteTest := order.filterMap fun i => s.tests[i]?

variable {s : Suite} {order : List Nat}

theorem map_some_testsAt (inRange : ∀ i ∈ order, i < s.tests.length) :
    (s.testsAt order).map some = order.map fun i => s.tests[i]? := by
  induction order with
  | nil => rfl
  | cons i is ih =>
    obtain ⟨t, hi⟩ : ∃ t, s.tests[i]? = some t :=
      ⟨_, List.getElem?_eq_getElem (inRange i List.mem_cons_self)⟩
    have hcons : s.testsAt (i :: is) = t :: s.testsAt is := List.filterMap_cons_some hi
    rw [hcons, List.map_cons, List.map_cons, hi, ih fun j hj => inRange j (List.mem_cons_of_mem _ hj)]

theorem getElem?_testsAt (inRange : ∀ i ∈ order, i < s.tests.length) {k i : Nat} (hk : order[k]? = some i) :
    (s.testsAt order)[k]? = s.tests[i]? := by
  have h : ((s.testsAt order).map some)[k]? = (order.map fun i => s.tests[i]?)[k]? := by
    rw [map_some_testsAt inRange]
  rw [List.getElem?_map, List.getElem?_map, hk] at h
  cases ht : (s.testsAt order)[k]? with
  | none => rw [ht] at h; cases h
  | some t => rw [ht] at h; exact Option.some.inj h

theorem take_testsAt (inRange : ∀ i ∈ order, i < s.tests.length) (k : Nat) :
    s.testsAt (order.take k) = (s.testsAt order).take k := by
  have h : (s.testsAt (order.take k)).map some = ((s.testsAt order).take k).map some := by
    rw [map_some_testsAt fun i hi => inRange i (List.mem_of_mem_take hi), List.map_take, List.map_take,
      map_some_testsAt inRange]
  exact List.map_injective_iff.2 (Option.some_injective SuiteTest) h

theorem mem_tests_of_mem_testsAt {t : SuiteTest} (h : t ∈ s.testsAt order) : t ∈ s.tests := by
  obtain ⟨i, -, hi⟩ := List.mem_filterMap.1 h
  exact List.mem_of_getElem? hi

theorem nodup_testsAt (distinct : s.tests.Nodup) (ho : order.Nodup) : (s.testsAt order).Nodup := by
  refine ho.filterMap fun i j t hi hj => ?_
  obtain ⟨hi', rfl⟩ := List.getElem?_eq_some_iff.1 hi
  obtain ⟨hj', heq⟩ := List.getElem?_eq_some_iff.1 hj
  exact (distinct.getElem_inj_iff.1 heq).symm

theorem testsAt_range (s : Suite) : s.testsAt (List.range s.tests.length) = s.tests := by
  have h : (s.testsAt (List.range s.tests.length)).map some = s.tests.map some := by
    rw [map_some_testsAt fun i hi => List.mem_range.1 hi]
    refine List.ext_getElem? fun i => ?_
    rw [List.getElem?_map, List.getElem?_map]
    by_cases hi : i < s.tests.length
    · rw [List.getElem?_range hi, Option.map_some, List.getElem?_eq_getElem hi, Option.map_some]
    · rw [List.getElem?_eq_none (by simpa using hi), List.getElem?_eq_none (by simpa using hi)]
      rfl
  exact List.map_injective_iff.2 (Option.some_injective SuiteTest) h

/-- The tests of an order before a place, at it and after it. -/
theorem testsAt_eq_append {k i : Nat} (hk : order[k]? = some i) {t : SuiteTest} (ht : s.tests[i]? = some t) :
    s.testsAt order = s.testsAt (order.take k) ++ t :: s.testsAt (order.drop (k + 1)) := by
  have hcons : s.testsAt (i :: order.drop (k + 1)) = t :: s.testsAt (order.drop (k + 1)) := List.filterMap_cons_some ht
  calc s.testsAt order = s.testsAt (order.take k ++ i :: order.drop (k + 1)) := by
        rw [← eq_take_append_of_getElem? hk]
    _ = s.testsAt (order.take k) ++ s.testsAt (i :: order.drop (k + 1)) := List.filterMap_append
    _ = s.testsAt (order.take k) ++ t :: s.testsAt (order.drop (k + 1)) := by rw [hcons]

/-- the session before the test at a place of an order -/
def sessionAt (s : Suite) (start : Session) (order : List Nat) (k : Nat) : Session :=
  start.runAll s.settings (s.testsAt (order.take k))

theorem sessionAt_succ (start : Session) {k i : Nat} (hk : order[k]? = some i) {t : SuiteTest}
    (ht : s.tests[i]? = some t) :
    s.sessionAt start order (k + 1) = ((s.sessionAt start order k).runTest s.settings t).1 := by
  have htake : order.take (k + 1) = order.take k ++ [i] := by
    rw [List.take_add_one, hk]
    rfl
  have hone : s.testsAt [i] = [t] := List.filterMap_cons_some ht
  have hsucc : s.testsAt (order.take (k + 1)) = s.testsAt (order.take k) ++ [t] := by
    rw [htake, testsAt, List.filterMap_append, ← testsAt, ← testsAt, hone]
  rw [sessionAt, hsucc, Session.runAll_concat]
  rfl

/-- Each test of a run is reported on the session before its place. -/
theorem getElem?_reports (start : Session) (inRange : ∀ i ∈ order, i < s.tests.length) {k i : Nat}
    (hk : order[k]? = some i) {t : SuiteTest} (ht : s.tests[i]? = some t) :
    (start.reportAll s.settings (s.testsAt order)).2[k]? =
      some ((s.sessionAt start order k).report s.settings t).2 := by
  rw [Session.getElem?_reportAll, getElem?_testsAt inRange hk, ht, ← take_testsAt inRange]
  rfl

theorem length_testsAt (inRange : ∀ i ∈ order, i < s.tests.length) : (s.testsAt order).length = order.length := by
  have h := congrArg List.length (map_some_testsAt inRange)
  rwa [List.length_map, List.length_map] at h

/-- **A loaded suite runs in every order.** -/
theorem run_eq_ok {session : Session} (loaded : s.load = .ok session) (order : List Nat) :
    s.run order = .ok ⟨(session.reportAll s.settings (s.testsAt order)).2,
      (session.runAll s.settings (s.testsAt order)).graph.nodes⟩ := by
  rw [← Session.reportAll_fst, run, loaded]
  rfl

/-! ## The invariant of a run -/

/-- what running a suite relies on: its declarations, the nodes that loading it gives, and a limit that is positive -/
structure IsLoaded (suite : Suite) (settings : Settings) (start : Session) : Prop where
  declared : suite.IsDeclared
  nodes : start.graph.nodes = suite.seeds.map Seed.node ++ suite.tests.map (SuiteTest.node · .pending)
  positive : ∀ ms, settings.generator.waitTimeout = some ms → 0 < ms

/-- where a suite is after some of its tests: no seed has changed, tests to come are pending, and every test that has
run has left its node as its result says -/
structure Reached (suite : Suite) (settings : Settings) (start : Session) (done : List SuiteTest) : Prop where
  titles : (start.runAll settings done).graph.titles = suite.titles
  commands : (start.runAll settings done).editor.commands = start.editor.commands
  seeds : ∀ x ∈ suite.seeds, (start.runAll settings done).graph.find? x.title = some x.node
  todo : ∀ t ∈ suite.tests, t ∉ done → (start.runAll settings done).graph.find? t.title = some (t.node .pending)
  ran : ∀ before t after, done = before ++ t :: after →
    (start.runAll settings done).graph.find? t.title = some (t.node (.ofResult (start.resultAfter settings before t)))

variable {suite : Suite} {settings : Settings} {start : Session} {done : List SuiteTest}

namespace IsDeclared

variable (h : suite.IsDeclared)

include h

theorem nodup_tests : suite.tests.Nodup :=
  List.Nodup.of_map _ (List.nodup_append.1 h.distinct).2.1

theorem eq_of_title {t u : SuiteTest} (ht : t ∈ suite.tests) (hu : u ∈ suite.tests) (heq : t.title = u.title) : t = u :=
  List.inj_on_of_nodup_map (List.nodup_append.1 h.distinct).2.1 ht hu heq

theorem title_ne_of_seed {x : Seed} (hx : x ∈ suite.seeds) {t : SuiteTest} (ht : t ∈ suite.tests) : x.title ≠ t.title :=
  (List.nodup_append.1 h.distinct).2.2 _ (List.mem_map_of_mem hx) _ (List.mem_map_of_mem ht)

/-- A test comes after a seed or after a test. -/
theorem comesAfter_cases {t : SuiteTest} (ht : t ∈ suite.tests) :
    (∃ x ∈ suite.seeds, x.title = t.comesAfter) ∨ ∃ u ∈ suite.tests, u.title = t.comesAfter := by
  obtain ⟨i, hi⟩ := List.mem_iff_getElem?.1 ht
  rcases h.after i t hi with hmem | hmem
  · exact Or.inl (List.mem_map.1 hmem)
  · obtain ⟨u, hu, htitle⟩ := List.mem_map.1 hmem
    exact Or.inr ⟨u, List.mem_of_mem_take hu, htitle⟩

end IsDeclared

theorem isLoaded_of_load {value : Value} (checked : Settings.ofValue value = .ok settings)
    (loaded : suite.load = .ok start) : suite.IsLoaded settings start :=
  ⟨(load_eq_ok loaded).1, (load_eq_ok loaded).2.1, (Settings.isUsable_of_ofValue checked).timeout⟩

namespace IsLoaded

variable (h : suite.IsLoaded settings start)

include h

theorem titles_start : start.graph.titles = suite.titles := by
  rw [Graph.titles, h.nodes]
  simp [Suite.titles, Seed.node, SuiteTest.node, Function.comp_def]

theorem find?_start {n : Node} (hn : n ∈ start.graph.nodes) : start.graph.find? n.title = some n :=
  Graph.find?_of_mem (h.titles_start ▸ h.declared.distinct) hn

theorem reached_nil : suite.Reached settings start [] := by
  refine ⟨h.titles_start, rfl, ?_, ?_, ?_⟩
  · intro x hx
    refine h.find?_start (n := x.node) ?_
    rw [h.nodes]
    exact List.mem_append_left _ (List.mem_map_of_mem hx)
  · intro t ht _
    refine h.find?_start (n := t.node .pending) ?_
    rw [h.nodes]
    exact List.mem_append_right _ (List.mem_map_of_mem (f := (SuiteTest.node · .pending)) ht)
  · intro before t after hnil
    cases before <;> cases hnil

end IsLoaded

namespace Reached

variable (h : suite.IsLoaded settings start) (hr : suite.Reached settings start done)

include h hr

/-- What a test comes after is there: a seed, a test that has run, or one still to come. -/
theorem find?_comesAfter {t : SuiteTest} (ht : t ∈ suite.tests) :
    ∃ n, (start.runAll settings done).graph.Finds t.comesAfter n := by
  rcases h.declared.comesAfter_cases ht with ⟨x, hx, htitle⟩ | ⟨u, hu, htitle⟩
  · rw [← htitle]
    exact ⟨x.node, hr.seeds x hx, x.isCoherent_node⟩
  · rw [← htitle]
    by_cases hdone : u ∈ done
    · obtain ⟨before, after, hsplit⟩ := List.append_of_mem hdone
      exact ⟨_, hr.ran before u after hsplit, u.isCoherent_node _⟩
    · exact ⟨_, hr.todo u hu hdone, u.isCoherent_node _⟩

theorem finds_comesAfter {t : SuiteTest} (ht : t ∈ suite.tests) {n : Node}
    (hn : (start.runAll settings done).graph.find? t.comesAfter = some n) :
    (start.runAll settings done).graph.Finds t.comesAfter n := by
  obtain ⟨m, hm⟩ := hr.find?_comesAfter h ht
  obtain rfl := Option.some.inj (hm.node.symm.trans hn)
  exact hm

/-- One more test keeps the invariant. -/
theorem concat (known : ∀ u ∈ done, u ∈ suite.tests) {t : SuiteTest} (ht : t ∈ suite.tests) (hnew : t ∉ done) :
    suite.Reached settings start (done ++ [t]) := by
  obtain ⟨n, hn⟩ := hr.find?_comesAfter h ht
  have hown := hr.todo t ht hnew
  have hrun := Session.runTest_eq hown hn h.positive
  have hresult : start.resultAfter settings done t = (t.ends settings (start.runAll settings done).editor n).2 := by
    rw [Session.resultAfter, hrun]
  -- every other test keeps its node
  have hother : ∀ x, x ≠ t.title → (start.runAll settings (done ++ [t])).graph.find? x =
      (start.runAll settings done).graph.find? x := by
    intro x hx
    rw [Session.runAll_concat, hrun]
    exact Session.find?_settled_of_ne hx
  refine ⟨?_, ?_, ?_, ?_, ?_⟩
  · rw [Session.runAll_concat, hrun, Session.titles_settled, hr.titles]
  · rw [Session.runAll_concat, hrun, Session.editor_settled, SuiteTest.commands_ends, hr.commands]
  · intro x hx
    rw [hother x.title (h.declared.title_ne_of_seed hx ht)]
    exact hr.seeds x hx
  · intro u hu hun
    have hne : u ≠ t := fun heq => hun (heq ▸ List.mem_append_right _ (List.mem_singleton_self _))
    rw [hother u.title fun heq => hne (h.declared.eq_of_title hu ht heq)]
    exact hr.todo u hu fun hmem => hun (List.mem_append_left _ hmem)
  · intro before u after hsplit
    rcases List.eq_nil_or_concat' after with rfl | ⟨after, v, rfl⟩
    · -- the test that has just run
      obtain ⟨rfl, hu⟩ := List.append_inj' hsplit rfl
      cases hu
      rw [Session.runAll_concat, hrun, hresult]
      exact Session.find?_settled_self hown
    · -- a test that had run before
      rw [← List.cons_append, ← List.append_assoc] at hsplit
      obtain ⟨hdone, -⟩ := List.append_inj' hsplit rfl
      have hu : u ∈ done := by
        rw [hdone]
        exact List.mem_append_right _ List.mem_cons_self
      rw [hother u.title fun heq => hnew (h.declared.eq_of_title (known u hu) ht heq ▸ hu)]
      exact hr.ran before u after hdone

end Reached

/-- **Where every run is**: the invariant holds after distinct tests in any order. -/
theorem IsLoaded.reached (h : suite.IsLoaded settings start) (distinct : done.Nodup)
    (known : ∀ t ∈ done, t ∈ suite.tests) : suite.Reached settings start done := by
  induction done using List.reverseRecOn with
  | nil => exact h.reached_nil
  | append_singleton done t ih =>
    have hknown : ∀ u ∈ done, u ∈ suite.tests := fun u hu => known u (List.mem_append_left _ hu)
    have hnew : t ∉ done := fun hmem =>
      List.disjoint_of_nodup_append distinct hmem (List.mem_singleton_self t)
    have ht : t ∈ suite.tests := known t (List.mem_append_right _ (List.mem_singleton_self t))
    exact (ih (List.Nodup.of_append_left distinct) hknown).concat h hknown ht hnew

/-- Where a run is before one of its tests, which has not run then. -/
theorem IsLoaded.reached_before (h : suite.IsLoaded settings start) {before after : List SuiteTest} {t : SuiteTest}
    (distinct : (before ++ t :: after).Nodup) (known : ∀ u ∈ before ++ t :: after, u ∈ suite.tests) :
    suite.Reached settings start before ∧ t ∈ suite.tests ∧ t ∉ before := by
  refine ⟨?_, known t (List.mem_append_right _ List.mem_cons_self), ?_⟩
  · exact h.reached (List.Nodup.of_append_left distinct) fun u hu => known u (List.mem_append_left _ hu)
  · exact fun hmem => List.disjoint_of_nodup_append distinct hmem List.mem_cons_self

end Suite

end CursorSpec
