/-
Settlement: every test of a run settles its own node once, as it ends.

The tests of a suite run in any order, each at most once, not necessarily all of them, and with any settings that pass
the checks. `Session.Settles` says what one test may do between the session before it and the session after it: how
its node stands by its result, when it stalls or runs out of time, what a passed test stores, and that no other node
changes. A test whose node is pending does so (`settles_runTest`), and every test of a run finds its node pending,
whatever ran before it (`settles_in_any_order`).
-/
import CursorSpec.Proofs.Run.Reached

namespace CursorSpec

namespace Graph

def status? (g : Graph) (title : Text) : Option NodeStatus := (g.find? title).map (·.status)

theorem status?_of_find? {g : Graph} {title : Text} {n : Node} (h : g.find? title = some n) :
    g.status? title = some n.status := by
  rw [status?, h]
  rfl

end Graph

/-! ## One test -/

namespace Session

/-- what a test may do to a session that it ends with a result, given the limit of its wait and the document of its
entry -/
structure Settles (limit : Option Int) (t : SuiteTest) (d : DocState) (s s' : Session)
    (r : Except TestFault Unit) : Prop where
  once : ∀ title status, r ≠ .error (.graph (.alreadySettled title status))
  resolved_iff : s'.graph.status? t.title = some .resolved ↔ Outcome.of r = .passed
  skipped_iff : s'.graph.status? t.title = some .skipped ↔ Outcome.of r = .skipped
  failed_iff : s'.graph.status? t.title = some .failed ↔
    r ≠ .error .stalled ∧ (Outcome.of r = .failed ∨ Outcome.of r = .error)
  pending_iff : s'.graph.status? t.title = some .pending ↔ r = .error .stalled
  stalled_iff : r = .error .stalled ↔ limit = none ∧ s.graph.status? t.comesAfter = some .pending
  timeout_iff : (∃ title ms, r = .error (.graph (.timeout title ms))) ↔
    limit ≠ none ∧ s.graph.status? t.comesAfter = some .pending
  stored : Outcome.of r = .passed →
    (∃ n, s'.graph.find? t.title = some n ∧ n.state = some d) ∧ s'.editor.state = d
  others : ∀ title, title ≠ t.title → s'.graph.find? title = s.graph.find? title

/-- **A test whose node is pending settles it, once, as it ends.** -/
theorem settles_runTest {settings : Settings} {s : Session} {t : SuiteTest} {before : Node}
    (own : s.graph.find? t.title = some (t.node .pending)) (pred : s.graph.Finds t.comesAfter before)
    (positive : ∀ ms, settings.generator.waitTimeout = some ms → 0 < ms) :
    Settles settings.generator.waitTimeout t t.expected s (s.runTest settings t).1 (s.runTest settings t).2 := by
  rw [runTest_eq own pred positive]
  have hself := find?_settled_self (e := t.ends settings s.editor before) own
  have hstatus := Graph.status?_of_find? hself
  have hbefore := Graph.status?_of_find? pred.node
  refine ⟨t.ends_ne_alreadySettled settings s.editor before, ?_, ?_, ?_, ?_, ?_, ?_, ?_, ?_⟩
  · rw [hstatus, Option.some.injEq]
    exact NodeStatus.ofResult_eq_resolved_iff _
  · rw [hstatus, Option.some.injEq]
    exact NodeStatus.ofResult_eq_skipped_iff _
  · rw [hstatus, Option.some.injEq]
    exact NodeStatus.ofResult_eq_failed_iff _
  · rw [hstatus, Option.some.injEq]
    exact NodeStatus.ofResult_eq_pending_iff _
  · rw [hbefore, Option.some.injEq]
    exact t.ends_eq_stalled_iff settings s.editor before
  · rw [hbefore, Option.some.injEq]
    exact t.ends_eq_timeout_iff settings s.editor before
  · intro hpassed
    refine ⟨⟨_, hself, ?_⟩, ?_⟩
    · rw [(NodeStatus.ofResult_eq_resolved_iff _).2 hpassed]
      rfl
    · rw [editor_settled]
      exact t.state_of_passed settings s.editor before hpassed
  · intro title h
    exact find?_settled_of_ne h

end Session

/-! ## Every run -/

/-- **Settlement under any order.** Distinct tests of a loaded module run one after another, under any settings that
pass the checks: each of them settles its own node, once, as it ends, and what a passed one stores is the document that
its own block spells. -/
theorem Suite.settles_in_any_order {value : Value} {settings : Settings} {name text : Text} {suite : Suite}
    {start : Session} (checked : Settings.ofValue value = .ok settings)
    (compiled : Suite.compile settings name text = .ok suite) (loaded : suite.load = .ok start) {order : List Nat}
    (distinct : order.Nodup) (inRange : ∀ i ∈ order, i < suite.tests.length) :
    ∃ spec resolved report, Spec.read text = .ok spec ∧ spec.resolve = .ok resolved ∧
      suite.run order = .ok report ∧ report.reports.length = order.length ∧
      ∀ k i, order[k]? = some i → ∃ t entry d y,
        suite.tests[i]? = some t ∧ resolved.tests[i]? = some entry ∧ entry.title = t.title ∧
        Document.decode entry.content = .ok d ∧ report.reports[k]? = some y ∧
        (suite.sessionAt start order k).report settings t = (suite.sessionAt start order (k + 1), y) ∧
        Session.Settles settings.generator.waitTimeout t d (suite.sessionAt start order k)
          (suite.sessionAt start order (k + 1)) y.result := by
  obtain ⟨spec, resolved, hspec, hresolved, rfl, -, htests⟩ := Suite.of_compile compiled
  have h := isLoaded_of_load checked loaded
  refine ⟨spec, resolved, _, hspec, hresolved, run_eq_ok loaded order, ?_, ?_⟩
  · rw [Session.length_reportAll, length_testsAt inRange]
  intro k i hk
  obtain ⟨t, ht⟩ : ∃ t, suite.tests[i]? = some t := ⟨_, List.getElem?_eq_getElem (inRange i (List.mem_of_getElem? hk))⟩
  obtain ⟨entry, hentry, htitle, -, hdecode⟩ := getElem?_of_forall₂ htests ht
  have hsplit := testsAt_eq_append hk ht
  have hnodup := nodup_testsAt h.declared.nodup_tests distinct
  rw [hsplit] at hnodup
  obtain ⟨hreached, hmem, hnew⟩ := h.reached_before hnodup fun u hu => mem_tests_of_mem_testsAt (hsplit ▸ hu)
  obtain ⟨before, hbefore⟩ := hreached.find?_comesAfter h hmem
  refine ⟨t, entry, t.expected, _, ht, hentry, htitle.symm, hdecode, getElem?_reports start inRange hk ht, ?_, ?_⟩
  · rw [sessionAt_succ start hk ht]
    rfl
  · rw [sessionAt_succ start hk ht]
    exact Session.settles_runTest (hreached.todo t hmem hnew) hbefore h.positive

/-- A test that runs before the one it comes after stalls, as there is no limit. -/
theorem Suite.settles_in_any_order_branching :
    ∃ report y, branching.run [1, 0] = .ok report ∧ report.reports[0]? = some y ∧ y.result = .error .stalled := by
  have distinct : [1, 0].Nodup := by decide
  have inRange : ∀ i ∈ [1, 0], i < branching.tests.length := by decide
  obtain ⟨spec, resolved, report, -, -, hrun, -, hsettles⟩ :=
    settles_in_any_order Settings.ofValue_empty compile_branching load_branching distinct inRange
  obtain ⟨t, entry, d, y, ht, -, -, -, hy, -, hsettled⟩ := hsettles 0 1 rfl
  cases ht
  exact ⟨report, y, hrun, hy, hsettled.stalled_iff.2 ⟨rfl, by decide⟩⟩

end CursorSpec
