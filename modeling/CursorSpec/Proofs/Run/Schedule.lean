/-
Order independence: a suite comes to the same, whichever schedule its tests run in.

A schedule runs every test once, and each test after the one it comes after. Two schedules may interleave tests in any
way, and all tests share one editor. Still each test finds the same node before it (`IsOrderly.same_before`) and puts
that node's document into the editor, so its reports in two schedules agree (`agree_of_isOrderly`): the same result,
the same status of its node, the same calls, and the same document unless it was skipped. Then the graphs agree too,
which together is `schedule_independent`.
-/
import CursorSpec.Proofs.Run.Orderly

namespace CursorSpec

/-! ## Schedules -/

namespace Suite

/-- whether an order runs every test once, and each test after the one that it comes after -/
structure IsSchedule (s : Suite) (order : List Nat) : Prop where
  perm : order.Perm (List.range s.tests.length)
  after : ∀ k i j, order[k]? = some i → s.ComesAfter i j → j ∈ order.take k

namespace IsSchedule

variable {s : Suite} {order : List Nat} (h : s.IsSchedule order)

include h

theorem inRange : ∀ i ∈ order, i < s.tests.length := by
  intro i hi
  exact List.mem_range.1 (h.perm.mem_iff.1 hi)

theorem nodup : order.Nodup := h.perm.nodup_iff.2 List.nodup_range

theorem mem_testsAt {t : SuiteTest} (ht : t ∈ s.tests) : t ∈ s.testsAt order := by
  obtain ⟨i, hi⟩ := List.mem_iff_getElem?.1 ht
  obtain ⟨hlt, -⟩ := List.getElem?_eq_some_iff.1 hi
  exact List.mem_filterMap.2 ⟨i, h.perm.mem_iff.2 (List.mem_range.2 hlt), hi⟩

/-- The tests of a schedule run in an orderly way. -/
theorem isOrderly (declared : s.IsDeclared) : s.IsOrderly (s.testsAt order) := by
  refine ⟨nodup_testsAt declared.nodup_tests h.nodup, fun t => mem_tests_of_mem_testsAt, ?_⟩
  intro before t later hsplit u hu htitle
  have hlt : before.length < order.length := by
    rw [← length_testsAt h.inRange, hsplit, List.length_append, List.length_cons]
    omega
  have hk : order[before.length]? = some order[before.length] := List.getElem?_eq_getElem hlt
  have ht : s.tests[order[before.length]]? = some t := by
    rw [← getElem?_testsAt h.inRange hk]
    exact getElem?_of_eq_append hsplit
  obtain ⟨j, hj⟩ := List.mem_iff_getElem?.1 hu
  have hmem := h.after before.length _ j hk ⟨t, u, ht, hj, htitle.symm⟩
  have hbefore : s.testsAt (order.take before.length) = before := by
    rw [take_testsAt h.inRange, hsplit, List.take_left' rfl]
  rw [← hbefore]
  exact List.mem_filterMap.2 ⟨j, hmem, hj⟩

end IsSchedule

instance (s : Suite) (order : List Nat) : Decidable (s.IsSchedule order) :=
  decidable_of_iff (order.Perm (List.range s.tests.length) ∧
    ∀ k < order.length, ∀ i ∈ order[k]?, ∀ j < s.tests.length, s.ComesAfter i j → j ∈ order.take k) <| by
  constructor
  · rintro ⟨hperm, hafter⟩
    refine ⟨hperm, fun k i j hk hij => ?_⟩
    obtain ⟨-, u, -, hu, -⟩ := id hij
    exact hafter k (List.getElem?_eq_some_iff.1 hk).1 i hk j (List.getElem?_eq_some_iff.1 hu).1 hij
  · rintro ⟨hperm, hafter⟩
    exact ⟨hperm, fun k _ i hk j _ hij => hafter k i j hk hij⟩

end Suite

/-! ## Reports that agree -/

/-- reports of one test in two runs that say the same, but for the document after a test that was skipped -/
structure TestReport.Agree (y z : TestReport) : Prop where
  function : y.function = z.function
  result : y.result = z.result
  status : y.status = z.status
  calls : y.calls = z.calls
  document : y.result ≠ .error .skipped → y.document = z.document

namespace Suite

variable {suite : Suite} {settings : Settings} {start : Session} {ts ts' : List SuiteTest}

/-- **A test's reports in two orderly runs agree.** -/
theorem agree_of_isOrderly (h : suite.IsLoaded settings start) (ho : suite.IsOrderly ts) (ho' : suite.IsOrderly ts')
    {before later before' later' : List SuiteTest} {t : SuiteTest} (hsplit : ts = before ++ t :: later)
    (hsplit' : ts' = before' ++ t :: later') :
    ((start.runAll settings before).report settings t).2.Agree
      ((start.runAll settings before').report settings t).2 := by
  obtain ⟨n, hn, hsettled⟩ := ho.settled_before h hsplit
  have hn' := (ho.same_before h ho' hsplit hsplit').symm.trans hn
  obtain ⟨hresult, ⟨calls, hcalls, hcalls'⟩, hstate⟩ :=
    t.ends_alike (ho.same_commands h ho' hsplit hsplit') settings n
  rw [ho.report_eq h hsplit hn, ho'.report_eq h hsplit' hn']
  refine ⟨rfl, hresult, congrArg (some ∘ NodeStatus.ofResult) hresult, ?_, ?_⟩
  · show List.drop _ _ = List.drop _ _
    rw [hcalls, hcalls', List.drop_left' rfl, List.drop_left' rfl]
  · intro hskipped
    exact congrArg DocState.render (hstate hsettled hskipped)

/-- **Orderly runs of all tests leave one graph.** -/
theorem graph_of_isOrderly (h : suite.IsLoaded settings start) (ho : suite.IsOrderly ts) (ho' : suite.IsOrderly ts')
    (all : ∀ t ∈ suite.tests, t ∈ ts) (all' : ∀ t ∈ suite.tests, t ∈ ts') :
    (start.runAll settings ts).graph = (start.runAll settings ts').graph := by
  have hreached := h.reached ho.distinct ho.known
  have hreached' := h.reached ho'.distinct ho'.known
  refine Graph.eq_of_find? (hreached.titles.trans hreached'.titles.symm) (hreached.titles ▸ h.declared.distinct) ?_
  intro x hx
  rw [hreached.titles, Suite.titles, List.mem_append] at hx
  rcases hx with hx | hx
  · obtain ⟨seed, hseed, rfl⟩ := List.mem_map.1 hx
    rw [hreached.seeds seed hseed, hreached'.seeds seed hseed]
  · obtain ⟨t, ht, rfl⟩ := List.mem_map.1 hx
    obtain ⟨before, later, hsplit⟩ := List.append_of_mem (all t ht)
    obtain ⟨before', later', hsplit'⟩ := List.append_of_mem (all' t ht)
    rw [hreached.ran before t later hsplit, hreached'.ran before' t later' hsplit',
      ho.same_result h ho' hsplit hsplit']

/-! ## Two runs -/

/-- **Order independence.** In any two schedules of a loaded module every test has agreeing reports, and the nodes of
all tests stand alike in the end. -/
theorem schedule_independent {value : Value} {name text : Text} (checked : Settings.ofValue value = .ok settings)
    (compiled : Suite.compile settings name text = .ok suite) (loaded : suite.load = .ok start)
    {order order' : List Nat} (schedule : suite.IsSchedule order) (schedule' : suite.IsSchedule order') :
    ∃ report report' : RunReport, suite.run order = .ok report ∧ suite.run order' = .ok report' ∧
      report.nodes = report'.nodes ∧
      ∀ i < suite.tests.length, ∃ (k k' : Nat) (y z : TestReport), order[k]? = some i ∧ order'[k']? = some i ∧
        report.reports[k]? = some y ∧ report'.reports[k']? = some z ∧ y.Agree z := by
  obtain ⟨spec, resolved, -, -, rfl, -, -⟩ := Suite.of_compile compiled
  have h := isLoaded_of_load checked loaded
  have ho := schedule.isOrderly h.declared
  have ho' := schedule'.isOrderly h.declared
  refine ⟨_, _, run_eq_ok loaded order, run_eq_ok loaded order', ?_, ?_⟩
  · have hgraph := graph_of_isOrderly h ho ho' (fun t => schedule.mem_testsAt) fun t => schedule'.mem_testsAt
    exact congrArg Graph.nodes hgraph
  intro i hi
  have ht : suite.tests[i]? = some suite.tests[i] := List.getElem?_eq_getElem hi
  obtain ⟨k, hk⟩ := List.mem_iff_getElem?.1 (schedule.perm.mem_iff.2 (List.mem_range.2 hi))
  obtain ⟨k', hk'⟩ := List.mem_iff_getElem?.1 (schedule'.perm.mem_iff.2 (List.mem_range.2 hi))
  exact ⟨k, k', _, _, hk, hk', getElem?_reports start schedule.inRange hk ht,
    getElem?_reports start schedule'.inRange hk' ht,
    agree_of_isOrderly h ho ho' (testsAt_eq_append hk ht) (testsAt_eq_append hk' ht)⟩

/-- The transition that fails, with the one after it, before the other transition or after it. -/
theorem schedule_independent_branching :
    ∃ report report' : RunReport, branching.run [0, 1, 2] = .ok report ∧ branching.run [2, 0, 1] = .ok report' ∧
      report.nodes = report'.nodes := by
  have schedule : branching.IsSchedule [0, 1, 2] := by decide
  have schedule' : branching.IsSchedule [2, 0, 1] := by decide
  obtain ⟨report, report', hrun, hrun', hnodes, -⟩ :=
    schedule_independent Settings.ofValue_empty compile_branching load_branching schedule schedule'
  exact ⟨report, report', hrun, hrun', hnodes⟩

end Suite

end CursorSpec
