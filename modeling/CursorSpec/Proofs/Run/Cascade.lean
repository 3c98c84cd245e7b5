/-
The failure cascade: which tests are skipped when all tests run as they are declared.

No test waits there, as declaring is orderly. A test is skipped if the test it comes after did not pass, and that test
may itself have been skipped, so skipping goes back along a chain of tests to one that ended failed or with an error
(`skipped_iff_ancestor`). A test that is not skipped starts from the document of the entry that it comes after, as that
entry's own block spells it (`starts_from_entry`). `failure_cascade` says all this of the run.
-/
import CursorSpec.Proofs.Run.Orderly

namespace CursorSpec

theorem Outcome.of_eq_skipped_iff (r : Except TestFault Unit) : Outcome.of r = .skipped ↔ r = .error .skipped := by
  rcases r with f | u
  · cases f <;> simp [Outcome.of]
  · simp [Outcome.of]

/-! ## Documents to start from -/

theorem Seed.yielded_node (x : Seed) : x.node.yielded = some x.state := by
  simp [Seed.node, Node.yielded]

theorem SuiteTest.yielded_node (t : SuiteTest) (status : NodeStatus) :
    (t.node status).yielded = if status = .resolved then some t.expected else none := by
  by_cases h : status = .resolved
  · simp [SuiteTest.node, Node.yielded, h]
  · simp [SuiteTest.node, Node.yielded, h]

/-- A test that has ended leaves a document to start from if it passed, and only then. -/
theorem SuiteTest.yielded_node_eq_none_iff (t : SuiteTest) (r : Except TestFault Unit) :
    (t.node (.ofResult r)).yielded = none ↔ Outcome.of r ≠ .passed := by
  rw [t.yielded_node, ne_eq, ← NodeStatus.ofResult_eq_resolved_iff]
  by_cases h : NodeStatus.ofResult r = .resolved
  · simp [h]
  · simp [h]

namespace Suite

variable {suite : Suite} {settings : Settings} {start : Session}

/-! ## Ancestors -/

/-- A test comes right after one test at most. -/
theorem ComesAfter.unique (declared : suite.IsDeclared) {i j j' : Nat} (h : suite.ComesAfter i j)
    (h' : suite.ComesAfter i j') : j = j' := by
  obtain ⟨t, u, ht, hu, htu⟩ := h
  obtain ⟨t', u', ht', hu', htu'⟩ := h'
  rw [ht, Option.some.injEq] at ht'
  subst ht'
  have huu : u = u' := declared.eq_of_title (List.mem_of_getElem? hu) (List.mem_of_getElem? hu') (htu.symm.trans htu')
  subst huu
  obtain ⟨hj, rfl⟩ := List.getElem?_eq_some_iff.1 hu
  obtain ⟨hj', heq⟩ := List.getElem?_eq_some_iff.1 hu'
  exact (declared.nodup_tests.getElem_inj_iff.1 heq).symm

/-! ## The run as declared -/

/-- how the test at a place ends when the tests declared before it have run -/
def EndsAs (suite : Suite) (settings : Settings) (start : Session) (i : Nat) (r : Except TestFault Unit) : Prop :=
  ∃ t, suite.tests[i]? = some t ∧ r = start.resultAfter settings (suite.tests.take i) t

theorem EndsAs.unique {i : Nat} {r r' : Except TestFault Unit} (h : suite.EndsAs settings start i r)
    (h' : suite.EndsAs settings start i r') : r = r' := by
  obtain ⟨t, ht, rfl⟩ := h
  obtain ⟨t', ht', rfl⟩ := h'
  rw [ht, Option.some.injEq] at ht'
  rw [ht']

theorem ComesAfter.exists_endsAs (settings : Settings) (start : Session) {i j : Nat} (h : suite.ComesAfter i j) :
    ∃ r, suite.EndsAs settings start j r := by
  obtain ⟨-, u, -, hu, -⟩ := h
  exact ⟨_, u, hu, rfl⟩

section

variable (h : suite.IsLoaded settings start)

include h

/-- What a test finds before it: the node of a seed, and then it comes right after no test; or the node of the test it
comes right after, which was declared before it and has ended. -/
theorem find?_declared_before {i : Nat} {t : SuiteTest} (ht : suite.tests[i]? = some t) :
    (∃ x ∈ suite.seeds, x.title = t.comesAfter ∧ (∀ j, ¬ suite.ComesAfter i j) ∧
        (start.runAll settings (suite.tests.take i)).graph.find? t.comesAfter = some x.node) ∨
      ∃ j u, j < i ∧ suite.tests[j]? = some u ∧ u.title = t.comesAfter ∧
        (start.runAll settings (suite.tests.take i)).graph.find? t.comesAfter =
          some (u.node (.ofResult (start.resultAfter settings (suite.tests.take j) u))) := by
  rcases h.declared.isOrderly.find?_before h (eq_take_append_of_getElem? ht) with
    ⟨x, hx, htitle, hfind⟩ | ⟨first, u, second, htake, hsplit, htitle, hfind⟩
  · refine Or.inl ⟨x, hx, htitle, ?_, hfind⟩
    rintro j ⟨t', u, ht', hu, htu⟩
    rw [ht, Option.some.injEq] at ht'
    subst ht'
    exact h.declared.title_ne_of_seed hx (List.mem_of_getElem? hu) (htitle.trans htu)
  · have hu := getElem?_of_eq_append hsplit
    have hfirst : suite.tests.take first.length = first := by
      rw [hsplit, List.take_left' rfl]
    have hlt : first.length < i := by
      have hlength := congrArg List.length htake
      rw [List.length_take, List.length_append, List.length_cons] at hlength
      omega
    rw [← hfirst] at hfind
    exact Or.inr ⟨first.length, u, hlt, hu, htitle, hfind⟩

theorem ComesAfter.lt {i j : Nat} (hij : suite.ComesAfter i j) : j < i := by
  obtain ⟨t, -, ht, -, -⟩ := id hij
  rcases find?_declared_before h ht with ⟨-, -, -, hnone, -⟩ | ⟨j', u, hlt, hu, htitle, -⟩
  · exact absurd hij (hnone j)
  · rw [hij.unique h.declared ⟨t, u, ht, hu, htitle.symm⟩]
    exact hlt

/-- How a test ends in the run as declared is how the node says that it finds. -/
theorem resultAfter_declared {i : Nat} {t : SuiteTest} (ht : suite.tests[i]? = some t) :
    ∃ n, (start.runAll settings (suite.tests.take i)).graph.find? t.comesAfter = some n ∧ n.status ≠ .pending ∧
      start.resultAfter settings (suite.tests.take i) t =
        (t.ends settings (start.runAll settings (suite.tests.take i)).editor n).2 := by
  obtain ⟨n, hn, hsettled⟩ := h.declared.isOrderly.settled_before h (eq_take_append_of_getElem? ht)
  exact ⟨n, hn, hsettled, h.declared.isOrderly.resultAfter_eq h (eq_take_append_of_getElem? ht) hn⟩

/-- **One step of the cascade**: a test is skipped if it comes right after a test that did not pass, and only then. -/
theorem skipped_iff_before {i : Nat} {r : Except TestFault Unit} (hr : suite.EndsAs settings start i r) :
    r = .error .skipped ↔
      ∃ j r', suite.ComesAfter i j ∧ suite.EndsAs settings start j r' ∧ Outcome.of r' ≠ .passed := by
  obtain ⟨t, ht, rfl⟩ := hr
  obtain ⟨n, hn, hsettled, hresult⟩ := resultAfter_declared h ht
  rw [hresult, t.ends_eq_skipped_iff settings _ n]
  rcases find?_declared_before h ht with ⟨x, -, -, hnone, hfind⟩ | ⟨j, u, -, hu, htitle, hfind⟩
  · obtain rfl := Option.some.inj (hn.symm.trans hfind)
    constructor
    · rintro ⟨-, hyielded⟩
      rw [x.yielded_node] at hyielded
      cases hyielded
    · rintro ⟨j, r', hij, -, -⟩
      exact absurd hij (hnone j)
  · obtain rfl := Option.some.inj (hn.symm.trans hfind)
    have hyielded := u.yielded_node_eq_none_iff (start.resultAfter settings (suite.tests.take j) u)
    have hij : suite.ComesAfter i j := ⟨t, u, ht, hu, htitle.symm⟩
    have hend : suite.EndsAs settings start j (start.resultAfter settings (suite.tests.take j) u) := ⟨u, hu, rfl⟩
    constructor
    · rintro ⟨-, hnone⟩
      exact ⟨j, _, hij, hend, hyielded.1 hnone⟩
    · rintro ⟨j', r', hij', hend', hnot⟩
      obtain rfl := hij.unique h.declared hij'
      rw [hend'.unique hend] at hnot
      exact ⟨hsettled, hyielded.2 hnot⟩

/-- **The cascade**: a test is skipped if one of the tests that it comes after, directly or not, ended failed or with an
error, and only then. -/
theorem skipped_iff_ancestor {i : Nat} {r : Except TestFault Unit} (hr : suite.EndsAs settings start i r) :
    r = .error .skipped ↔ ∃ j r', Relation.TransGen suite.ComesAfter i j ∧ suite.EndsAs settings start j r' ∧
      (Outcome.of r' = .failed ∨ Outcome.of r' = .error) := by
  -- by induction on the place: a test comes after tests declared before it
  induction i using Nat.strong_induction_on generalizing r with
  | _ i ih =>
    rw [skipped_iff_before h hr]
    constructor
    · rintro ⟨j, r', hij, hr', hnot⟩
      cases hout : Outcome.of r' with
      | passed => exact absurd hout hnot
      | failed => exact ⟨j, r', .single hij, hr', Or.inl hout⟩
      | error => exact ⟨j, r', .single hij, hr', Or.inr hout⟩
      | skipped =>
        have hskipped := (Outcome.of_eq_skipped_iff r').1 hout
        obtain ⟨k, rk, hjk, hrk, hfailed⟩ := (ih j (hij.lt h) hr').1 hskipped
        exact ⟨k, rk, .head hij hjk, hrk, hfailed⟩
    · rintro ⟨k, rk, hik, hrk, hfailed⟩
      obtain ⟨j, hij, hjk⟩ := Relation.TransGen.head'_iff.1 hik
      obtain ⟨r', hr'⟩ := hij.exists_endsAs settings start
      refine ⟨j, r', hij, hr', ?_⟩
      rcases Relation.reflTransGen_iff_eq_or_transGen.1 hjk with rfl | hjk
      · rw [hr'.unique hrk]
        rcases hfailed with hfailed | hfailed
        · rw [hfailed]; decide
        · rw [hfailed]; decide
      · rw [(ih j (hij.lt h) hr').2 ⟨k, rk, hjk, hrk, hfailed⟩]
        decide

/-! ## What a run as declared leaves -/

/-- Nothing is left pending. -/
theorem not_pending_of_declared {n : Node} (hn : n ∈ (start.runAll settings suite.tests).graph.nodes) :
    n.status ≠ .pending := by
  have ho := h.declared.isOrderly
  have hreached := h.reached ho.distinct ho.known
  have hfind := Graph.find?_of_mem (hreached.titles ▸ h.declared.distinct) hn
  have htitle : n.title ∈ suite.titles := hreached.titles ▸ List.mem_map_of_mem hn
  rcases List.mem_append.1 htitle with hseed | htest
  · obtain ⟨x, hx, hxt⟩ := List.mem_map.1 hseed
    rw [← hxt, hreached.seeds x hx] at hfind
    cases hfind
    simp [Seed.node]
  · obtain ⟨t, ht, htt⟩ := List.mem_map.1 htest
    obtain ⟨i, hi⟩ := List.mem_iff_getElem?.1 ht
    rw [← htt, hreached.ran _ t _ (eq_take_append_of_getElem? hi)] at hfind
    cases hfind
    obtain ⟨m, -, hsettled, hresult⟩ := resultAfter_declared h hi
    intro hpending
    have hstalled := (NodeStatus.ofResult_eq_pending_iff _).1 hpending
    rw [hresult] at hstalled
    exact hsettled ((t.ends_eq_stalled_iff settings _ m).1 hstalled).2

/-- A test that is not skipped starts from the document of the entry that it comes after. -/
theorem starts_from_entry {resolved : ResolvedSpec} (compiled : suite.IsOf settings resolved) {i : Nat} {t : SuiteTest}
    (ht : suite.tests[i]? = some t)
    (hperformed : start.resultAfter settings (suite.tests.take i) t ≠ .error .skipped) :
    ∃ entry d, resolved.entry? t.comesAfter = some entry ∧ Document.decode entry.content = .ok d ∧
      (start.runAll settings (suite.tests.take i)).runTest settings t =
        (start.runAll settings (suite.tests.take i)).runFrom settings.commands t d ∧
      ((start.runAll settings (suite.tests.take i)).runTest settings t).1.editor =
        (({ (start.runAll settings (suite.tests.take i)).editor with state := d } : Editor).performAll
          settings.commands t.steps).1 := by
  obtain ⟨hreached, hmem, hnew⟩ := h.declared.isOrderly.reached_before h (eq_take_append_of_getElem? ht)
  obtain ⟨n, hn, hsettled, hresult⟩ := resultAfter_declared h ht
  have hown := hreached.todo t hmem hnew
  -- the node has a document, and it is that of its entry
  obtain ⟨entry, d, hentry, hdecode, hd⟩ : ∃ entry d, resolved.entry? t.comesAfter = some entry ∧
      Document.decode entry.content = .ok d ∧ n.yielded = some d := by
    have hyielded : n.yielded ≠ none := fun hnone =>
      hperformed (hresult.trans ((t.ends_eq_skipped_iff settings _ n).2 ⟨hsettled, hnone⟩))
    rcases find?_declared_before h ht with ⟨x, hx, htitle, -, hfind⟩ | ⟨j, u, -, hu, htitle, hfind⟩
    · obtain rfl := Option.some.inj (hn.symm.trans hfind)
      obtain ⟨entry, hentry, hdecode⟩ := entry?_of_mem_seeds compiled h.declared.distinct hx
      exact ⟨entry, x.state, htitle ▸ hentry, hdecode, x.yielded_node⟩
    · obtain rfl := Option.some.inj (hn.symm.trans hfind)
      obtain ⟨entry, hentry, hdecode⟩ := entry?_of_mem_tests compiled h.declared.distinct (List.mem_of_getElem? hu)
      refine ⟨entry, u.expected, htitle ▸ hentry, hdecode, ?_⟩
      rw [u.yielded_node] at hyielded ⊢
      split
      · rfl
      · next hstatus => exact absurd (if_neg hstatus) hyielded
  have hfrom : (start.runAll settings (suite.tests.take i)).runTest settings t =
      (start.runAll settings (suite.tests.take i)).runFrom settings.commands t d := by
    rw [Session.runTest_eq hown (hreached.finds_comesAfter h hmem hn) h.positive, Session.runFrom_eq hown]
    simp only [SuiteTest.ends, if_neg hsettled, hd]
  refine ⟨entry, d, hentry, hdecode, hfrom, ?_⟩
  rw [hfrom, Session.runFrom_eq hown, Session.editor_settled, SuiteTest.endsFrom_fst]

/-- No test stalls or runs out of time. -/
theorem not_waiting_of_endsAs {i : Nat} {r : Except TestFault Unit} (hr : suite.EndsAs settings start i r) :
    r ≠ .error .stalled ∧ ∀ title ms, r ≠ .error (.graph (.timeout title ms)) := by
  obtain ⟨t, ht, rfl⟩ := hr
  obtain ⟨n, -, hsettled, hresult⟩ := resultAfter_declared h ht
  rw [hresult]
  constructor
  · intro hstalled
    exact hsettled ((t.ends_eq_stalled_iff settings _ n).1 hstalled).2
  · intro title ms htimeout
    exact hsettled ((t.ends_eq_timeout_iff settings _ n).1 ⟨title, ms, htimeout⟩).2

omit h

/-- The report at a place says how the test there ends. -/
theorem endsAs_iff_report {i : Nat} {r : Except TestFault Unit} :
    suite.EndsAs settings start i r ↔ ∃ y, (start.reportAll settings suite.tests).2[i]? = some y ∧ y.result = r := by
  rw [Session.getElem?_reportAll]
  constructor
  · rintro ⟨t, ht, rfl⟩
    exact ⟨_, by rw [ht]; rfl, rfl⟩
  · rintro ⟨y, hy, rfl⟩
    obtain ⟨t, ht, rfl⟩ := Option.map_eq_some_iff.1 hy
    exact ⟨t, ht, rfl⟩

end

/-- **Failure cascade.** All tests of a loaded module run as they are declared. None stalls or runs out of time, and no
node is left pending. A test is skipped if and only if one of its proper ancestors ended failed or with an error. Every
other test performs its steps on the document that the block of the entry it comes after spells. -/
theorem failure_cascade {value : Value} {name text : Text} (checked : Settings.ofValue value = .ok settings)
    (compiled : Suite.compile settings name text = .ok suite) (loaded : suite.load = .ok start) :
    ∃ (spec : Spec) (resolved : ResolvedSpec) (report : RunReport),
      Spec.read text = .ok spec ∧ spec.resolve = .ok resolved ∧
      suite.run (List.range suite.tests.length) = .ok report ∧ report.reports.length = suite.tests.length ∧
      (∀ n ∈ report.nodes, n.status ≠ .pending) ∧
      ∀ (i : Nat) (t : SuiteTest) (y : TestReport), suite.tests[i]? = some t → report.reports[i]? = some y →
        y.result ≠ .error .stalled ∧
        (∀ title ms, y.result ≠ .error (.graph (.timeout title ms))) ∧
        (y.result = .error .skipped ↔ ∃ (j : Nat) (z : TestReport), Relation.TransGen suite.ComesAfter i j ∧
          report.reports[j]? = some z ∧ (Outcome.of z.result = .failed ∨ Outcome.of z.result = .error)) ∧
        (y.result ≠ .error .skipped → ∃ (entry : Entry) (d : DocState) (s : Session),
          resolved.entry? t.comesAfter = some entry ∧ Document.decode entry.content = .ok d ∧
          s = start.runAll settings (suite.tests.take i) ∧ y = (s.report settings t).2 ∧
          s.runTest settings t = s.runFrom settings.commands t d ∧
          (s.runTest settings t).1.editor =
            (({ s.editor with state := d } : Editor).performAll settings.commands t.steps).1) := by
  obtain ⟨spec, resolved, hspec, hresolved, hof⟩ := Suite.of_compile compiled
  have h := isLoaded_of_load checked loaded
  have hrun := run_eq_ok loaded (List.range suite.tests.length)
  rw [testsAt_range, hof.settings_eq] at hrun
  refine ⟨spec, resolved, _, hspec, hresolved, hrun, Session.length_reportAll _ _,
    fun n hn => not_pending_of_declared h hn, ?_⟩
  intro i t y ht hy
  have hends : suite.EndsAs settings start i y.result := endsAs_iff_report.2 ⟨y, hy, rfl⟩
  obtain ⟨hstalled, htimeout⟩ := not_waiting_of_endsAs h hends
  refine ⟨hstalled, htimeout, ?_, ?_⟩
  · rw [skipped_iff_ancestor h hends]
    constructor
    · rintro ⟨j, r, hij, hr, hfailed⟩
      obtain ⟨z, hz, rfl⟩ := endsAs_iff_report.1 hr
      exact ⟨j, z, hij, hz, hfailed⟩
    · rintro ⟨j, z, hij, hz, hfailed⟩
      exact ⟨j, z.result, hij, endsAs_iff_report.2 ⟨z, hz, rfl⟩, hfailed⟩
  · intro hperformed
    have hreport : (start.reportAll settings suite.tests).2[i]? =
        some ((start.runAll settings (suite.tests.take i)).report settings t).2 := by
      rw [Session.getElem?_reportAll, ht]
      rfl
    have hresult := hends.unique ⟨t, ht, rfl⟩
    rw [hresult] at hperformed
    obtain ⟨entry, d, hentry, hdecode, hfrom, heditor⟩ := starts_from_entry h hof ht hperformed
    exact ⟨entry, d, _, hentry, hdecode, rfl, Option.some.inj (hy.symm.trans hreport), hfrom, heditor⟩

/-- The transition that fails takes with it the one after it. -/
theorem failure_cascade_branching :
    ∃ report y, branching.run [0, 1, 2] = .ok report ∧ report.reports[1]? = some y ∧ y.result = .error .skipped := by
  obtain ⟨spec, resolved, report, -, -, hrun, -, -, htests⟩ :=
    failure_cascade Settings.ofValue_empty compile_branching load_branching
  obtain rfl := Except.ok.inj (hrun.symm.trans (run_eq_ok load_branching [0, 1, 2]))
  obtain ⟨-, -, hskipped, -⟩ := htests 1 _ _ rfl rfl
  refine ⟨_, _, hrun, rfl, hskipped.2 ⟨0, _, .single ⟨_, _, rfl, rfl, rfl⟩, rfl, Or.inr ?_⟩⟩
  decide

end Suite

end CursorSpec
