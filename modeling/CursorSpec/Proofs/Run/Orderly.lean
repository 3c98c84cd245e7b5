/-
Runs in which no test comes before the test it comes after.

In such a run a test never waits: the node it comes after is a seed's, or has been settled by its own test
(`IsOrderly.settled_before`). And what a test finds there depends on the test alone, not on the run
(`IsOrderly.same_before`): its ancestors have run before it in both runs, and have ended alike.

Declaring is orderly, as a test can only come after one that was declared before it (`IsDeclared.isOrderly`).
-/
import CursorSpec.Proofs.Run.Reached

namespace CursorSpec

namespace Suite

/-- whether the test at a place comes right after the test at another place -/
def ComesAfter (s : Suite) (i j : Nat) : Prop :=
  ∃ t u, s.tests[i]? = some t ∧ s.tests[j]? = some u ∧ t.comesAfter = u.title

instance (s : Suite) (i j : Nat) : Decidable (s.ComesAfter i j) :=
  decidable_of_iff (∃ t ∈ s.tests[i]?, ∃ u ∈ s.tests[j]?, t.comesAfter = u.title) (by simp [ComesAfter])

/-- distinct tests of a suite, each after the test that it comes after -/
structure IsOrderly (suite : Suite) (ts : List SuiteTest) : Prop where
  distinct : ts.Nodup
  known : ∀ t ∈ ts, t ∈ suite.tests
  after : ∀ before t later, ts = before ++ t :: later → ∀ u ∈ suite.tests, u.title = t.comesAfter → u ∈ before

variable {suite : Suite} {settings : Settings} {start : Session} {ts ts' : List SuiteTest}

theorem IsDeclared.isOrderly (h : suite.IsDeclared) : suite.IsOrderly suite.tests := by
  refine ⟨h.nodup_tests, fun _ ht => ht, ?_⟩
  intro before t later hsplit u hu htitle
  have ht := getElem?_of_eq_append hsplit
  have htake : suite.tests.take before.length = before := by
    rw [hsplit, List.take_left' rfl]
  rcases h.after before.length t ht with hmem | hmem
  · obtain ⟨x, hx, hxt⟩ := List.mem_map.1 hmem
    exact absurd (hxt.trans htitle.symm) (h.title_ne_of_seed hx hu)
  · obtain ⟨v, hv, hvt⟩ := List.mem_map.1 hmem
    rw [htake] at hv
    have hv' : v ∈ suite.tests := hsplit ▸ List.mem_append_left _ hv
    rw [h.eq_of_title hu hv' (htitle.trans hvt.symm)]
    exact hv

namespace IsOrderly

variable (h : suite.IsLoaded settings start) (ho : suite.IsOrderly ts) (ho' : suite.IsOrderly ts')
  {before later before' later' : List SuiteTest} {t t' : SuiteTest} {n : Node}

include h ho

theorem reached_before (hsplit : ts = before ++ t :: later) :
    suite.Reached settings start before ∧ t ∈ suite.tests ∧ t ∉ before :=
  h.reached_before (hsplit ▸ ho.distinct) (hsplit ▸ ho.known)

/-- what running a test comes to in a run: it settles, and it ends, by the node that it finds -/
theorem runTest_eq (hsplit : ts = before ++ t :: later)
    (hn : (start.runAll settings before).graph.find? t.comesAfter = some n) :
    (start.runAll settings before).runTest settings t =
      ((start.runAll settings before).settled t (t.ends settings (start.runAll settings before).editor n),
        (t.ends settings (start.runAll settings before).editor n).2) := by
  obtain ⟨hreached, ht, hnew⟩ := ho.reached_before h hsplit
  exact Session.runTest_eq (hreached.todo t ht hnew) (hreached.finds_comesAfter h ht hn) h.positive

theorem resultAfter_eq (hsplit : ts = before ++ t :: later)
    (hn : (start.runAll settings before).graph.find? t.comesAfter = some n) :
    start.resultAfter settings before t = (t.ends settings (start.runAll settings before).editor n).2 := by
  rw [Session.resultAfter, ho.runTest_eq h hsplit hn]

/-- What a test finds that it comes after: the node of a seed, or the node of a test that has run, settled by its
result. -/
theorem find?_before (hsplit : ts = before ++ t :: later) :
    (∃ x ∈ suite.seeds, x.title = t.comesAfter ∧
        (start.runAll settings before).graph.find? t.comesAfter = some x.node) ∨
      ∃ first u second, before = first ++ u :: second ∧ ts = first ++ u :: (second ++ t :: later) ∧
        u.title = t.comesAfter ∧ (start.runAll settings before).graph.find? t.comesAfter =
          some (u.node (.ofResult (start.resultAfter settings first u))) := by
  obtain ⟨hreached, ht, -⟩ := ho.reached_before h hsplit
  rcases h.declared.comesAfter_cases ht with ⟨x, hx, htitle⟩ | ⟨u, hu, htitle⟩
  · exact Or.inl ⟨x, hx, htitle, htitle ▸ hreached.seeds x hx⟩
  · obtain ⟨first, second, hbefore⟩ := List.append_of_mem (ho.after before t later hsplit u hu htitle)
    refine Or.inr ⟨first, u, second, hbefore, ?_, htitle, htitle ▸ hreached.ran first u second hbefore⟩
    rw [hsplit, hbefore, List.append_assoc, List.cons_append]

/-- **No test waits**: the node that a test comes after has settled before it runs. -/
theorem settled_before (hsplit : ts = before ++ t :: later) :
    ∃ n, (start.runAll settings before).graph.find? t.comesAfter = some n ∧ n.status ≠ .pending := by
  -- by induction on the number of tests before: a test that has run has itself found a settled node
  induction hk : before.length using Nat.strong_induction_on generalizing before t later with
  | _ k ih =>
    rcases ho.find?_before h hsplit with ⟨x, -, -, hfind⟩ | ⟨first, u, second, hbefore, hsplit', -, hfind⟩
    · exact ⟨x.node, hfind, by simp [Seed.node]⟩
    · have hlt : first.length < k := by
        rw [← hk, hbefore, List.length_append, List.length_cons]
        omega
      obtain ⟨n, hn, hsettled⟩ := ih first.length hlt hsplit' rfl
      refine ⟨_, hfind, fun hpending => hsettled ?_⟩
      have hstalled := (NodeStatus.ofResult_eq_pending_iff _).1 hpending
      rw [ho.resultAfter_eq h hsplit' hn] at hstalled
      exact ((SuiteTest.ends_eq_stalled_iff u settings _ n).1 hstalled).2

theorem report_eq (hsplit : ts = before ++ t :: later)
    (hn : (start.runAll settings before).graph.find? t.comesAfter = some n) :
    ((start.runAll settings before).report settings t).2 =
      ⟨t.function, (t.ends settings (start.runAll settings before).editor n).2,
        some (.ofResult (t.ends settings (start.runAll settings before).editor n).2),
        (t.ends settings (start.runAll settings before).editor n).1.history.drop
          (start.runAll settings before).editor.history.length,
        (t.ends settings (start.runAll settings before).editor n).1.state.render⟩ := by
  obtain ⟨hreached, ht, hnew⟩ := ho.reached_before h hsplit
  exact Session.report_eq (hreached.todo t ht hnew) (hreached.finds_comesAfter h ht hn) h.positive

include ho'

theorem same_commands (hsplit : ts = before ++ t :: later) (hsplit' : ts' = before' ++ t' :: later') :
    (start.runAll settings before).editor.commands = (start.runAll settings before').editor.commands := by
  rw [(ho.reached_before h hsplit).1.commands, (ho'.reached_before h hsplit').1.commands]

theorem result_of_find? (hsplit : ts = before ++ t :: later) (hsplit' : ts' = before' ++ t :: later')
    (hn : (start.runAll settings before).graph.find? t.comesAfter = some n)
    (hn' : (start.runAll settings before').graph.find? t.comesAfter = some n) :
    start.resultAfter settings before t = start.resultAfter settings before' t := by
  rw [ho.resultAfter_eq h hsplit hn, ho'.resultAfter_eq h hsplit' hn']
  exact (t.ends_alike (ho.same_commands h ho' hsplit hsplit') settings n).1

/-- **What a test finds does not depend on the run**, as long as the runs are orderly. -/
theorem same_before (hsplit : ts = before ++ t :: later) (hsplit' : ts' = before' ++ t :: later') :
    (start.runAll settings before).graph.find? t.comesAfter =
      (start.runAll settings before').graph.find? t.comesAfter := by
  -- by induction on the number of tests before in the first run: the test that it comes after has found the same
  induction hk : before.length using Nat.strong_induction_on generalizing before t later before' later' with
  | _ k ih =>
    rcases ho.find?_before h hsplit with ⟨x, hx, htitle, hfind⟩ | ⟨first, u, second, hbefore, hu, htitle, hfind⟩
    · obtain ⟨hreached, -⟩ := ho'.reached_before h hsplit'
      rw [hfind, ← htitle, hreached.seeds x hx]
    · obtain ⟨-, hmem, -⟩ := ho.reached_before h hu
      rcases ho'.find?_before h hsplit' with ⟨x, hx, hxt, -⟩ | ⟨first', v, second', -, hv, hvt, hfind'⟩
      · exact absurd (hxt.trans htitle.symm) (h.declared.title_ne_of_seed hx hmem)
      · obtain ⟨-, hmem', -⟩ := ho'.reached_before h hv
        obtain rfl := h.declared.eq_of_title hmem hmem' (htitle.trans hvt.symm)
        have hlt : first.length < k := by
          rw [← hk, hbefore, List.length_append, List.length_cons]
          omega
        obtain ⟨n, hn, -⟩ := ho.settled_before h hu
        have hn' := (ih first.length hlt hu hv rfl).symm.trans hn
        rw [hfind, hfind', ho.result_of_find? h ho' hu hv hn hn']

/-- How a test ends does not depend on the run either. -/
theorem same_result (hsplit : ts = before ++ t :: later) (hsplit' : ts' = before' ++ t :: later') :
    start.resultAfter settings before t = start.resultAfter settings before' t := by
  obtain ⟨n, hn, -⟩ := ho.settled_before h hsplit
  exact ho.result_of_find? h ho' hsplit hsplit' hn ((ho.same_before h ho' hsplit hsplit').symm.trans hn)

end IsOrderly

end Suite

end CursorSpec
