/-
Groups of calls that behave like calls one after another.

Calls whose starts ascend begin in the order in which they are written (`awaitAll_of_ascending`), and all that a call
does to the document it does when it begins. So the steps of a compiled test leave the editor as the calls by themselves
would, up to the end of the first step with a call that fails (`performAll_of_ascending`).
-/
import CursorSpec.Proofs.Run.Ending
import CursorSpec.Proofs.Run.Timed
import CursorSpec.Proofs.Suite.Steps

namespace CursorSpec

namespace TestStep

/-- the calls of a step, in the order in which they are written -/
def calls (names : CommandNames) : TestStep → Except Expr.Fault (List Call)
  | .configure f => .ok [⟨names.selectionBehavior, [f.argument]⟩]
  | .invoke i is => (i :: is).mapM Invocation.call

end TestStep

namespace Editor

variable {e : Editor}

/-! ## Calls one after another -/

def knows (e : Editor) (c : Call) : Bool := (e.handler? c.command).isSome

theorem executeAll_cons (e : Editor) (c : Call) (cs : List Call) :
    e.executeAll (c :: cs) =
      (((e.execute c).1.executeAll cs).1, (e.execute c).2 :: ((e.execute c).1.executeAll cs).2) :=
  rfl

theorem executeAll_append (e : Editor) (cs ds : List Call) :
    e.executeAll (cs ++ ds) =
      (((e.executeAll cs).1.executeAll ds).1, (e.executeAll cs).2 ++ ((e.executeAll cs).1.executeAll ds).2) := by
  induction cs generalizing e with
  | nil => rfl
  | cons c cs ih => rw [List.cons_append, executeAll_cons, ih, executeAll_cons]; rfl

/-- A call goes into the history if its command is known, and leaves what is known. -/
theorem start_cases (e : Editor) (c : Call) :
    (e.start c).1.commands = e.commands ∧ (e.start c).1.history = e.history ++ [c].filter e.knows ∧
      (e.knows c = false → (e.start c).2 = .error (.unknownCommand c.command)) := by
  rw [start, List.filter_singleton, knows]
  cases e.handler? c.command with
  | none => exact ⟨rfl, (List.append_nil _).symm, fun _ => rfl⟩
  | some h =>
    rcases h.call_agree c.args (a := { e with history := e.history ++ [c] })
      (b := { e with history := e.history ++ [c] }) rfl with ⟨f, hf, -⟩ | ⟨s, r, v, w, hr, -⟩
    · simp only [hf]
      exact ⟨trivial, rfl, fun hunknown => by cases hunknown⟩
    · simp only [hr]
      exact ⟨trivial, rfl, fun hunknown => by cases hunknown⟩

theorem execute_fst (e : Editor) (c : Call) : (e.execute c).1 = (e.start c).1 := rfl

theorem map_execute (e : Editor) (c : Call) : ((e.execute c).2.map fun _ => ()) = (e.start c).2.map fun _ => () := by
  unfold execute
  rcases e.start c with ⟨e', f | r⟩
  · rfl
  · rfl

theorem knows_start (e : Editor) (c : Call) : (e.start c).1.knows = e.knows := by
  funext d
  rw [knows, knows, handler?, handler?, (start_cases e c).1]

/-- **The history of calls**: those of known commands, in their order. -/
theorem history_executeAll (e : Editor) (cs : List Call) :
    (e.executeAll cs).1.history = e.history ++ cs.filter e.knows ∧ (e.executeAll cs).1.commands = e.commands := by
  induction cs generalizing e with
  | nil => exact ⟨(List.append_nil _).symm, rfl⟩
  | cons c cs ih =>
    obtain ⟨hcommands, hhistory, -⟩ := start_cases e c
    obtain ⟨ihh, ihc⟩ := ih (e.start c).1
    rw [executeAll_cons]
    refine ⟨?_, ihc.trans hcommands⟩
    rw [execute_fst, ihh, hhistory, knows_start, List.append_assoc, ← List.filter_append, List.singleton_append]

/-- Calls that succeed are calls of known commands. -/
theorem filter_knows {cs : List Call} (h : ∀ r ∈ (e.executeAll cs).2, ∃ v, r = .ok v) : cs.filter e.knows = cs := by
  induction cs generalizing e with
  | nil => rfl
  | cons c cs ih =>
    rw [executeAll_cons, execute_fst] at h
    obtain ⟨v, hv⟩ := h _ List.mem_cons_self
    have hknown : e.knows c = true := by
      by_contra hunknown
      have hfault := map_execute e c
      rw [(start_cases e c).2.2 (Bool.eq_false_of_not_eq_true hunknown), hv] at hfault
      cases hfault
    have hrest := ih fun r hr => h r (List.mem_cons_of_mem _ hr)
    rw [List.filter_cons, if_pos hknown, ← knows_start e c, hrest]

/-! ## Groups -/

theorem startAll_eq (e : Editor) (cs : List (Nat × Call)) :
    (e.startAll cs).1 = (e.executeAll (cs.map (·.2))).1 ∧ (e.startAll cs).2.map (·.1) = cs.map (·.1) ∧
      ((e.startAll cs).2.map (·.2)).map (·.map fun _ => ()) =
        (e.executeAll (cs.map (·.2))).2.map (·.map fun _ => ()) := by
  induction cs generalizing e with
  | nil => exact ⟨rfl, rfl, rfl⟩
  | cons ic cs ih =>
    obtain ⟨i, c⟩ := ic
    obtain ⟨hlast, hplaces, hanswers⟩ := ih (e.start c).1
    rw [startAll_cons, List.map_cons, executeAll_cons]
    refine ⟨hlast, congrArg (i :: ·) hplaces, ?_⟩
    simp only [List.map_cons, map_execute]
    exact congrArg (_ :: ·) hanswers

/-- **Calls whose starts ascend are calls one after another.** -/
theorem awaitAll_of_ascending {calls : List (Option Int × Call)}
    (ascending : (calls.map fun c => Instant.zero.afterSome c.1).Pairwise fun i j => i.le j = true) :
    e.awaitAll calls =
      ((e.executeAll (calls.map (·.2))).1, (Group.joined (e.executeAll (calls.map (·.2))).2).map fun _ => ()) := by
  have hmoments : (calls.mapIdx fun i c => (c.1, (i, c.2))).map (fun m => Instant.zero.afterSome m.1) =
      calls.map fun c => Instant.zero.afterSome c.1 := List.ext_getElem (by simp) (by simp)
  have hstarts : (Group.starts (calls.mapIdx fun i c => (c.1, (i, c.2)))).map (·.act) =
      calls.mapIdx fun i c => (i, c.2) := by
    have hsorted : Group.starts (calls.mapIdx fun i c => (c.1, (i, c.2))) =
        (calls.mapIdx fun i c => (c.1, (i, c.2))).map fun m => ⟨Instant.zero.afterSome m.1, .zero, m.2⟩ := by
      refine sortBy_of_pairwise (List.pairwise_map.2 ?_)
      refine (List.pairwise_map.1 (hmoments ▸ ascending)).imp fun {a b} hab => ?_
      by_cases h : Instant.zero.afterSome a.1 = Instant.zero.afterSome b.1
      · exact Group.Event.le_iff.2 (Or.inl ⟨h, Instant.le_refl _⟩)
      · exact Group.Event.le_iff.2 (Or.inr ⟨h, hab⟩)
    rw [hsorted]
    exact List.ext_getElem (by simp) (by simp)
  have hcalls : (calls.mapIdx fun i c => (i, c.2)).map (·.2) = calls.map (·.2) :=
    List.ext_getElem (by simp) (by simp)
  have hplaces : (calls.mapIdx fun i c => (i, c.2)).map (·.1) = List.range calls.length :=
    List.ext_getElem (by simp) (by simp)
  obtain ⟨hlast, hkept, hanswers⟩ := startAll_eq e (calls.mapIdx fun i c => (i, c.2))
  rw [hcalls] at hlast hanswers
  -- the calls have begun in their order, so their answers are in order already
  have hsorted : sortBy (fun a b => decide (a.1 ≤ b.1)) (e.startAll (calls.mapIdx fun i c => (i, c.2))).2 =
      (e.startAll (calls.mapIdx fun i c => (i, c.2))).2 := by
    refine sortBy_of_pairwise ?_
    have hascending : ((e.startAll (calls.mapIdx fun i c => (i, c.2))).2.map (·.1)).Pairwise (· < ·) := by
      rw [hkept, hplaces]
      exact List.pairwise_lt_range
    exact (List.pairwise_map.1 hascending).imp fun h => decide_eq_true (Nat.le_of_lt h)
  rw [awaitAll, hstarts, Prod.mk.injEq]
  refine ⟨hlast, ?_⟩
  rw [hsorted, Group.joined_map_unit, hanswers, ← Group.joined_map_unit]

/-! ## Steps -/

variable {names : CommandNames}

theorem afterSome_delay? {j : Invocation} (h : 0 ≤ j.delay) : Instant.zero.afterSome j.delay? = ⟨j.delay, 0⟩ := by
  rw [Invocation.delay?]
  split
  · next h0 => rw [h0]; rfl
  · next h0 =>
    have hpos : ¬j.delay ≤ 0 := by omega
    rw [Instant.afterSome, Option.map_some, Option.getD_some, Instant.after, if_neg hpos]
    simp [Instant.zero]

theorem mapM_delayed {is : List Invocation} {cs : List Call} (h : is.mapM Invocation.call = .ok cs) :
    ∃ calls, is.mapM (fun j => j.call.map fun c => (j.delay?, c)) = .ok calls ∧
      calls.map (·.1) = is.map Invocation.delay? ∧ calls.map (·.2) = cs := by
  induction is generalizing cs with
  | nil => cases h; exact ⟨[], rfl, rfl, rfl⟩
  | cons i is ih =>
    rw [List.mapM_cons] at h
    obtain ⟨c, hc, h⟩ := bind_eq_ok_iff.1 h
    obtain ⟨cs', hcs, h⟩ := bind_eq_ok_iff.1 h
    cases h
    obtain ⟨calls, hcalls, hdelays, hall⟩ := ih hcs
    refine ⟨(i.delay?, c) :: calls, ?_, by rw [List.map_cons, hdelays, List.map_cons], by rw [List.map_cons, hall]⟩
    rw [List.mapM_cons, hc, hcalls]
    rfl

/-- **A step whose starts ascend is its calls one after another**, whether they fail or not. -/
theorem perform_of_ascending {s : TestStep} {cs : List Call} (ascending : s.IsAscending) (h : s.calls names = .ok cs) :
    e.perform names s = ((e.executeAll cs).1,
      ((Group.joined (e.executeAll cs).2).map fun _ => ()).mapError TestFault.editor) := by
  cases s with
  | configure f =>
    cases h
    have hone : e.awaitAll [(none, ⟨names.selectionBehavior, [f.argument]⟩)] = _ :=
      awaitAll_of_ascending (List.pairwise_singleton _ _)
    rw [awaitAll_singleton] at hone
    obtain ⟨hlast, hanswer⟩ := Prod.mk.inj hone
    rw [perform, Prod.mk.injEq]
    exact ⟨hlast, congrArg (Except.mapError TestFault.editor) hanswer⟩
  | invoke i is =>
    obtain ⟨calls, hcalls, hdelays, rfl⟩ := mapM_delayed h
    have hmoments : (calls.map fun c => Instant.zero.afterSome c.1).Pairwise fun i j => i.le j = true := by
      have hmap : (calls.map fun c => Instant.zero.afterSome c.1) =
          (i :: is).map fun j => Instant.zero.afterSome j.delay? := by
        simpa only [List.map_map, Function.comp_def] using congrArg (List.map Instant.zero.afterSome) hdelays
      obtain ⟨hnonneg, hsorted⟩ := List.pairwise_cons.1 ascending
      rw [hmap, List.pairwise_map]
      refine (List.pairwise_map.1 hsorted).imp_of_mem fun {a b} ha hb hab => ?_
      rw [afterSome_delay? (hnonneg _ (List.mem_map_of_mem ha)), afterSome_delay? (hnonneg _ (List.mem_map_of_mem hb)),
        Instant.le_iff]
      exact (lt_or_eq_of_le hab).imp id fun heq => ⟨heq, le_rfl⟩
    simp only [perform, hcalls, awaitAll_of_ascending hmoments]

def Completes (e : Editor) (cs : List Call) : Prop := ∀ r ∈ (e.executeAll cs).2, ∃ v, r = .ok v

theorem completes_append {cs ds : List Call} (hcs : e.Completes cs) (hds : (e.executeAll cs).1.Completes ds) :
    e.Completes (cs ++ ds) := by
  rw [Completes, executeAll_append]
  intro r hr
  rcases List.mem_append.1 hr with hr | hr
  · exact hcs r hr
  · exact hds r hr

/-- **Steps whose starts ascend are their calls one after another**, up to the end of the first step in which one of
them fails. -/
theorem performAll_of_ascending {ss : List TestStep} {css : List (List Call)} (ascending : ∀ s ∈ ss, s.IsAscending)
    (h : ss.mapM (TestStep.calls names) = .ok css) :
    (e.Completes css.flatten ∧ e.performAll names ss = ((e.executeAll css.flatten).1, .ok ())) ∨
      ∃ done group rest f, css = done ++ group :: rest ∧ e.Completes done.flatten ∧
        .error f ∈ ((e.executeAll done.flatten).1.executeAll group).2 ∧
        e.performAll names ss = ((e.executeAll (done.flatten ++ group)).1, .error (.editor f)) := by
  induction ss generalizing e css with
  | nil =>
    cases h
    exact Or.inl ⟨nofun, rfl⟩
  | cons s ss ih =>
    rw [List.mapM_cons] at h
    obtain ⟨cs, hcs, h⟩ := bind_eq_ok_iff.1 h
    obtain ⟨css', hcss, h⟩ := bind_eq_ok_iff.1 h
    cases h
    have hstep := perform_of_ascending (e := e) (ascending s List.mem_cons_self) hcs
    rw [performAll_cons, hstep]
    -- the first step completes, and the others go on from the editor that it leaves, or it is the one that fails
    rcases Group.succeed_or_fail (e.executeAll cs).2 with ⟨vs, hvs⟩ | ⟨vs, f, rest, hvs⟩
    · have hcompletes : e.Completes cs := by
        intro r hr
        rw [hvs] at hr
        obtain ⟨v, -, rfl⟩ := List.mem_map.1 hr
        exact ⟨v, rfl⟩
      rw [hvs, Group.joined_map_ok]
      rcases ih (e := (e.executeAll cs).1) (fun x hx => ascending x (List.mem_cons_of_mem s hx)) hcss with
        ⟨hrest, hperform⟩ | ⟨done, group, rest, f, rfl, hdone, hfault, hperform⟩
      · refine Or.inl ⟨completes_append hcompletes hrest, ?_⟩
        rw [List.flatten_cons, executeAll_append]
        exact hperform
      · refine Or.inr ⟨cs :: done, group, rest, f, rfl, completes_append hcompletes hdone, ?_, ?_⟩
        · rw [List.flatten_cons, executeAll_append]
          exact hfault
        · rw [List.flatten_cons, List.append_assoc, executeAll_append]
          exact hperform
    · refine Or.inr ⟨[], cs, css', f, rfl, nofun, ?_, ?_⟩
      · exact hvs ▸ List.mem_append_right _ List.mem_cons_self
      · rw [hvs, Group.joined_append_error]
        rfl

end Editor

/-! ## Tests -/

/-- what comes of a test that starts from a document, of which the calls of each step are known: `e` is the editor on
that document, `e'` the editor after the test -/
structure SuiteTest.IsSequential (t : SuiteTest) (names : CommandNames) (calls : List (List Call)) (e e' : Editor)
    (x : TestReport) : Prop where
  /-- the test passes or fails, or it is an error -/
  decided : Outcome.of x.result ≠ .skipped
  /-- however long the commands take, the steps come to this editor, and to an error if the test is one -/
  timed : ∃ r, (∀ takes e'' r', e.PerformsAll names takes t.steps e'' r' ↔ e'' = e' ∧ r' = r) ∧
    (r = .ok () ↔ Outcome.of x.result ≠ .error)
  /-- a test that passes or fails has made all calls of its steps, and leaves what they leave one after another -/
  whole : Outcome.of x.result = .passed ∨ Outcome.of x.result = .failed →
    x.calls = calls.flatten ∧ e' = (e.executeAll calls.flatten).1
  /-- one that is an error has made the calls up to the first step in which one fails, and in that step those of known
  commands -/
  broken : Outcome.of x.result = .error → ∃ done group rest, calls = done ++ group :: rest ∧
    e.Completes done.flatten ∧ ¬(e.executeAll done.flatten).1.Completes group ∧
    x.calls = done.flatten ++ group.filter e.knows ∧ e' = (e.executeAll (done.flatten ++ group)).1

namespace SuiteTest

variable {t : SuiteTest} {names : CommandNames} {calls : List (List Call)} {e : Editor} {d : DocState}

theorem outcome_of_completed {e' : Editor}
    (h : ({ e with state := d } : Editor).performAll names t.steps = (e', .ok ())) :
    Outcome.of (t.endsFrom names e d).2 = .passed ∨ Outcome.of (t.endsFrom names e d).2 = .failed := by
  simp only [endsFrom, h]
  cases t.expected.mismatch? e'.state with
  | none => exact Or.inl rfl
  | some m => exact Or.inr rfl

theorem outcome_of_fault {e' : Editor} {f : EditorFault}
    (h : ({ e with state := d } : Editor).performAll names t.steps = (e', .error (.editor f))) :
    Outcome.of (t.endsFrom names e d).2 = .error := by
  simp only [endsFrom, h]
  rfl

theorem drop_history (e : Editor) (cs : List Call) :
    (e.executeAll cs).1.history.drop e.history.length = cs.filter e.knows := by
  rw [(Editor.history_executeAll e cs).1, List.drop_left]

/-- A test of which all starts ascend is sequential. -/
theorem sequential_of_ascending (ascending : ∀ step ∈ t.steps, step.IsAscending)
    (evaluated : t.steps.mapM (TestStep.calls names) = .ok calls) {x : TestReport}
    (result : x.result = (t.endsFrom names e d).2)
    (history : x.calls = (t.endsFrom names e d).1.history.drop e.history.length) :
    t.IsSequential names calls { e with state := d } (t.endsFrom names e d).1 x := by
  rw [endsFrom_fst] at history ⊢
  rcases Editor.performAll_of_ascending (e := { e with state := d }) ascending evaluated with
    ⟨hcompletes, hperform⟩ | ⟨done, group, rest, f, hcalls, hdone, hfault, hperform⟩
  · have houtcome := outcome_of_completed hperform
    rw [← result] at houtcome
    have hne : Outcome.of x.result ≠ .error := by rcases houtcome with h | h <;> simp [h]
    rw [hperform] at history ⊢
    refine ⟨by rcases houtcome with h | h <;> simp [h],
      ⟨.ok (), Editor.performsAll_iff_of_performAll hperform, by simp [hne]⟩, fun _ => ⟨?_, rfl⟩,
      fun h => absurd h hne⟩
    · exact history.trans ((drop_history _ _).trans (Editor.filter_knows hcompletes))
  · have houtcome := outcome_of_fault hperform
    rw [← result] at houtcome
    rw [hperform] at history ⊢
    refine ⟨by simp [houtcome],
      ⟨.error (.editor f), Editor.performsAll_iff_of_performAll hperform, by simp [houtcome]⟩, by simp [houtcome],
      fun _ => ⟨done, group, rest, hcalls, hdone, fun h => ?_, ?_, rfl⟩⟩
    · obtain ⟨v, hv⟩ := h _ hfault
      cases hv
    · refine history.trans ((drop_history { e with state := d } _).trans ?_)
      rw [List.filter_append, Editor.filter_knows hdone]

end SuiteTest

namespace Suite

/-- **Typed groups behave like calls one after another**, in the order of the text. -/
theorem typed_groups_sequential {settings : Settings} {name text : Text} {suite : Suite}
    (compiled : compile settings name text = .ok suite) (stagger : 0 ≤ settings.generator.typeStagger)
    (positive : ∀ ms, settings.generator.waitTimeout = some ms → 0 < ms) {t : SuiteTest} (ht : t ∈ suite.tests)
    {calls : List (List Call)} (evaluated : t.steps.mapM (TestStep.calls settings.commands) = .ok calls)
    {s : Session} (own : s.graph.find? t.title = some (t.node .pending)) {before : Node}
    (pred : s.graph.Finds t.comesAfter before) {d : DocState} (resolved : before.yielded = some d) :
    (∃ spec r tr, Spec.read text = .ok spec ∧ spec.resolve = .ok r ∧ tr ∈ r.tests ∧
      t.IsPerforming settings.commands tr) ∧
      t.IsSequential settings.commands calls { s.editor with state := d } (s.report settings t).1.editor
        (s.report settings t).2 := by
  obtain ⟨performing, ascending⟩ := performing_of_compile compiled ht
  refine ⟨performing, ?_⟩
  have hstatus : before.status = .resolved := by
    by_contra h
    rw [Node.yielded, if_neg h] at resolved
    cases resolved
  have hends : t.ends settings s.editor before = t.endsFrom settings.commands s.editor d := by
    rw [SuiteTest.ends, if_neg (by rw [hstatus]; decide), resolved]
  have hreport := Session.report_eq own pred positive
  have heditor : (s.report settings t).1.editor = (t.endsFrom settings.commands s.editor d).1 := by
    rw [← hends]
    exact (congrArg (fun r => r.1.editor) (Session.runTest_eq own pred positive)).trans Session.editor_settled
  rw [hends] at hreport
  rw [heditor]
  exact SuiteTest.sequential_of_ascending (ascending stagger) evaluated (by rw [hreport]) (by rw [hreport])

/-! ## A group that fails -/

/-- a spec with a step that fails while a character is typed, and a step behind it -/
def interruptedText : Text :=
  let fence : Text := "\x60\x60\x60"
  Text.unlines ["# A", fence, ['|'], fence, "# B", "[to](#A)", "> normal.behavior <- caret", "- insert.a", "- type:b",
    "- fail.now", "- type:c", "- insert.a", fence, "XbcX|", fence]

def interruptedTest : SuiteTest where
  function := "test_a_to_b"
  title := "B"
  comesAfter := "A"
  steps :=
    [.configure ⟨.normal, .caret⟩, .invoke ⟨"insert.a", none, 0⟩ [⟨"type", some "\x7b\"text\": \"b\"\x7d", 20⟩],
      .invoke ⟨"fail.now", none, 0⟩ [⟨"type", some "\x7b\"text\": \"c\"\x7d", 20⟩],
      .invoke ⟨"insert.a", none, 0⟩ []]
  expected := .make "XbcX" [.caret ⟨0, 4⟩]

def interrupted : Suite := ⟨"s", [⟨"A", .make [] [.caret ⟨0, 0⟩]⟩], [interruptedTest], .default⟩

def interruptedStart : Session :=
  ⟨⟨interrupted.seeds.map Seed.node ++ interrupted.tests.map (SuiteTest.node · .pending)⟩, Host.standard.openEditor.1⟩

def interruptedCalls : List (List Call) :=
  let typing (c : Text) : Call := ⟨"type", [.dict [(.str "text", .str c)]]⟩
  [[⟨"dance.dev.setSelectionBehavior", [.dict [(.str "mode", .str "normal"), (.str "value", .str "caret")]]⟩],
    [⟨"insert.a", []⟩, typing "b"], [⟨"fail.now", []⟩, typing "c"], [⟨"insert.a", []⟩]]

theorem compile_interrupted : compile .default "s" interruptedText = .ok interrupted := by decide +kernel

theorem typed_groups_sequential_interrupted :
    let report := interruptedStart.report .default interruptedTest
    interruptedTest.IsSequential Settings.default.commands interruptedCalls
        { interruptedStart.editor with state := .make [] [.caret ⟨0, 0⟩] } report.1.editor report.2 ∧
      Outcome.of report.2.result = .error ∧ report.2.calls = (interruptedCalls.take 3).flatten ∧
      report.2.document = "Xbc|" := by
  have own : interruptedStart.graph.find? interruptedTest.title = some (interruptedTest.node .pending) := by
    decide +kernel
  have pred : interruptedStart.graph.Finds interruptedTest.comesAfter (Seed.node ⟨"A", .make [] [.caret ⟨0, 0⟩]⟩) :=
    ⟨by decide +kernel, Seed.isCoherent_node _⟩
  refine ⟨(typed_groups_sequential compile_interrupted (by decide) (by decide) List.mem_cons_self (by decide +kernel)
    own pred rfl).2, ?_, ?_, ?_⟩
  · decide +kernel
  · decide +kernel
  · decide +kernel

end Suite

end CursorSpec
