/-
How one test ends.

A test reads two things: the editor, and the node it comes after. `SuiteTest.ends` is what becomes of the editor and how
the test ends, a function of these two; `Session.settled` is what the session becomes with that end. While the test's
own node is pending, running the test is nothing else (`runTest_eq`), so all that a test can do is said by the cases of
`ends` (`ends_cases`) and by the lemmas about `settled`: it settles its own node by its result, or leaves it pending,
and keeps every other node.
-/
import CursorSpec.Proofs.Run.Steps
import CursorSpec.Proofs.Suite.Loading

namespace CursorSpec

/-! ## Waiting -/

namespace Graph

/-- A wait that nothing interrupts depends on its node alone. -/
theorem waitAlone_of_finds {g : Graph} {title : Text} {n : Node} {limit : Option Int} (h : g.Finds title n)
    (positive : ∀ ms, limit = some ms → 0 < ms) :
    g.waitAlone title limit =
      if n.status = .pending then limit.elim .stalled fun ms => .ended (.error (.timeout title ms))
      else .ended (.ok n.yielded) := by
  have hlimit : (limit.any fun ms => ms ≤ 0) = false := by
    cases limit with
    | none => rfl
    | some ms =>
      have hms := positive ms rfl
      simpa using hms
  have hbegin : g.beginWait 0 title limit =
      if n.status = .pending then .waiting (limit.map fun ms => (0 + ms, ms)) else .ended (.ok n.yielded) := by
    rw [beginWait, node_of_find? h.node]
    by_cases hn : n.status = .pending
    · have hsettled : ¬n.settled = true := fun hs => h.coherent.1 hs hn
      simp only [hlimit, hsettled, hn, Bool.false_eq_true, if_false, if_true]
    · simp only [hlimit, h.coherent.2 hn, hn, Bool.false_eq_true, if_false, if_true]
  rw [waitAlone, hbegin]
  by_cases hn : n.status = .pending
  · rw [if_pos hn, if_pos hn]
    cases limit with
    | none => rfl
    | some ms => rfl
  · rw [if_neg hn, if_neg hn]

end Graph

/-! ## Ends of tests -/

namespace NodeStatus

/-- how a test's end leaves its node -/
def ofResult : Except TestFault Unit → NodeStatus
  | .ok _ => .resolved
  | .error .skipped => .skipped
  | .error .stalled => .pending
  | .error _ => .failed

theorem ofResult_eq_resolved_iff (r : Except TestFault Unit) : ofResult r = .resolved ↔ Outcome.of r = .passed := by
  rcases r with f | u
  · cases f <;> simp [ofResult, Outcome.of]
  · simp [ofResult, Outcome.of]

theorem ofResult_eq_skipped_iff (r : Except TestFault Unit) : ofResult r = .skipped ↔ Outcome.of r = .skipped := by
  rcases r with f | u
  · cases f <;> simp [ofResult, Outcome.of]
  · simp [ofResult, Outcome.of]

theorem ofResult_eq_pending_iff (r : Except TestFault Unit) : ofResult r = .pending ↔ r = .error .stalled := by
  rcases r with f | u
  · cases f <;> simp [ofResult]
  · simp [ofResult]

theorem ofResult_eq_failed_iff (r : Except TestFault Unit) :
    ofResult r = .failed ↔ r ≠ .error .stalled ∧ (Outcome.of r = .failed ∨ Outcome.of r = .error) := by
  rcases r with f | u
  · cases f <;> simp [ofResult, Outcome.of]
  · simp [ofResult, Outcome.of]

end NodeStatus

namespace SuiteTest

/-- the editor after the steps of a test from a document, and how the test ends -/
def endsFrom (t : SuiteTest) (names : CommandNames) (e : Editor) (d : DocState) : Editor × Except TestFault Unit :=
  match { e with state := d }.performAll names t.steps with
  | (e, .error f) => (e, .error f)
  | (e, .ok _) =>
    match t.expected.mismatch? e.state with
    | some m => (e, .error (.mismatch m))
    | none => (e, .ok ())

/-- the editor after a test, and how the test ends, by the node that it comes after -/
def ends (t : SuiteTest) (settings : Settings) (e : Editor) (before : Node) : Editor × Except TestFault Unit :=
  if before.status = .pending then
    match settings.generator.waitTimeout with
    | none => (e, .error .stalled)
    | some ms => (e, .error (.graph (.timeout t.comesAfter ms)))
  else
    match before.yielded with
    | none => (e, .error .skipped)
    | some d => t.endsFrom settings.commands e d

/-- The steps of a test reach its document, or they fail, or they reach another document. -/
theorem endsFrom_cases (t : SuiteTest) (names : CommandNames) (e : Editor) (d : DocState) :
    ((t.endsFrom names e d).2 = .ok () ∧ (t.endsFrom names e d).1.state = t.expected) ∨
      (∃ f, Editor.IsStepFault f ∧ (t.endsFrom names e d).2 = .error f) ∨
      ∃ m, (t.endsFrom names e d).2 = .error (.mismatch m) := by
  unfold endsFrom
  rcases h : ({ e with state := d } : Editor).performAll names t.steps with ⟨e', f | u⟩
  · exact Or.inr (Or.inl ⟨f, Editor.isStepFault_of_performAll (by rw [h]), rfl⟩)
  · cases hm : t.expected.mismatch? e'.state with
    | some m => exact Or.inr (Or.inr ⟨m, by simp only [hm]⟩)
    | none =>
      have hstate := (DocState.mismatch?_eq_none_iff _ _).1 hm
      exact Or.inl ⟨by simp only [hm], by simp only [hm]; exact hstate⟩

/-- **What a test can do**: stall or run out of time at a pending node, be skipped at a node without a document, or
perform its steps on the document of a resolved one. -/
theorem ends_cases (t : SuiteTest) (settings : Settings) (e : Editor) (before : Node) :
    (before.status = .pending ∧ settings.generator.waitTimeout = none ∧
        t.ends settings e before = (e, .error .stalled)) ∨
      (∃ ms, before.status = .pending ∧ settings.generator.waitTimeout = some ms ∧
        t.ends settings e before = (e, .error (.graph (.timeout t.comesAfter ms)))) ∨
      (before.status ≠ .pending ∧ before.yielded = none ∧ t.ends settings e before = (e, .error .skipped)) ∨
      ∃ d, before.status ≠ .pending ∧ before.yielded = some d ∧
        t.ends settings e before = t.endsFrom settings.commands e d := by
  unfold ends
  by_cases h : before.status = .pending
  · rw [if_pos h]
    cases hlimit : settings.generator.waitTimeout with
    | none => exact Or.inl ⟨h, rfl, rfl⟩
    | some ms => exact Or.inr (Or.inl ⟨ms, h, rfl, rfl⟩)
  · rw [if_neg h]
    cases hd : before.yielded with
    | none => exact Or.inr (Or.inr (Or.inl ⟨h, rfl, rfl⟩))
    | some d => exact Or.inr (Or.inr (Or.inr ⟨d, h, rfl, rfl⟩))

/-- how a test ends: it stalls or runs out of time at a pending node, or it is skipped, passes, or fails at a step or at
the end -/
theorem ends_result_cases (t : SuiteTest) (settings : Settings) (e : Editor) (before : Node) :
    (before.status = .pending ∧ settings.generator.waitTimeout = none ∧
        (t.ends settings e before).2 = .error .stalled) ∨
      (∃ ms, before.status = .pending ∧ settings.generator.waitTimeout = some ms ∧
        (t.ends settings e before).2 = .error (.graph (.timeout t.comesAfter ms))) ∨
      (before.status ≠ .pending ∧
        ((t.ends settings e before).2 = .error .skipped ∨
          ((t.ends settings e before).2 = .ok () ∧ (t.ends settings e before).1.state = t.expected) ∨
          (∃ f, Editor.IsStepFault f ∧ (t.ends settings e before).2 = .error f) ∨
          ∃ m, (t.ends settings e before).2 = .error (.mismatch m))) := by
  rcases t.ends_cases settings e before with ⟨h, hlimit, hends⟩ | ⟨ms, h, hlimit, hends⟩ | ⟨h, -, hends⟩ |
    ⟨d, h, -, hends⟩
  · exact Or.inl ⟨h, hlimit, by rw [hends]⟩
  · exact Or.inr (Or.inl ⟨ms, h, hlimit, by rw [hends]⟩)
  · exact Or.inr (Or.inr ⟨h, Or.inl (by rw [hends])⟩)
  · rw [hends]
    exact Or.inr (Or.inr ⟨h, Or.inr (t.endsFrom_cases settings.commands e d)⟩)

section

variable (t : SuiteTest) (settings : Settings) (e : Editor) (before : Node)

theorem ends_ne_alreadySettled (title : Text) (status : NodeStatus) :
    (t.ends settings e before).2 ≠ .error (.graph (.alreadySettled title status)) := by
  rcases t.ends_result_cases settings e before with ⟨-, -, h⟩ | ⟨ms, -, -, h⟩ |
    ⟨-, h | ⟨h, -⟩ | ⟨f, ⟨x, rfl⟩ | ⟨x, rfl⟩, h⟩ | ⟨m, h⟩⟩
  all_goals
    rw [h]
    intro heq
    cases heq

theorem ends_eq_stalled_iff :
    (t.ends settings e before).2 = .error .stalled ↔
      settings.generator.waitTimeout = none ∧ before.status = .pending := by
  rcases t.ends_result_cases settings e before with ⟨hpending, hlimit, h⟩ | ⟨ms, hpending, hlimit, h⟩ |
    ⟨hpending, h | ⟨h, -⟩ | ⟨f, ⟨x, rfl⟩ | ⟨x, rfl⟩, h⟩ | ⟨m, h⟩⟩
  · simp [h, hpending, hlimit]
  · simp [h, hlimit]
  all_goals simp [h, hpending]

theorem ends_eq_timeout_iff :
    (∃ title ms, (t.ends settings e before).2 = .error (.graph (.timeout title ms))) ↔
      settings.generator.waitTimeout ≠ none ∧ before.status = .pending := by
  rcases t.ends_result_cases settings e before with ⟨hpending, hlimit, h⟩ | ⟨ms, hpending, hlimit, h⟩ |
    ⟨hpending, h | ⟨h, -⟩ | ⟨f, ⟨x, rfl⟩ | ⟨x, rfl⟩, h⟩ | ⟨m, h⟩⟩
  · simp [h, hlimit]
  · simp [h, hpending, hlimit]
  all_goals simp [h, hpending]

theorem ends_eq_skipped_iff :
    (t.ends settings e before).2 = .error .skipped ↔ before.status ≠ .pending ∧ before.yielded = none := by
  rcases t.ends_cases settings e before with ⟨hpending, -, h⟩ | ⟨ms, hpending, -, h⟩ | ⟨hpending, hnone, h⟩ |
    ⟨d, hpending, hsome, h⟩
  · simp [h, hpending]
  · simp [h, hpending]
  · simp [h, hpending, hnone]
  · rcases t.endsFrom_cases settings.commands e d with ⟨hr, -⟩ | ⟨f, ⟨x, rfl⟩ | ⟨x, rfl⟩, hr⟩ | ⟨m, hr⟩
    all_goals simp [h, hr, hsome]

theorem state_of_passed (h : Outcome.of (t.ends settings e before).2 = .passed) :
    (t.ends settings e before).1.state = t.expected := by
  rcases t.ends_result_cases settings e before with ⟨-, -, hr⟩ | ⟨ms, -, -, hr⟩ |
    ⟨-, hr | ⟨-, hstate⟩ | ⟨f, ⟨x, rfl⟩ | ⟨x, rfl⟩, hr⟩ | ⟨m, hr⟩⟩
  case inr.inr.inr.inl => exact hstate
  all_goals
    rw [hr] at h
    cases h

end

/-- The editor after a test that is performed is the editor after its steps. -/
theorem endsFrom_fst (t : SuiteTest) (names : CommandNames) (e : Editor) (d : DocState) :
    (t.endsFrom names e d).1 = (({ e with state := d } : Editor).performAll names t.steps).1 := by
  unfold endsFrom
  rcases ({ e with state := d } : Editor).performAll names t.steps with ⟨e', f | u⟩
  · rfl
  · cases hm : t.expected.mismatch? e'.state with
    | some m => simp only [hm]
    | none => simp only [hm]

/-- A test never changes what the editor knows. -/
theorem commands_ends (t : SuiteTest) (settings : Settings) (e : Editor) (before : Node) :
    (t.ends settings e before).1.commands = e.commands := by
  rcases t.ends_cases settings e before with ⟨-, -, h⟩ | ⟨ms, -, -, h⟩ | ⟨-, -, h⟩ | ⟨d, -, -, h⟩
  · rw [h]
  · rw [h]
  · rw [h]
  · rw [h, endsFrom_fst, Editor.commands_performAll]

section

variable {a b : Editor} (hcommands : a.commands = b.commands)

include hcommands

theorem endsFrom_alike (t : SuiteTest) (names : CommandNames) (d : DocState) :
    (t.endsFrom names a d).2 = (t.endsFrom names b d).2 ∧
      Editor.Alike b.commands a.history b.history (t.endsFrom names a d).1 (t.endsFrom names b d).1 := by
  obtain ⟨hresult, halike⟩ := Editor.performAll_alike (a := { a with state := d }) (b := { b with state := d }) rfl
    hcommands names t.steps
  unfold endsFrom
  rcases ha : ({ a with state := d } : Editor).performAll names t.steps with ⟨a', ra⟩
  rcases hb : ({ b with state := d } : Editor).performAll names t.steps with ⟨b', rb⟩
  rw [ha, hb] at hresult halike
  cases (hresult : ra = rb)
  have hstate : a'.state = b'.state := halike.state
  cases ra with
  | error f => exact ⟨rfl, halike⟩
  | ok u =>
    simp only [hstate]
    cases t.expected.mismatch? b'.state with
    | some m => exact ⟨rfl, halike⟩
    | none => exact ⟨rfl, halike⟩

/-- **What a test depends on**: the node that it comes after, and the commands that the editor knows. Nothing else that
earlier tests left makes a difference to how it ends and to the calls that it makes, nor to the document if it is
performed. -/
theorem ends_alike (t : SuiteTest) (settings : Settings) (before : Node) :
    (t.ends settings a before).2 = (t.ends settings b before).2 ∧
      (∃ calls, (t.ends settings a before).1.history = a.history ++ calls ∧
        (t.ends settings b before).1.history = b.history ++ calls) ∧
      (before.status ≠ .pending → (t.ends settings a before).2 ≠ .error .skipped →
        (t.ends settings a before).1.state = (t.ends settings b before).1.state) := by
  unfold ends
  by_cases h : before.status = .pending
  · rw [if_pos h, if_pos h]
    cases settings.generator.waitTimeout with
    | none => exact ⟨rfl, ⟨[], by simp, by simp⟩, fun hn => absurd h hn⟩
    | some ms => exact ⟨rfl, ⟨[], by simp, by simp⟩, fun hn => absurd h hn⟩
  · rw [if_neg h, if_neg h]
    cases before.yielded with
    | none => exact ⟨rfl, ⟨[], by simp, by simp⟩, fun _ hn => absurd rfl hn⟩
    | some d =>
      obtain ⟨hresult, halike⟩ := endsFrom_alike hcommands t settings.commands d
      exact ⟨hresult, halike.calls, fun _ _ => halike.state⟩

end

end SuiteTest

/-! ## Settling -/

namespace Session

/-- the session after a test that ended so: its node settled by the result, unless the test stalled -/
def settled (s : Session) (t : SuiteTest) (e : Editor × Except TestFault Unit) : Session :=
  if NodeStatus.ofResult e.2 = .pending then { s with editor := e.1 }
  else ⟨s.graph.put t.title (.ofResult e.2) (t.node (.ofResult e.2)).state, e.1⟩

variable {s : Session} {t : SuiteTest} {e : Editor × Except TestFault Unit}

theorem editor_settled : (s.settled t e).editor = e.1 := by
  unfold settled
  split <;> rfl

theorem titles_settled : (s.settled t e).graph.titles = s.graph.titles := by
  unfold settled
  split
  · rfl
  · exact Graph.titles_put _ _ _ _

/-- A test leaves its own node as its result says. -/
theorem find?_settled_self (own : s.graph.find? t.title = some (t.node .pending)) :
    (s.settled t e).graph.find? t.title = some (t.node (.ofResult e.2)) := by
  unfold settled
  split
  · next h => rw [h]; exact own
  · next h =>
    refine (Graph.find?_put_self own _ _).trans (congrArg some ?_)
    simp [Node.settledAs, SuiteTest.node, h]

/-- A test leaves the nodes of other titles as they are. -/
theorem find?_settled_of_ne {x : Text} (h : x ≠ t.title) :
    (s.settled t e).graph.find? x = s.graph.find? x := by
  unfold settled
  split
  · rfl
  · exact Graph.find?_put_of_ne h _ _

theorem failing_eq (own : s.graph.find? t.title = some (t.node .pending)) {f : TestFault}
    (hf : NodeStatus.ofResult (.error f) = .failed) :
    s.failing t.title f = (s.settled t (s.editor, .error f), .error f) := by
  unfold failing Graph.fail settled
  rw [Graph.settle_of_pending own rfl, hf]
  rfl

theorem skipping_eq (own : s.graph.find? t.title = some (t.node .pending)) :
    s.skipping t.title = (s.settled t (s.editor, .error .skipped), .error .skipped) := by
  unfold skipping Graph.skip settled
  rw [Graph.settle_of_pending own rfl]
  rfl

theorem resolving_eq (own : s.graph.find? t.title = some (t.node .pending)) :
    s.resolving t = (s.settled t (s.editor, .ok ()), .ok ()) := by
  unfold resolving Graph.resolve settled
  rw [Graph.settle_of_pending own rfl]
  rfl

theorem ofResult_of_isStepFault {f : TestFault} (h : Editor.IsStepFault f) :
    NodeStatus.ofResult (.error f) = .failed := by
  rcases h with ⟨x, rfl⟩ | ⟨x, rfl⟩
  · rfl
  · rfl

theorem runFrom_eq (own : s.graph.find? t.title = some (t.node .pending)) (names : CommandNames) (d : DocState) :
    s.runFrom names t d = (s.settled t (t.endsFrom names s.editor d), (t.endsFrom names s.editor d).2) := by
  unfold runFrom SuiteTest.endsFrom
  rcases h : ({ s.editor with state := d } : Editor).performAll names t.steps with ⟨e', f | u⟩
  · have hf := ofResult_of_isStepFault (Editor.isStepFault_of_performAll (f := f) (by rw [h]))
    exact failing_eq (s := { s with editor := e' }) own hf
  · cases hm : t.expected.mismatch? e'.state with
    | some m =>
      simp only [hm]
      exact failing_eq (s := { s with editor := e' }) own rfl
    | none =>
      simp only [hm]
      exact resolving_eq (s := { s with editor := e' }) own

/-- **A test whose node is pending** ends as the node says that it comes after, and settles its own node so. -/
theorem runTest_eq {settings : Settings} {before : Node} (own : s.graph.find? t.title = some (t.node .pending))
    (pred : s.graph.Finds t.comesAfter before)
    (positive : ∀ ms, settings.generator.waitTimeout = some ms → 0 < ms) :
    s.runTest settings t = (s.settled t (t.ends settings s.editor before), (t.ends settings s.editor before).2) := by
  have hwait := Graph.waitAlone_of_finds pred positive
  rcases t.ends_cases settings s.editor before with ⟨h, hlimit, hends⟩ | ⟨ms, h, hlimit, hends⟩ | ⟨h, hd, hends⟩ |
    ⟨d, h, hd, hends⟩
  · rw [if_pos h, hlimit] at hwait
    rw [hends]
    simp only [runTest, hlimit, hwait, Option.elim]
    rfl
  · rw [if_pos h, hlimit] at hwait
    rw [hends]
    simp only [runTest, hlimit, hwait, Option.elim]
    exact failing_eq own rfl
  · rw [if_neg h, hd] at hwait
    rw [hends]
    simp only [runTest, hwait]
    exact skipping_eq own
  · rw [if_neg h, hd] at hwait
    rw [hends]
    simp only [runTest, hwait]
    exact runFrom_eq own settings.commands d

/-- What is reported of a test whose node is pending. -/
theorem report_eq {settings : Settings} {before : Node} (own : s.graph.find? t.title = some (t.node .pending))
    (pred : s.graph.Finds t.comesAfter before)
    (positive : ∀ ms, settings.generator.waitTimeout = some ms → 0 < ms) :
    (s.report settings t).2 =
      ⟨t.function, (t.ends settings s.editor before).2, some (.ofResult (t.ends settings s.editor before).2),
        (t.ends settings s.editor before).1.history.drop s.editor.history.length,
        (t.ends settings s.editor before).1.state.render⟩ := by
  unfold report
  rw [runTest_eq own pred positive]
  simp only [find?_settled_self own, editor_settled, Option.map_some, SuiteTest.node]

end Session

end CursorSpec
