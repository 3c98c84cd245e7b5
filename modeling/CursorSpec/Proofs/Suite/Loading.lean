/-
What a compiled suite takes from its spec, and what a loaded module relies on.

- Compiling keeps the entries in order: each seed and each test has the title of its entry and the document that the
  entry's own block spells (`of_compile`). So the document of a seed or test is that of the entry of its title
  (`entry?_of_mem_seeds`, `entry?_of_mem_tests`).
- Loading fills the graph: `load_eq_ok` says which nodes there are, that titles are distinct and that every test comes
  after a seed or after a test declared before it.
-/
import CursorSpec.Proofs.Except
import CursorSpec.Proofs.Graph.Nodes
import CursorSpec.Run.Suite

namespace CursorSpec

/-! ## Lists that correspond -/

section Corresponding

variable {α β κ : Type} {R : α → β → Prop}

theorem getElem?_of_forall₂ {xs : List α} {ys : List β} (h : List.Forall₂ R xs ys) {i : Nat} {x : α}
    (hx : xs[i]? = some x) : ∃ y, ys[i]? = some y ∧ R x y := by
  induction h generalizing i with
  | nil => simp at hx
  | @cons a b as bs hab _ ih =>
    cases i with
    | zero =>
      rw [List.getElem?_cons_zero, Option.some.injEq] at hx
      exact ⟨b, rfl, hx ▸ hab⟩
    | succ i => exact ih hx

/-- Of two lists that correspond and agree on keys, the first elements of a key correspond. -/
theorem find?_of_forall₂ [DecidableEq κ] {f : α → κ} {g : β → κ} (key : ∀ x y, R x y → f x = g y) (k : κ)
    {xs : List α} {ys : List β} (h : List.Forall₂ R xs ys) :
    Option.Rel R (xs.find? fun x => f x = k) (ys.find? fun y => g y = k) := by
  induction h with
  | nil => exact Option.Rel.none
  | @cons a b as bs hab _ ih =>
    have hkey := key a b hab
    by_cases hk : g b = k
    · simpa [hkey, hk] using Option.Rel.some hab
    · simpa [hkey, hk] using ih

end Corresponding

/-! ## Compiling -/

namespace Seed

/-- whether a seed is made of an initial state: its title, and the document that its block spells -/
def IsOf (x : Seed) (i : InitialState) : Prop := x.title = i.title ∧ Document.decode i.content = .ok x.state

end Seed

namespace SuiteTest

/-- whether a test is made of a transition: its title, what it comes after, and the document that its block spells -/
def IsOf (x : SuiteTest) (t : Transition) : Prop :=
  x.title = t.title ∧ x.comesAfter = t.comesAfter ∧ Document.decode t.content = .ok x.expected

end SuiteTest

namespace Suite

theorem decode_of_document {e : Entry} {d : DocState} (h : e.document = .ok d) : Document.decode e.content = .ok d :=
  mapError_eq_ok_iff.1 h

theorem forall₂_of_seedsOf {is : List InitialState} {xs : List Seed} (h : seedsOf is = .ok xs) :
    List.Forall₂ Seed.IsOf xs is := by
  induction is generalizing xs with
  | nil => cases h; exact List.Forall₂.nil
  | cons i is ih =>
    rw [seedsOf] at h
    obtain ⟨d, hd, h⟩ := bind_eq_ok_iff.1 h
    obtain ⟨ys, hys, h⟩ := bind_eq_ok_iff.1 h
    cases h
    exact List.Forall₂.cons ⟨rfl, decode_of_document hd⟩ (ih hys)

theorem forall₂_of_testsOf {settings : Settings} {used : List Text} {ts : List Transition} {xs : List SuiteTest}
    (h : testsOf settings used ts = .ok xs) :
    List.Forall₂ (fun x t => x.IsOf t ∧ t.steps settings.commands settings.generator.typeStagger = .ok x.steps)
      xs ts := by
  induction ts generalizing used xs with
  | nil => cases h; exact List.Forall₂.nil
  | cons t ts ih =>
    rw [testsOf] at h
    obtain ⟨steps, hsteps, h⟩ := bind_eq_ok_iff.1 h
    obtain ⟨d, hd, h⟩ := bind_eq_ok_iff.1 h
    obtain ⟨ys, hys, h⟩ := bind_eq_ok_iff.1 h
    cases h
    exact List.Forall₂.cons ⟨⟨rfl, rfl, decode_of_document hd⟩, hsteps⟩ (ih hys)

structure IsOf (s : Suite) (settings : Settings) (r : ResolvedSpec) : Prop where
  settings_eq : s.settings = settings
  seeds : List.Forall₂ Seed.IsOf s.seeds r.setups
  tests : List.Forall₂ SuiteTest.IsOf s.tests r.tests

/-- **A suite is compiled from the entries of its text.** -/
theorem of_compile {settings : Settings} {name text : Text} {s : Suite} (h : compile settings name text = .ok s) :
    ∃ spec r, Spec.read text = .ok spec ∧ spec.resolve = .ok r ∧ s.IsOf settings r := by
  obtain ⟨spec, hspec, h⟩ := bind_eq_ok_iff.1 h
  obtain ⟨r, hr, h⟩ := bind_eq_ok_iff.1 h
  obtain ⟨seeds, hseeds, h⟩ := bind_eq_ok_iff.1 h
  obtain ⟨tests, htests, h⟩ := bind_eq_ok_iff.1 h
  cases h
  exact ⟨spec, r, hspec, hr, rfl, forall₂_of_seedsOf hseeds, (forall₂_of_testsOf htests).imp fun _ _ h => h.1⟩

def titles (s : Suite) : List Text := s.seeds.map (·.title) ++ s.tests.map (·.title)

theorem entry?_of_mem_seeds {s : Suite} {settings : Settings} {r : ResolvedSpec} (h : s.IsOf settings r)
    (distinct : s.titles.Nodup) {x : Seed} (hx : x ∈ s.seeds) :
    ∃ e, r.entry? x.title = some e ∧ Document.decode e.content = .ok x.state := by
  have hfind := find?_of_nodup_map (List.nodup_append.1 distinct).1 hx
  have hrel := find?_of_forall₂ (f := Seed.title) (g := InitialState.title) (fun _ _ h => h.1) x.title h.seeds
  rw [hfind] at hrel
  cases hi : r.setups.find? fun i => i.title = x.title with
  | none => rw [hi] at hrel; cases hrel
  | some i =>
    rw [hi] at hrel
    cases hrel with
    | some hof => exact ⟨.initial i, by simp [ResolvedSpec.entry?, hi], hof.2⟩

theorem entry?_of_mem_tests {s : Suite} {settings : Settings} {r : ResolvedSpec} (h : s.IsOf settings r)
    (distinct : s.titles.Nodup) {x : SuiteTest} (hx : x ∈ s.tests) :
    ∃ e, r.entry? x.title = some e ∧ Document.decode e.content = .ok x.expected := by
  obtain ⟨-, htests, hdisjoint⟩ := List.nodup_append.1 distinct
  have hseed : s.seeds.find? (fun y => decide (y.title = x.title)) = none :=
    find?_eq_none_of_notMem fun hmem => hdisjoint _ hmem _ (List.mem_map_of_mem hx) rfl
  have hrel := find?_of_forall₂ (f := Seed.title) (g := InitialState.title) (fun _ _ h => h.1) x.title h.seeds
  have hrel' := find?_of_forall₂ (f := SuiteTest.title) (g := Transition.title) (fun _ _ h => h.1) x.title h.tests
  rw [hseed] at hrel
  rw [find?_of_nodup_map htests hx] at hrel'
  cases hi : r.setups.find? fun i => i.title = x.title with
  | some i => rw [hi] at hrel; cases hrel
  | none =>
    cases ht : r.tests.find? fun t => t.title = x.title with
    | none => rw [ht] at hrel'; cases hrel'
    | some t =>
      rw [ht] at hrel'
      cases hrel' with
      | some hof => exact ⟨.transition t, by simp [ResolvedSpec.entry?, hi, ht], hof.2.2⟩

end Suite

/-! ## Loading -/

namespace Seed

def node (x : Seed) : Node := (Node.fresh x.title none).settledAs .resolved (some x.state)

theorem isCoherent_node (x : Seed) : x.node.IsCoherent := Node.isCoherent_settledAs _ (by decide) _

end Seed

namespace SuiteTest

/-- the node of a test that stands so; only a resolved one has a document -/
def node (t : SuiteTest) (status : NodeStatus) : Node :=
  ⟨t.title, some t.comesAfter, status, if status = .resolved then some t.expected else none, status ≠ .pending⟩

theorem isCoherent_node (t : SuiteTest) (status : NodeStatus) : (t.node status).IsCoherent := by
  simp [Node.IsCoherent, node]

end SuiteTest

namespace Suite

/-- what a loaded module relies on: titles are distinct, and every test comes after a seed or after a test declared
before it -/
structure IsDeclared (s : Suite) : Prop where
  distinct : s.titles.Nodup
  after : ∀ i t, s.tests[i]? = some t →
    t.comesAfter ∈ s.seeds.map (·.title) ∨ t.comesAfter ∈ (s.tests.take i).map (·.title)

theorem foldlM_seed {xs : List Seed} {g g' : Graph}
    (h : xs.foldlM (fun g x => g.seed x.title x.state) g = .ok g') :
    g'.nodes = g.nodes ++ xs.map Seed.node ∧ (g.titles.Nodup → g'.titles.Nodup) := by
  induction xs generalizing g with
  | nil => cases h; exact ⟨by simp, id⟩
  | cons x xs ih =>
    rw [List.foldlM_cons] at h
    obtain ⟨g1, h1, h⟩ := bind_eq_ok_iff.1 h
    obtain ⟨hnew, rfl⟩ := Graph.seed_eq_ok_iff.1 h1
    obtain ⟨hnodes, hnodup⟩ := ih h
    exact ⟨by rw [hnodes]; simp [Seed.node, Node.seeded, Node.fresh, Node.settledAs],
      fun hg => hnodup (Graph.nodup_titles_concat hg hnew)⟩

theorem foldlM_declare {ts : List SuiteTest} {g g' : Graph}
    (h : ts.foldlM (fun g t => g.declare t.title t.comesAfter) g = .ok g') :
    g'.nodes = g.nodes ++ ts.map (SuiteTest.node · .pending) ∧ (g.titles.Nodup → g'.titles.Nodup) ∧
      ∀ i t, ts[i]? = some t → t.comesAfter ∈ g.titles ∨ t.comesAfter ∈ (ts.take i).map (·.title) := by
  induction ts generalizing g with
  | nil => cases h; exact ⟨by simp, id, fun i t ht => by simp at ht⟩
  | cons u ts ih =>
    rw [List.foldlM_cons] at h
    obtain ⟨g1, h1, h⟩ := bind_eq_ok_iff.1 h
    obtain ⟨hafter, hnew, rfl⟩ := Graph.declare_eq_ok_iff.1 h1
    obtain ⟨hnodes, hnodup, hdeclared⟩ := ih h
    refine ⟨by rw [hnodes]; simp [SuiteTest.node, Node.fresh], fun hg => hnodup (Graph.nodup_titles_concat hg hnew), ?_⟩
    intro i t ht
    cases i with
    | zero => cases ht; exact Or.inl hafter
    | succ i =>
      rcases hdeclared i t ht with hmem | hmem
      · rw [Graph.titles_concat, List.mem_append, List.mem_singleton] at hmem
        rcases hmem with hmem | hmem
        · exact Or.inl hmem
        · exact Or.inr (by simp [hmem])
      · exact Or.inr (List.mem_cons_of_mem _ hmem)

/-- **What loading gives**: the nodes of seeds and tests in order, none of the tests settled, and a fresh editor. -/
theorem load_eq_ok {s : Suite} {session : Session} (h : s.load = .ok session) :
    s.IsDeclared ∧ session.graph.nodes = s.seeds.map Seed.node ++ s.tests.map (SuiteTest.node · .pending) ∧
      session.editor = Host.standard.openEditor.1 := by
  unfold load loadWith at h
  split at h
  · cases h
  · split at h
    · cases h
    · obtain ⟨g, hg, h⟩ := bind_eq_ok_iff.1 h
      cases h
      obtain ⟨g1, hseeds, hdeclare⟩ := bind_eq_ok_iff.1 (mapError_eq_ok_iff.1 hg)
      obtain ⟨hnodes1, hnodup1⟩ := foldlM_seed hseeds
      obtain ⟨hnodes, hnodup, hafter⟩ := foldlM_declare hdeclare
      have htitles1 : g1.titles = s.seeds.map (·.title) := by
        rw [Graph.titles, hnodes1]
        simp [Graph.empty, Seed.node, Function.comp_def]
      have hnodes' : g.nodes = s.seeds.map Seed.node ++ s.tests.map (SuiteTest.node · .pending) := by
        rw [hnodes, hnodes1]
        rfl
      have htitles : g.titles = s.titles := by
        rw [Graph.titles, hnodes']
        simp [titles, Seed.node, SuiteTest.node, Function.comp_def]
      refine ⟨⟨?_, ?_⟩, hnodes', rfl⟩
      · rw [← htitles]
        exact hnodup (hnodup1 List.nodup_nil)
      · intro i t ht
        rw [← htitles1]
        exact hafter i t ht

/-! ## A suite that branches -/

/-- a spec with two transitions from its initial state; the first one fails, and a third one comes after it -/
def branchingText : Text :=
  let fence : Text := "\x60\x60\x60"
  Text.unlines ["# A", fence, ['|'], fence, "# B", "[to](#A)", "- fail.now", fence, ['|'], fence,
    "# C", "[to](#B)", fence, ['|'], fence, "# D", "[to](#A)", fence, ['|'], fence]

def branching : Suite where
  name := "s"
  seeds := [⟨"A", .make [] [.caret ⟨0, 0⟩]⟩]
  tests :=
    [⟨"test_a_to_b", "B", "A", [.invoke ⟨"fail.now", none, 0⟩ []], .make [] [.caret ⟨0, 0⟩]⟩,
      ⟨"test_b_to_c", "C", "B", [], .make [] [.caret ⟨0, 0⟩]⟩,
      ⟨"test_a_to_d", "D", "A", [], .make [] [.caret ⟨0, 0⟩]⟩]
  settings := .default

def branchingStart : Session :=
  ⟨⟨branching.seeds.map Seed.node ++ branching.tests.map (SuiteTest.node · .pending)⟩, Host.standard.openEditor.1⟩

theorem compile_branching : compile .default "s" branchingText = .ok branching := by decide +kernel

theorem load_branching : branching.load = .ok branchingStart := by decide +kernel

end Suite

end CursorSpec
