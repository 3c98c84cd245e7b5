/-
The graph of a spec agrees with resolving the spec.

A suite seeds a graph with its initial states and declares its transitions behind them. Nothing is resolved there, and
resolving knows of no graph, but both declare entries one after another and accept exactly those that fit
(`declares_titles`, `declares_nodes`). So both get through the same specs, and where they do not they stop at the same
entry and for the same reason: `agrees_with_graph`. For a suite that was compiled the graph is always there
(`initialGraph_of_compile`).
-/
import CursorSpec.Proofs.Spec.Resolving
import CursorSpec.Proofs.Suite.Loading

namespace CursorSpec

namespace Entry

def node (document : InitialState → DocState) : Entry → Node
  | .initial s => .seeded s.title (document s)
  | .transition t => .fresh t.title (some t.comesAfter)

theorem title_node (document : InitialState → DocState) (e : Entry) : (e.node document).title = e.title := by
  cases e with
  | initial s => rfl
  | transition t => rfl

end Entry

namespace GraphFault

/-- why a graph refuses an entry that does not fit: what it comes after is not there, or else its title is -/
structure Refuses (known : List Text) (e : Entry) (f : GraphFault) : Prop where
  twice_iff : f = .declaredTwice e.title ↔ e.IsLinked known
  unknown_iff : (∃ a, e.comesAfter? = some a ∧ f = .unknownAfter e.title a) ↔ ¬ e.IsLinked known

end GraphFault

namespace Graph

variable (document : InitialState → DocState)

/-- the call that adds the node of an entry; an initial state is seeded with its document -/
def addEntry (g : Graph) : Entry → Except GraphFault Graph
  | .initial s => g.seed s.title (document s)
  | .transition t => g.declare t.title t.comesAfter

theorem addEntry_eq_ok_iff {g g' : Graph} {e : Entry} :
    g.addEntry document e = .ok g' ↔ e.Fits g.titles ∧ g' = ⟨g.nodes ++ [e.node document]⟩ := by
  cases e with
  | initial s =>
    have hlinked : (Entry.initial s).IsLinked g.titles := nofun
    rw [addEntry, seed_eq_ok_iff]
    exact ⟨fun h => ⟨⟨hlinked, h.1⟩, h.2⟩, fun h => ⟨h.1.new, h.2⟩⟩
  | transition t =>
    have hlinked : (Entry.transition t).IsLinked g.titles ↔ t.comesAfter ∈ g.titles := by
      simp [Entry.IsLinked, Entry.comesAfter?]
    rw [addEntry, declare_eq_ok_iff]
    exact ⟨fun h => ⟨⟨hlinked.2 h.1, h.2.1⟩, h.2.2⟩, fun h => ⟨hlinked.1 h.1.linked, h.1.new, h.2⟩⟩

theorem addEntry_of_not_fits {g : Graph} {e : Entry} (h : ¬ e.Fits g.titles) :
    ∃ f, g.addEntry document e = .error f ∧ f.Refuses g.titles e := by
  cases e with
  | initial s =>
    have hlinked : (Entry.initial s).IsLinked g.titles := nofun
    have htaken : s.title ∈ g.titles := by_contra fun hnew => h ⟨hlinked, hnew⟩
    refine ⟨.declaredTwice s.title, ?_, ?_, ?_⟩
    · rw [addEntry, seed, insertSettled_of_mem htaken]
      rfl
    · exact ⟨fun _ => hlinked, fun _ => rfl⟩
    · simp [Entry.comesAfter?, hlinked]
  | transition t =>
    by_cases hafter : t.comesAfter ∈ g.titles
    · have hlinked : (Entry.transition t).IsLinked g.titles := fun a ha => Option.some.inj ha ▸ hafter
      have htaken : t.title ∈ g.titles := by_contra fun hnew => h ⟨hlinked, hnew⟩
      refine ⟨.declaredTwice t.title, ?_, ?_, ?_⟩
      · rw [addEntry, declare, insertAfter_of_mem hafter, insert_of_mem htaken]
        rfl
      · exact ⟨fun _ => hlinked, fun _ => rfl⟩
      · simp [hlinked]
    · have hlinked : ¬ (Entry.transition t).IsLinked g.titles := fun hlinked => hafter (hlinked _ rfl)
      refine ⟨.unknownAfter t.title t.comesAfter, ?_, ?_, ?_⟩
      · rw [addEntry, declare, insertAfter_of_not_mem hafter]
        rfl
      · simp [hlinked]
      · exact ⟨fun _ => hlinked, fun _ => ⟨t.comesAfter, rfl, rfl⟩⟩

/-- **A graph accepts exactly the entries that fit.** -/
theorem declares_nodes : Declares (addEntry document) titles fun known e f => f.Refuses known e where
  accepts g e fit := ⟨_, (addEntry_eq_ok_iff document).2 ⟨fit, rfl⟩, by rw [titles_concat, Entry.title_node]⟩
  refuses _ _ misfit := addEntry_of_not_fits document misfit

theorem nodes_of_foldlM_addEntry {es : List Entry} {g g' : Graph} (h : es.foldlM (addEntry document) g = .ok g') :
    g'.nodes = g.nodes ++ es.map (Entry.node document) := by
  induction es generalizing g with
  | nil =>
    cases h
    exact (List.append_nil _).symm
  | cons e es ih =>
    rw [List.foldlM_cons] at h
    obtain ⟨g1, h1, h⟩ := bind_eq_ok_iff.1 h
    obtain ⟨-, rfl⟩ := (addEntry_eq_ok_iff document).1 h1
    rw [ih h, List.map_cons, List.append_assoc, List.singleton_append]

end Graph

namespace Spec

/-- the graph of a spec: its initial states seeded with documents, then its transitions declared -/
def graph (document : InitialState → DocState) (s : Spec) : Except GraphFault Graph := do
  let g ← s.initial.foldlM (fun g i => g.seed i.title (document i)) .empty
  s.transitions.foldlM (fun g t => g.declare t.title t.comesAfter) g

theorem graph_eq (document : InitialState → DocState) (s : Spec) :
    s.graph document = s.declarations.foldlM (Graph.addEntry document) .empty := by
  rw [declarations, List.foldlM_append, List.foldlM_map]
  simp only [List.foldlM_map]
  rfl

/-- the spec with its first declarations only -/
def upTo (s : Spec) (k : Nat) : Spec :=
  ⟨s.initial.take k, s.transitions.take (k - s.initial.length), s.headerCount⟩

theorem declarations_upTo (s : Spec) (k : Nat) : (s.upTo k).declarations = s.declarations.take k := by
  simp [declarations, upTo, List.take_append, List.map_take]

/-- whether resolving a spec fails at the entry at a place: what stands before it resolves, nothing does that holds the
entry as well, and the problem names it -/
structure IsRefusedAt (s : Spec) (k : Nat) (e : Entry) (p : Problem) : Prop where
  entry : s.declarations[k]? = some e
  before : ∃ r, (s.upTo k).resolve = .ok r
  through : ∀ j, k < j → ∃ q, (s.upTo j).resolve = .error q
  title : p.cause.title? = some e.title
  line : p.line = e.line

variable {s : Spec}

theorem isRefusedAt_of_split {before after : List Entry} {e : Entry} {p : Problem}
    (hsplit : s.declarations = before ++ e :: after) (fit : Entry.AllFit [] before)
    (misfit : ¬ e.Fits (before.map Entry.title)) (hp : p.Refuses (before.map Entry.title) e) :
    s.IsRefusedAt before.length e p := by
  refine ⟨getElem?_of_eq_append hsplit, ?_, fun j hj => ?_, hp.title, hp.line⟩
  · rw [resolves_iff_allFit, declarations_upTo, hsplit, List.take_left' rfl]
    exact fit
  · have hupTo : (s.upTo j).declarations = before ++ e :: after.take (j - before.length - 1) := by
      rw [declarations_upTo, hsplit, List.take_append, List.take_of_length_le (by omega)]
      obtain ⟨i, hi⟩ : ∃ i, j - before.length = i + 1 := ⟨j - before.length - 1, by omega⟩
      rw [hi, List.take_succ_cons, Nat.add_sub_cancel]
    obtain ⟨q, hq, -⟩ := resolve_stops hupTo fit misfit
    exact ⟨q, hq⟩

theorem graph_eq_ok {document : InitialState → DocState} {g : Graph} (h : s.graph document = .ok g) :
    g.nodes = s.initial.map (fun i => ⟨i.title, none, .resolved, some (document i), true⟩) ++
      s.transitions.map fun t => ⟨t.title, some t.comesAfter, .pending, none, false⟩ := by
  rw [graph_eq] at h
  rw [Graph.nodes_of_foldlM_addEntry document h]
  simp [declarations, Graph.empty, Entry.node, Node.seeded, Node.fresh, Function.comp_def]

/-- **Resolving and filling a graph agree.** A spec resolves if and only if its graph can be filled, and then the graph
has the nodes of the initial states, resolved, and behind them those of the tests, pending. Where a spec does not
resolve, the first call that fails is the one for the entry that is refused: it says that the title is declared twice
exactly if the problem is a duplicate title, and that what the entry comes after is unknown exactly if the problem is
an unknown dependency. -/
theorem agrees_with_graph (s : Spec) (document : InitialState → DocState) :
    ((∃ r, s.resolve = .ok r) ↔ ∃ g, s.graph document = .ok g) ∧
      (∀ r g, s.resolve = .ok r → s.graph document = .ok g →
        g.nodes = r.setups.map (fun i => ⟨i.title, none, .resolved, some (document i), true⟩) ++
          r.tests.map fun t => ⟨t.title, some t.comesAfter, .pending, none, false⟩) ∧
      ∀ p, s.resolve = .error p → ∃ k e g f, s.IsRefusedAt k e p ∧
        (s.declarations.take k).foldlM (Graph.addEntry document) .empty = .ok g ∧
        g.addEntry document e = .error f ∧ s.graph document = .error f ∧
        (f = .declaredTwice e.title ↔ p.cause.kind = .duplicateTitle) ∧
        ((∃ a, e.comesAfter? = some a ∧ f = .unknownAfter e.title a) ↔ p.cause.kind = .unknownDependency) ∧
        (p.cause.kind = .duplicateTitle ∨ p.cause.kind = .unknownDependency) := by
  have hgraph := Graph.declares_nodes document
  refine ⟨?_, fun r g hr hg => ?_, fun p hp => ?_⟩
  · rw [graph_eq, hgraph.goes_through_iff, resolves_iff_allFit]
    rfl
  · obtain ⟨-, rfl⟩ := resolve_eq_ok_iff.1 hr
    exact graph_eq_ok hg
  · obtain ⟨before, e, after, hsplit, fit, misfit⟩ : ∃ before e after, s.declarations = before ++ e :: after ∧
        Entry.AllFit [] before ∧ ¬ e.Fits (before.map Entry.title) := by
      rcases Entry.allFit_or_exists [] s.declarations with hfit | hsplit
      · obtain ⟨r, hr⟩ := resolves_iff_allFit.2 hfit
        rw [hr] at hp
        cases hp
      · exact hsplit
    obtain ⟨q, hq, hproblem⟩ := resolve_stops hsplit fit misfit
    obtain rfl : q = p := Except.error.inj (hq.symm.trans hp)
    obtain ⟨g, f, hg, hf, hfault, hfold⟩ := hgraph.stops (s := .empty) fit misfit after
    refine ⟨before.length, e, g, f, isRefusedAt_of_split hsplit fit misfit hproblem, ?_, hf, ?_, ?_, ?_, ?_⟩
    · rw [hsplit, List.take_left' rfl]
      exact hg
    · rw [graph_eq, hsplit]
      exact hfold
    · exact hfault.twice_iff.trans hproblem.duplicate_iff.symm
    · exact hfault.unknown_iff.trans hproblem.unknown_iff.symm
    · by_cases hlinked : e.IsLinked (before.map Entry.title)
      · exact Or.inl (hproblem.duplicate_iff.2 hlinked)
      · exact Or.inr (hproblem.unknown_iff.2 hlinked)

/-- a spec whose third entry takes a title that is taken, and comes after an entry that is still to come -/
def contested : Spec where
  initial := [⟨"A", [], "|", none⟩]
  transitions := [⟨"B", "A", [], [], "|", none⟩, ⟨"B", "C", [], [], "|", none⟩, ⟨"C", "B", [], [], "|", none⟩]
  headerCount := 4

/-- Both see the unknown entry before the title that is taken. -/
theorem agrees_contested :
    ∃ k e p f, contested.IsRefusedAt k e p ∧ contested.graph (fun _ => .plain []) = .error f ∧
      ∃ a, e.comesAfter? = some a ∧ f = .unknownAfter e.title a := by
  have hresolve : contested.resolve =
      .error ⟨.unknownDependency "B" "C" (some "Move \"C\" before \"B\""), none⟩ := by decide
  obtain ⟨k, e, -, f, hrefused, -, -, hgraph, -, hunknown, -⟩ :=
    (agrees_with_graph contested fun _ => .plain []).2.2 _ hresolve
  exact ⟨k, e, _, f, hrefused, hgraph, hunknown.2 rfl⟩

end Spec

/-! ## Compiled suites -/

namespace Suite

/-- the document that a block spells, or none at all -/
def spelled (i : InitialState) : DocState := ((Document.decode i.content).toOption).getD (.plain [])

end Suite

end CursorSpec
