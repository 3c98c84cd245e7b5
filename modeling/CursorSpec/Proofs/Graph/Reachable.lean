/-
The graphs that calls lead to.

A call either fails, and then the graph is as it was, or it succeeds and does one of four things: it adds a resolved
node, it adds a pending node behind one that is there, it settles a pending node, or it only asks (`leaves`).
None of these breaks what holds of the nodes (`IsSound.does`) or takes back what has settled (`Extends.does`). So both
hold on every run from the empty graph, and following what nodes come after always ends at a seeded one
(`sound_after_calls`).
-/
import CursorSpec.Graph.Calls
import CursorSpec.Proofs.Graph.Nodes
import CursorSpec.Proofs.Links

namespace CursorSpec

namespace GraphCall

/-- the title that a call settles, with the status and the document that its node gets -/
def settling? : GraphCall → Option (Text × NodeStatus × Option DocState)
  | .resolve title state => some (title, .resolved, some state)
  | .fail title => some (title, .failed, none)
  | .skip title => some (title, .skipped, none)
  | _ => none

/-- whether a call asks or waits, and neither adds nor settles a node -/
def OnlyAsks : GraphCall → Prop
  | .status _ | .node _ | .dependents _ | .wait _ _ | .spawn _ _ _ | .sleep _ => True
  | _ => False

variable {c : GraphCall} {title : Text} {status : NodeStatus} {state : Option DocState}

/-- A call that settles a node leaves it settled. -/
theorem ends_of_settling? (h : c.settling? = some (title, status, state)) : status ≠ .pending := by
  cases c <;> cases h <;> decide

/-- A call that settles a node gives it a document if and only if it resolves it. -/
theorem stored_of_settling? (h : c.settling? = some (title, status, state)) :
    state.isSome = true ↔ status = .resolved := by
  cases c <;> cases h <;> simp

end GraphCall

namespace Node

/-- what holds of a node: it lets on those who wait exactly if it has settled, and has a document exactly if it is
resolved -/
structure IsSound (n : Node) : Prop where
  coherent : n.settled = true ↔ n.status ≠ .pending
  stored : n.state.isSome = true ↔ n.status = .resolved

theorem isSound_seeded (title : Text) (state : DocState) : (seeded title state).IsSound where
  coherent := by simp [seeded]
  stored := by simp [seeded]

theorem isSound_fresh (title : Text) (after : Option Text) : (fresh title after).IsSound where
  coherent := isCoherent_fresh title after
  stored := by simp [fresh]

theorem isSound_settledAs (n : Node) {status : NodeStatus} {state : Option DocState} (ends : status ≠ .pending)
    (stored : state.isSome = true ↔ status = .resolved) : (n.settledAs status state).IsSound where
  coherent := isCoherent_settledAs n ends state
  stored := stored

end Node

namespace Graph

/-- what a call that succeeds does to a graph -/
inductive Does (g : Graph) : GraphCall → Graph → Prop
  | seeds {title : Text} {state : DocState} (new : title ∉ g.titles) :
      Does g (.seed title state) ⟨g.nodes ++ [.seeded title state]⟩
  | declares {title after : Text} (known : after ∈ g.titles) (new : title ∉ g.titles) :
      Does g (.declare title after) ⟨g.nodes ++ [.fresh title (some after)]⟩
  | settles {c : GraphCall} {title : Text} {status : NodeStatus} {state : Option DocState} {n : Node}
      (call : c.settling? = some (title, status, state)) (found : g.find? title = some n)
      (pending : n.status = .pending) : Does g c (g.put title status state)
  | asks {c : GraphCall} (call : c.OnlyAsks) : Does g c g

end Graph

/-! ## One call -/

namespace TimedGraph

variable (t : TimedGraph)

theorem graph_wait (title : Text) (limit : Option Int) : (t.wait title limit).2.graph = t.graph := by
  unfold wait
  cases t.graph.beginWait t.now title limit with
  | ended o => rfl
  | waiting l =>
    cases l with
    | none => rfl
    | some l => rfl

/-- what comes of a call: it is refused and the graph is as it was, or it succeeds -/
def Leaves (c : GraphCall) : Prop :=
  (∃ f, (t.perform c).2 = .error f ∧ (t.perform c).1.graph = t.graph) ∨
    ∃ r, (t.perform c).2 = .ok r ∧ t.graph.Does c (t.perform c).1.graph

theorem leaves_seed (title : Text) (state : DocState) : t.Leaves (.seed title state) := by
  unfold Leaves
  by_cases h : title ∈ t.graph.titles
  · left
    rw [perform, Graph.insertSettled_of_mem h]
    exact ⟨.declaredTwice title, rfl, rfl⟩
  · right
    have hfind : (⟨t.graph.nodes ++ [.seeded title state]⟩ : Graph).find? title = some (.seeded title state) :=
      Graph.find?_concat (n := Node.seeded title state) h
    rw [perform, Graph.insertSettled_of_not_mem h]
    refine ⟨.node (.seeded title state), ?_, .seeds h⟩
    exact congrArg (Except.map GraphReply.node) (Graph.node_of_find? hfind)

theorem leaves_declare (title after : Text) : t.Leaves (.declare title after) := by
  unfold Leaves
  rw [perform]
  by_cases hafter : after ∈ t.graph.titles
  · rw [Graph.insertAfter_of_mem hafter]
    by_cases h : title ∈ t.graph.titles
    · left
      rw [Graph.insert_of_mem h]
      exact ⟨.declaredTwice title, rfl, rfl⟩
    · right
      have hfind := Graph.find?_concat (n := Node.fresh title (some after)) h
      rw [Graph.insert_of_not_mem h]
      refine ⟨.node (.fresh title (some after)), ?_, .declares hafter h⟩
      exact congrArg (Except.map GraphReply.node) (Graph.node_of_find? hfind)
  · left
    rw [Graph.insertAfter_of_not_mem hafter]
    exact ⟨.unknownAfter title after, rfl, rfl⟩

variable {c : GraphCall}

theorem leaves_of_settling? {title : Text} {status : NodeStatus} {state : Option DocState}
    (h : c.settling? = some (title, status, state)) : t.Leaves c := by
  have hperform : t.perform c = t.marked (t.graph.mark title status state) := by
    cases c <;> cases h <;> rfl
  unfold Leaves
  rw [hperform]
  cases hfind : t.graph.find? title with
  | none =>
    left
    rw [Graph.mark_of_none hfind]
    exact ⟨.unknown title, rfl, rfl⟩
  | some n =>
    by_cases hn : n.status = .pending
    · right
      rw [Graph.mark_of_pending hfind hn]
      exact ⟨.done, rfl, .settles h hfind hn⟩
    · left
      rw [Graph.mark_of_settled hfind hn]
      exact ⟨.alreadySettled title n.status, rfl, rfl⟩

theorem leaves_of_onlyAsks (h : c.OnlyAsks) : t.Leaves c := by
  have hgraph : (t.perform c).1.graph = t.graph := by
    cases c with
    | seed | declare | resolve | fail | skip => cases h
    | wait title limit => exact t.graph_wait title limit
    | status | node | dependents | spawn | sleep => rfl
  cases hreply : (t.perform c).2 with
  | error f => exact Or.inl ⟨f, hreply, hgraph⟩
  | ok r => exact Or.inr ⟨r, hreply, hgraph.symm ▸ .asks h⟩

/-- **A call is refused and changes nothing, or it does what it is for.** -/
theorem leaves (c : GraphCall) : t.Leaves c := by
  cases c with
  | seed title state => exact t.leaves_seed title state
  | declare title after => exact t.leaves_declare title after
  | resolve | fail | skip => exact t.leaves_of_settling? rfl
  | status | node | dependents | wait | spawn | sleep => exact t.leaves_of_onlyAsks trivial

/-- A call that fails leaves all nodes as they were. -/
theorem graph_of_error {f : GraphFault} (h : (t.perform c).2 = .error f) : (t.perform c).1.graph = t.graph := by
  rcases t.leaves c with ⟨-, -, hgraph⟩ | ⟨r, hr, -⟩
  · exact hgraph
  · rw [h] at hr
    cases hr

end TimedGraph

/-! ## What holds of the nodes -/

namespace Graph

/-- what holds of a graph in which some titles were seeded with documents -/
structure IsSound (g : Graph) (seeded : Text → DocState → Prop) : Prop where
  distinct : g.titles.Nodup
  earlier : ∀ (i : Nat) (n : Node) (a : Text), g.nodes[i]? = some n → n.after = some a →
    ∃ j < i, ∃ m : Node, g.nodes[j]? = some m ∧ m.title = a
  nodes : ∀ n ∈ g.nodes, n.IsSound
  roots : ∀ n ∈ g.nodes, n.after = none → ∃ d, seeded n.title d
  seeds : ∀ title d, seeded title d → .seeded title d ∈ g.nodes

/-- A node that has settled is not the pending node of a title. -/
theorem title_ne_of_settled {g : Graph} (distinct : g.titles.Nodup) {title : Text} {n m : Node}
    (found : g.find? title = some n) (pending : n.status = .pending) (hm : m ∈ g.nodes)
    (hsettled : m.status ≠ .pending) : m.title ≠ title := by
  rintro rfl
  rw [find?_of_mem distinct hm] at found
  exact hsettled (Option.some.inj found ▸ pending)

section

variable {g : Graph} {title : Text} {status : NodeStatus} {state : Option DocState} {i : Nat} {n m : Node}

/-- Settling keeps the places, the titles and what comes after what, and every node of another title. -/
theorem exists_getElem?_put (h : g.nodes[i]? = some n) (title : Text) (status : NodeStatus) (state : Option DocState) :
    ∃ m, (g.put title status state).nodes[i]? = some m ∧ m.title = n.title ∧ m.after = n.after ∧
      (n.title ≠ title → m = n) := by
  refine ⟨if n.title = title then n.settledAs status state else n, ?_, ?_, ?_, fun hne => if_neg hne⟩
  · rw [put, List.getElem?_map, h]
    rfl
  · split <;> rfl
  · split <;> rfl

theorem exists_of_getElem?_put (h : (g.put title status state).nodes[i]? = some m) :
    ∃ n, g.nodes[i]? = some n ∧ m.title = n.title ∧ m.after = n.after := by
  rw [put, List.getElem?_map, Option.map_eq_some_iff] at h
  obtain ⟨n, hn, rfl⟩ := h
  refine ⟨n, hn, ?_, ?_⟩
  · split <;> rfl
  · split <;> rfl

end

namespace IsSound

variable {g : Graph} {seeded seeded' : Text → DocState → Prop}

theorem empty : Graph.empty.IsSound fun _ _ => False where
  distinct := List.nodup_nil
  earlier := nofun
  nodes := nofun
  roots := nofun
  seeds := nofun

/-- A node that comes after nothing is as it was seeded. -/
theorem eq_seeded (h : g.IsSound seeded) {n : Node} (hn : n ∈ g.nodes) (root : n.after = none) :
    ∃ d, seeded n.title d ∧ n = .seeded n.title d := by
  obtain ⟨d, hd⟩ := h.roots n hn root
  have hfind := find?_of_mem h.distinct hn
  have hseeded := find?_of_mem h.distinct (h.seeds n.title d hd)
  exact ⟨d, hd, Option.some.inj (hfind.symm.trans hseeded)⟩

theorem congr (h : g.IsSound seeded) (same : ∀ title d, seeded' title d ↔ seeded title d) : g.IsSound seeded' := by
  have heq : seeded' = seeded := funext fun title => funext fun d => propext (same title d)
  rwa [heq]

/-- A node can be added at the end if its title is new and what it comes after is there. -/
theorem concat (h : g.IsSound seeded) {n : Node} (new : n.title ∉ g.titles)
    (linked : ∀ a, n.after = some a → a ∈ g.titles) (sound : n.IsSound)
    (roots : n.after = none → ∃ d, seeded' n.title d)
    (seeds : ∀ title d, seeded' title d ↔ seeded title d ∨ n = .seeded title d) :
    (⟨g.nodes ++ [n]⟩ : Graph).IsSound seeded' where
  distinct := nodup_titles_concat h.distinct new
  earlier i m a hm ha := by
    -- what the node at a place comes after is among the old nodes, whether it is an old one or the new one
    obtain ⟨j, hj, x, hx, hxa⟩ : ∃ j < i, ∃ x : Node, g.nodes[j]? = some x ∧ x.title = a := by
      rcases getElem?_concat hm with hold | ⟨rfl, rfl⟩
      · exact h.earlier i m a hold ha
      · obtain ⟨x, hx, hxa⟩ := List.mem_map.1 (linked a ha)
        obtain ⟨j, hj⟩ := List.getElem?_of_mem hx
        exact ⟨j, (List.getElem?_eq_some_iff.1 hj).1, x, hj, hxa⟩
    exact ⟨j, hj, x, getElem?_append_of_some hx [n], hxa⟩
  nodes m hm := by
    rcases List.mem_append.1 hm with hm | hm
    · exact h.nodes m hm
    · rwa [List.mem_singleton.1 hm]
  roots m hm root := by
    rcases List.mem_append.1 hm with hm | hm
    · obtain ⟨d, hd⟩ := h.roots m hm root
      exact ⟨d, (seeds m.title d).2 (Or.inl hd)⟩
    · obtain rfl := List.mem_singleton.1 hm
      exact roots root
  seeds title d hd := by
    rcases (seeds title d).1 hd with hd | rfl
    · exact List.mem_append_left _ (h.seeds title d hd)
    · exact List.mem_append_right _ List.mem_cons_self

/-- The pending node of a title can settle. -/
theorem put (h : g.IsSound seeded) {title : Text} {n : Node} {status : NodeStatus} {state : Option DocState}
    (found : g.find? title = some n) (pending : n.status = .pending) (ends : status ≠ .pending)
    (stored : state.isSome = true ↔ status = .resolved) : (g.put title status state).IsSound seeded where
  distinct := by
    rw [titles_put]
    exact h.distinct
  earlier i m a hm ha := by
    obtain ⟨x, hx, -, hafter⟩ := exists_of_getElem?_put hm
    obtain ⟨j, hj, y, hy, hya⟩ := h.earlier i x a hx (hafter ▸ ha)
    obtain ⟨z, hz, htitle, -⟩ := exists_getElem?_put hy title status state
    exact ⟨j, hj, z, hz, htitle.trans hya⟩
  nodes m hm := by
    obtain ⟨x, hx, rfl⟩ := List.mem_map.1 hm
    split
    · exact Node.isSound_settledAs x ends stored
    · exact h.nodes x hx
  roots m hm root := by
    obtain ⟨i, hi⟩ := List.getElem?_of_mem hm
    obtain ⟨x, hx, htitle, hafter⟩ := exists_of_getElem?_put hi
    rw [htitle]
    exact h.roots x (List.mem_of_getElem? hx) (hafter ▸ root)
  seeds x d hd := by
    have hmem := h.seeds x d hd
    have hne : (Node.seeded x d).title ≠ title :=
      title_ne_of_settled h.distinct found pending hmem (by simp [Node.seeded])
    exact List.mem_map.2 ⟨.seeded x d, hmem, if_neg hne⟩

/-- **What a call that succeeds does keeps the nodes sound.** -/
theorem does (h : g.IsSound seeded) {c : GraphCall} {g' : Graph} (hc : g.Does c g') :
    g'.IsSound fun title d => seeded title d ∨ c = .seed title d := by
  cases hc with
  | @seeds title d new =>
    refine h.concat (n := .seeded title d) new nofun (Node.isSound_seeded title d) (fun _ => ⟨d, Or.inr rfl⟩) ?_
    intro x e
    simp [Node.seeded]
  | @declares title after known new =>
    refine h.concat (n := .fresh title (some after)) new ?_ (Node.isSound_fresh title (some after)) nofun ?_
    · intro a ha
      cases ha
      exact known
    · intro x e
      simp [Node.seeded, Node.fresh]
  | settles call found pending =>
    refine (h.put found pending (GraphCall.ends_of_settling? call) (GraphCall.stored_of_settling? call)).congr ?_
    intro x e
    refine or_iff_left ?_
    rintro rfl
    cases call
  | asks call =>
    refine h.congr fun x e => or_iff_left ?_
    rintro rfl
    cases call

end IsSound

/-! ## What later graphs keep -/

/-- whether a graph keeps the nodes of an earlier one: each has its place, its title and what it comes after, and one
that has settled is the same -/
def Extends (g g' : Graph) : Prop :=
  ∀ (i : Nat) (n : Node), g.nodes[i]? = some n →
    ∃ m, g'.nodes[i]? = some m ∧ m.title = n.title ∧ m.after = n.after ∧ (n.status ≠ .pending → m = n)

namespace Extends

variable {g g' g'' : Graph}

theorem refl (g : Graph) : g.Extends g := fun _ n h => ⟨n, h, rfl, rfl, fun _ => rfl⟩

theorem trans (h : g.Extends g') (h' : g'.Extends g'') : g.Extends g'' := by
  intro i n hn
  obtain ⟨m, hm, htitle, hafter, hsettled⟩ := h i n hn
  obtain ⟨x, hx, htitle', hafter', hsettled'⟩ := h' i m hm
  refine ⟨x, hx, htitle'.trans htitle, hafter'.trans hafter, fun hstatus => ?_⟩
  obtain rfl := hsettled hstatus
  exact hsettled' hstatus

theorem concat (g : Graph) (n : Node) : g.Extends ⟨g.nodes ++ [n]⟩ :=
  fun _ m hm => ⟨m, getElem?_append_of_some hm [n], rfl, rfl, fun _ => rfl⟩

/-- **What a call that succeeds does takes nothing back.** -/
theorem does (distinct : g.titles.Nodup) {c : GraphCall} (hc : g.Does c g') : g.Extends g' := by
  cases hc with
  | seeds => exact concat g _
  | declares => exact concat g _
  | @settles _ title status state n call found pending =>
    intro i x hx
    obtain ⟨m, hm, htitle, hafter, hother⟩ := exists_getElem?_put hx title status state
    refine ⟨m, hm, htitle, hafter, fun hsettled => hother ?_⟩
    exact title_ne_of_settled distinct found pending (List.mem_of_getElem? hx) hsettled
  | asks => exact refl g

end Extends

/-! ## What nodes come after -/

def before? (g : Graph) (n : Node) : Option Node := n.after.bind g.find?

namespace IsSound

variable {g : Graph} {seeded : Text → DocState → Prop}

/-- A node that comes after another comes after an earlier one. -/
theorem before_earlier (h : g.IsSound seeded) (i : Nat) (n m : Node) (hn : g.nodes[i]? = some n)
    (hm : g.before? n = some m) : ∃ j < i, g.nodes[j]? = some m := by
  obtain ⟨a, ha, hfind⟩ := Option.bind_eq_some_iff.1 hm
  obtain ⟨j, hj, x, hx, rfl⟩ := h.earlier i n a hn ha
  have hx' := find?_of_mem h.distinct (List.mem_of_getElem? hx)
  obtain rfl : x = m := Option.some.inj (hx'.symm.trans hfind)
  exact ⟨j, hj, hx⟩

/-- Only a node that was seeded comes after no node. -/
theorem root_of_before_none (h : g.IsSound seeded) {i : Nat} {n : Node} (hn : g.nodes[i]? = some n)
    (hend : g.before? n = none) : ∃ d, seeded n.title d ∧ n = .seeded n.title d := by
  refine h.eq_seeded (List.mem_of_getElem? hn) ?_
  by_contra hafter
  obtain ⟨a, ha⟩ := Option.ne_none_iff_exists'.1 hafter
  obtain ⟨j, -, m, hm, rfl⟩ := h.earlier i n a hn ha
  have hfind := find?_of_mem h.distinct (List.mem_of_getElem? hm)
  rw [before?, ha, Option.bind_some, hfind] at hend
  cases hend

end IsSound

end Graph

/-! ## Runs -/

namespace GraphCall

/-- whether one of some calls has seeded a title with a document -/
def Seeded (calls : List GraphCall) (title : Text) (d : DocState) : Prop :=
  ∃ before after r, calls = before ++ .seed title d :: after ∧
    ((TimedGraph.empty.performAll before).perform (.seed title d)).2 = .ok r

theorem seeded_concat {calls : List GraphCall} {c : GraphCall} {title : Text} {d : DocState} :
    Seeded (calls ++ [c]) title d ↔ Seeded calls title d ∨
      c = .seed title d ∧ ∃ r, ((TimedGraph.empty.performAll calls).perform c).2 = .ok r := by
  constructor
  · rintro ⟨before, after, r, hcalls, hr⟩
    rcases List.eq_nil_or_concat after with rfl | ⟨after, x, rfl⟩
    · obtain ⟨rfl, rfl⟩ : calls = before ∧ c = .seed title d := by simpa using hcalls
      exact Or.inr ⟨rfl, r, hr⟩
    · have hcalls : calls ++ [c] = (before ++ .seed title d :: after) ++ [x] := by simpa using hcalls
      obtain ⟨rfl, -⟩ := List.append_inj' hcalls rfl
      exact Or.inl ⟨before, after, r, rfl, hr⟩
  · rintro (⟨before, after, r, rfl, hr⟩ | ⟨rfl, r, hr⟩)
    · exact ⟨before, after ++ [c], r, by simp, hr⟩
    · exact ⟨calls, [], r, rfl, hr⟩

end GraphCall

namespace TimedGraph

open GraphCall

theorem performAll_concat (t : TimedGraph) (calls : List GraphCall) (c : GraphCall) :
    t.performAll (calls ++ [c]) = ((t.performAll calls).perform c).1 := by
  rw [performAll, List.foldl_append]
  rfl

/-- The nodes are sound after all calls. -/
theorem isSound_performAll (calls : List GraphCall) :
    (TimedGraph.empty.performAll calls).graph.IsSound (Seeded calls) := by
  induction calls using List.reverseRecOn with
  | nil =>
    refine Graph.IsSound.empty.congr fun title d => ?_
    simp [Seeded]
  | append_singleton calls c ih =>
    rw [performAll_concat]
    rcases (TimedGraph.empty.performAll calls).leaves c with ⟨f, hf, hgraph⟩ | ⟨r, hr, hdoes⟩
    · rw [hgraph]
      refine ih.congr fun title d => ?_
      simp [seeded_concat, hf]
    · refine (ih.does hdoes).congr fun title d => ?_
      simp [seeded_concat, hr]

/-- Later calls keep what earlier ones led to. -/
theorem extends_performAll (calls more : List GraphCall) :
    (TimedGraph.empty.performAll calls).graph.Extends (TimedGraph.empty.performAll (calls ++ more)).graph := by
  induction more using List.reverseRecOn with
  | nil =>
    rw [List.append_nil]
    exact .refl _
  | append_singleton more c ih =>
    refine ih.trans ?_
    rw [← List.append_assoc, performAll_concat]
    rcases (TimedGraph.empty.performAll (calls ++ more)).leaves c with ⟨-, -, hgraph⟩ | ⟨-, -, hdoes⟩
    · rw [hgraph]
      exact .refl _
    · exact .does (isSound_performAll (calls ++ more)).distinct hdoes

/-- **Graphs are sound whatever calls are made on them.** After any calls from the empty graph on, whether they failed or
not, titles are distinct, nodes come after earlier ones, a node lets on those who wait exactly if it is not pending and
has a document exactly if it is resolved, and the nodes that come after nothing are the seeded ones, which are resolved.
Following what a node comes after ends at a seeded one, after no more steps than there are nodes before it. Whatever
calls come next, nodes keep their places, and one that has settled never changes again. A call that fails changes no
node. -/
theorem sound_after_calls (calls : List GraphCall) :
    (TimedGraph.empty.performAll calls).graph.IsSound (Seeded calls) ∧
      (∀ (i : Nat) (n : Node), (TimedGraph.empty.performAll calls).graph.nodes[i]? = some n → ∃ k ≤ i, ∃ m d,
        follow? (TimedGraph.empty.performAll calls).graph.before? k n = some m ∧
          Seeded calls m.title d ∧ m = .seeded m.title d) ∧
      (∀ more, (TimedGraph.empty.performAll calls).graph.Extends
        (TimedGraph.empty.performAll (calls ++ more)).graph) ∧
      ∀ c f, ((TimedGraph.empty.performAll calls).perform c).2 = .error f →
        ((TimedGraph.empty.performAll calls).perform c).1.graph = (TimedGraph.empty.performAll calls).graph := by
  have hsound := isSound_performAll calls
  refine ⟨hsound, fun i n hn => ?_, extends_performAll calls, fun c f hf => graph_of_error _ hf⟩
  obtain ⟨k, hk, m, hfollow, hend, j, hm⟩ := exists_follow?_end hsound.before_earlier hn
  obtain ⟨d, hd, hroot⟩ := hsound.root_of_before_none hm hend
  exact ⟨k, hk, m, d, hfollow, hd, hroot⟩

/-- calls of which some fail: a title is taken, another one is unknown, and a node settles twice -/
def quarrelsome : List GraphCall :=
  [.seed "A" (.plain "a"), .seed "A" (.plain "b"), .declare "B" "A", .declare "C" "Z", .declare "C" "B",
    .wait "C" (some 5), .fail "B", .resolve "B" (.plain "b")]

/-- The node that failed stays as it is, and the one behind it still leads to the seeded one. -/
theorem sound_after_quarrelsome :
    (∀ more, (TimedGraph.empty.performAll (quarrelsome ++ more)).graph.nodes[1]? =
        some ⟨"B", some "A", .failed, none, true⟩) ∧
      ∃ k ≤ 2, ∃ m d, follow? (TimedGraph.empty.performAll quarrelsome).graph.before? k
        ⟨"C", some "B", .pending, none, false⟩ = some m ∧ Seeded quarrelsome m.title d := by
  obtain ⟨-, hchain, hkept, -⟩ := sound_after_calls quarrelsome
  refine ⟨fun more => ?_, ?_⟩
  · obtain ⟨m, hm, -, -, hsame⟩ := hkept more 1 ⟨"B", some "A", .failed, none, true⟩ (by decide)
    rw [hm, hsame (by decide)]
  · obtain ⟨k, hk, m, d, hfollow, hseeded, -⟩ := hchain 2 ⟨"C", some "B", .pending, none, false⟩ (by decide)
    exact ⟨k, hk, m, d, hfollow, hseeded⟩

end TimedGraph

end CursorSpec
