/-
The nodes of a graph, looked up by title.

Each call has an equation for each way it can go: `insert_of_mem`, `insert_of_not_mem` and so on say what it leaves and
what it comes to. `seed_eq_ok_iff` and `declare_eq_ok_iff` say when a node can be added: its title is new, and what it
comes after is there. A pending node settles (`settle_of_pending`), and settling changes one node only: `find?_put` is
the frame rule for everything that runs on a graph. Graphs of the same distinct titles are equal if every title finds
the same node (`eq_of_find?`).
-/
import CursorSpec.Graph.Waiting
import CursorSpec.Proofs.Lists

namespace CursorSpec

namespace Node

/-- whether a node lets those who wait for it on exactly if it has settled -/
def IsCoherent (n : Node) : Prop := n.settled = true ↔ n.status ≠ .pending

theorem isCoherent_fresh (title : Text) (after : Option Text) : (fresh title after).IsCoherent := by
  simp [IsCoherent, fresh]

theorem isCoherent_settledAs (n : Node) {status : NodeStatus} (h : status ≠ .pending) (state : Option DocState) :
    (n.settledAs status state).IsCoherent := by
  simpa [IsCoherent, settledAs] using h

def seeded (title : Text) (state : DocState) : Node := ⟨title, none, .resolved, some state, true⟩

end Node

namespace Graph

def titles (g : Graph) : List Text := g.nodes.map (·.title)

theorem find?_of_mem {g : Graph} (distinct : g.titles.Nodup) {n : Node} (hn : n ∈ g.nodes) :
    g.find? n.title = some n :=
  find?_of_nodup_map distinct hn

theorem contains_iff (g : Graph) (title : Text) : g.contains title = true ↔ title ∈ g.titles := by
  unfold contains find? titles
  rw [List.find?_isSome]
  simp

theorem node_of_find? {g : Graph} {title : Text} {n : Node} (h : g.find? title = some n) : g.node title = .ok n := by
  rw [node, h]

/-- what someone who waits for a title finds -/
structure Finds (g : Graph) (title : Text) (n : Node) : Prop where
  node : g.find? title = some n
  coherent : n.IsCoherent

/-! ## Adding nodes -/

theorem titles_concat (g : Graph) (n : Node) : (⟨g.nodes ++ [n]⟩ : Graph).titles = g.titles ++ [n.title] := by
  simp [titles]

theorem nodup_titles_concat {g : Graph} {n : Node} (distinct : g.titles.Nodup) (new : n.title ∉ g.titles) :
    (⟨g.nodes ++ [n]⟩ : Graph).titles.Nodup := by
  rw [titles_concat]
  exact List.Nodup.append distinct (List.nodup_singleton _) (List.disjoint_singleton.2 new)

theorem find?_concat {g : Graph} {n : Node} (new : n.title ∉ g.titles) :
    (⟨g.nodes ++ [n]⟩ : Graph).find? n.title = some n := by
  have hnone : g.nodes.find? (fun m => decide (m.title = n.title)) = none := find?_eq_none_of_notMem new
  rw [find?, List.find?_append, hnone]
  simp

theorem insert_of_mem {g : Graph} {title : Text} (h : title ∈ g.titles) (after : Option Text) :
    g.insert title after = (g, .error (.declaredTwice title)) := by
  rw [insert, if_pos ((contains_iff g title).2 h)]

theorem insert_of_not_mem {g : Graph} {title : Text} (h : title ∉ g.titles) (after : Option Text) :
    g.insert title after = (⟨g.nodes ++ [.fresh title after]⟩, .ok ()) := by
  rw [insert, if_neg fun hmem => h ((contains_iff g title).1 hmem)]

theorem insertAfter_of_mem {g : Graph} {title after : Text} (h : after ∈ g.titles) :
    g.insertAfter title after = g.insert title (some after) := by
  rw [insertAfter, if_pos ((contains_iff g after).2 h)]

theorem insertAfter_of_not_mem {g : Graph} {title after : Text} (h : after ∉ g.titles) :
    g.insertAfter title after = (g, .error (.unknownAfter title after)) := by
  rw [insertAfter, if_neg fun hmem => h ((contains_iff g after).1 hmem)]

/-! ## Settling nodes -/

theorem mark_of_pending {g : Graph} {title : Text} {n : Node} (h : g.find? title = some n) (hn : n.status = .pending)
    (status : NodeStatus) (state : Option DocState) :
    g.mark title status state = (g.put title status state, .ok ()) := by
  simp only [mark, node_of_find? h, if_pos hn]

theorem mark_of_settled {g : Graph} {title : Text} {n : Node} (h : g.find? title = some n) (hn : n.status ≠ .pending)
    (status : NodeStatus) (state : Option DocState) :
    g.mark title status state = (g, .error (.alreadySettled title n.status)) := by
  simp only [mark, node_of_find? h, if_neg hn]

theorem mark_of_none {g : Graph} {title : Text} (h : g.find? title = none) (status : NodeStatus)
    (state : Option DocState) : g.mark title status state = (g, .error (.unknown title)) := by
  simp only [mark, node, h]

theorem settle_of_pending {g : Graph} {title : Text} {n : Node} (h : g.find? title = some n) (hn : n.status = .pending)
    (status : NodeStatus) (state : Option DocState) :
    g.settle title status state = .ok (g.put title status state) := by
  rw [settle, mark_of_pending h hn]
  rfl

/-- Settling the node that was added last leaves the others alone. -/
theorem put_concat {g : Graph} {n : Node} (new : n.title ∉ g.titles) (status : NodeStatus) (state : Option DocState) :
    (⟨g.nodes ++ [n]⟩ : Graph).put n.title status state = ⟨g.nodes ++ [n.settledAs status state]⟩ := by
  have hothers : (g.nodes.map fun m => if m.title = n.title then m.settledAs status state else m) = g.nodes := by
    refine (List.map_congr_left fun m hm => ?_).trans (List.map_id g.nodes)
    have hne : m.title ≠ n.title := fun hmn => new (hmn ▸ List.mem_map_of_mem hm)
    exact if_neg hne
  rw [put, List.map_append, hothers]
  simp

/-- An initial state is added and settled, and settling it cannot fail. -/
theorem insertSettled_of_not_mem {g : Graph} {title : Text} (h : title ∉ g.titles) (state : DocState) :
    g.insertSettled title state = (⟨g.nodes ++ [.seeded title state]⟩, .ok ()) := by
  have hnew : (Node.fresh title none).title ∉ g.titles := h
  have hmark := mark_of_pending (find?_concat hnew) rfl .resolved (some state)
  rw [put_concat hnew] at hmark
  rw [insertSettled, insert_of_not_mem h]
  exact hmark

theorem insertSettled_of_mem {g : Graph} {title : Text} (h : title ∈ g.titles) (state : DocState) :
    g.insertSettled title state = (g, .error (.declaredTwice title)) := by
  rw [insertSettled, insert_of_mem h]

theorem seed_eq_ok_iff {g g' : Graph} {title : Text} {state : DocState} :
    g.seed title state = .ok g' ↔ title ∉ g.titles ∧ g' = ⟨g.nodes ++ [.seeded title state]⟩ := by
  unfold seed
  by_cases h : title ∈ g.titles
  · rw [insertSettled_of_mem h]
    simp [ifDone, Except.map, h]
  · rw [insertSettled_of_not_mem h]
    simp [ifDone, Except.map, h, eq_comm]

theorem declare_eq_ok_iff {g g' : Graph} {title after : Text} :
    g.declare title after = .ok g' ↔
      after ∈ g.titles ∧ title ∉ g.titles ∧ g' = ⟨g.nodes ++ [.fresh title (some after)]⟩ := by
  unfold declare
  by_cases hafter : after ∈ g.titles
  · rw [insertAfter_of_mem hafter]
    by_cases h : title ∈ g.titles
    · rw [insert_of_mem h]
      simp [ifDone, Except.map, h]
    · rw [insert_of_not_mem h]
      simp [ifDone, Except.map, h, hafter, eq_comm]
  · rw [insertAfter_of_not_mem hafter]
    simp [ifDone, Except.map, hafter]

theorem titles_put (g : Graph) (title : Text) (status : NodeStatus) (state : Option DocState) :
    (g.put title status state).titles = g.titles := by
  unfold titles put
  rw [List.map_map]
  refine List.map_congr_left fun m _ => ?_
  simp only [Function.comp_apply]
  split <;> rfl

/-- Settling changes the node of its title, and no other one. -/
theorem find?_put (g : Graph) (title : Text) (status : NodeStatus) (state : Option DocState) (x : Text) :
    (g.put title status state).find? x =
      if x = title then (g.find? x).map fun n => n.settledAs status state else g.find? x := by
  have hkey : ∀ m : Node, (if m.title = title then m.settledAs status state else m).title = m.title := by
    intro m; split <;> rfl
  unfold find? put
  simp only [List.find?_map, Function.comp_def, hkey]
  cases h : g.nodes.find? fun n => n.title = x with
  | none => simp
  | some n =>
    have hn : n.title = x := by simpa using List.find?_some h
    by_cases hx : x = title
    · simp [hx, hn]
    · simp [hx, hn]

theorem find?_put_self {g : Graph} {title : Text} {n : Node} (h : g.find? title = some n) (status : NodeStatus)
    (state : Option DocState) :
    (g.put title status state).find? title = some (n.settledAs status state) := by
  rw [find?_put, if_pos rfl, h]
  rfl

theorem find?_put_of_ne {g : Graph} {title x : Text} (h : x ≠ title) (status : NodeStatus) (state : Option DocState) :
    (g.put title status state).find? x = g.find? x := by
  rw [find?_put, if_neg h]

theorem map_find?_titles {g : Graph} (distinct : g.titles.Nodup) : g.titles.map g.find? = g.nodes.map some := by
  unfold titles
  rw [List.map_map]
  exact List.map_congr_left fun n hn => find?_of_mem distinct hn

/-- Graphs of the same distinct titles are told apart by some title. -/
theorem eq_of_find? {g h : Graph} (titles : g.titles = h.titles) (distinct : g.titles.Nodup)
    (same : ∀ x ∈ g.titles, g.find? x = h.find? x) : g = h := by
  have hnodes : g.nodes.map some = h.nodes.map some := by
    rw [← map_find?_titles distinct, ← map_find?_titles (titles ▸ distinct), ← titles]
    exact List.map_congr_left same
  obtain ⟨gn⟩ := g
  obtain ⟨hn⟩ := h
  exact congrArg Graph.mk (List.map_injective_iff.2 (Option.some_injective Node) hnodes)

end Graph

end CursorSpec
