/-
Waits in the background agree with the nodes they wait for.

A wait stands in one of three ways (`Stands`): its node is pending and its deadline is ahead, or it has answered what
its settled node yields, or its deadline has come and it ran out of time. Time that passes (`Stands.atTime`) and nodes
that settle (`Stands.onGraph`) lead from one of these to another, and never away from an answer. So each call of a run
keeps them (`Follows.perform`), whatever calls come between, and the answer of a wait is decided by which comes first:
its node settles, or the clock reaches its deadline (`waiters_agree`).
-/
import CursorSpec.Proofs.Graph.Reachable

namespace CursorSpec

/-! ## How a wait stands -/

/-- how a wait for a title stands, given when it began, the time and its node -/
inductive Stands (title : Text) (limit : Option Int) (began now : Int) (n : Node) : WaitStatus → Prop
  | waits (pending : n.status = .pending) (early : ∀ ms, limit = some ms → now < began + ms) :
    Stands title limit began now n (.waiting (limit.map fun ms => (began + ms, ms)))
  | answered (settled : n.status ≠ .pending) : Stands title limit began now n (.ended (.ok n.yielded))
  | late {ms : Int} (limited : limit = some ms) (passed : began + ms ≤ now) :
    Stands title limit began now n (.ended (.error (.timeout title ms)))

namespace WaitStatus

/-- whether a wait that has ended stays as it is -/
def Stays (s s' : WaitStatus) : Prop := ∀ o, s = .ended o → s' = .ended o

theorem Stays.refl (s : WaitStatus) : s.Stays s := fun _ h => h

theorem Stays.trans {s s' s'' : WaitStatus} (h : s.Stays s') (h' : s'.Stays s'') : s.Stays s'' :=
  fun o ho => h' o (h o ho)

end WaitStatus

namespace Stands

variable {title : Text} {limit : Option Int} {began now : Int} {n : Node} {s : WaitStatus}

/-- A wait stands as well at a later time. -/
theorem atTime (h : Stands title limit began now n s) {later : Int} (hle : now ≤ later) (name : Text) :
    ∃ s', (Waiter.mk name title s).atTime later = ⟨name, title, s'⟩ ∧ Stands title limit began later n s' ∧
      s.Stays s' := by
  cases h with
  | waits pending early =>
    cases limit with
    | none => exact ⟨_, rfl, .waits pending nofun, .refl _⟩
    | some ms =>
      by_cases hlate : began + ms ≤ later
      · exact ⟨.ended (.error (.timeout title ms)), if_pos hlate, .late rfl hlate, nofun⟩
      · refine ⟨.waiting (some (began + ms, ms)), if_neg hlate, .waits pending fun x hx => ?_, nofun⟩
        cases hx
        exact lt_of_not_ge hlate
  | answered settled => exact ⟨_, rfl, .answered settled, .refl _⟩
  | late limited passed => exact ⟨_, rfl, .late limited (passed.trans hle), .refl _⟩

/-- A wait stands as well on a graph in which its node may have settled. -/
theorem onGraph (h : Stands title limit began now n s) {g : Graph} {m : Node} (found : g.find? title = some m)
    (coherent : m.IsCoherent) (kept : n.status ≠ .pending → m = n) (name : Text) :
    ∃ s', (Waiter.mk name title s).onGraph g = ⟨name, title, s'⟩ ∧ Stands title limit began now m s' ∧
      s.Stays s' := by
  cases h with
  | waits pending early =>
    have honGraph : (Waiter.mk name title (.waiting (limit.map fun ms => (began + ms, ms)))).onGraph g =
        if m.settled then ⟨name, title, .ended (.ok m.yielded)⟩
        else ⟨name, title, .waiting (limit.map fun ms => (began + ms, ms))⟩ := by
      simp only [Waiter.onGraph, found]
    rw [honGraph]
    by_cases hm : m.status = .pending
    · exact ⟨_, if_neg fun hs => coherent.1 hs hm, .waits hm early, nofun⟩
    · exact ⟨_, if_pos (coherent.2 hm), .answered hm, nofun⟩
  | answered settled =>
    obtain rfl := kept settled
    exact ⟨_, rfl, .answered settled, .refl _⟩
  | late limited passed => exact ⟨_, rfl, .late limited passed, .refl _⟩

/-- A wait with a positive limit, if any, stands so when it begins. -/
theorem beginWait {g : Graph} (found : g.find? title = some n) (coherent : n.IsCoherent)
    (positive : ∀ ms, limit = some ms → 0 < ms) (now : Int) :
    Stands title limit now now n (g.beginWait now title limit) := by
  have hlimit : (limit.any fun ms => decide (ms ≤ 0)) = false := by
    cases limit with
    | none => rfl
    | some ms => simpa using positive ms rfl
  have hbegin : g.beginWait now title limit =
      if n.settled then .ended (.ok n.yielded) else .waiting (limit.map fun ms => (now + ms, ms)) := by
    rw [Graph.beginWait, Graph.node_of_find? found]
    simp only [hlimit, Bool.false_eq_true, if_false]
  rw [hbegin]
  by_cases hn : n.status = .pending
  · rw [if_neg fun hs => coherent.1 hs hn]
    exact .waits hn fun ms hms => by have := positive ms hms; omega
  · rw [if_pos (coherent.2 hn)]
    exact .answered hn

end Stands

namespace Graph

/-- What is found under a title is found there later, the same if it has settled. -/
theorem Extends.find? {g g' : Graph} (h : g.Extends g') (distinct : g'.titles.Nodup) {title : Text} {n : Node}
    (found : g.find? title = some n) : ∃ m, g'.find? title = some m ∧ (n.status ≠ .pending → m = n) := by
  obtain ⟨i, hi⟩ := List.getElem?_of_mem (List.mem_of_find?_eq_some found)
  obtain ⟨m, hm, htitle, -, hkept⟩ := h i n hi
  have hn : n.title = title := by simpa using List.find?_some found
  have hfind := find?_of_mem distinct (List.mem_of_getElem? hm)
  rw [htitle, hn] at hfind
  exact ⟨m, hfind, hkept⟩

end Graph

/-! ## One call -/

namespace Waiter

variable {f : Waiter → Waiter} {ws : List Waiter} {name : Text} {w : Waiter}

/-- Waits that keep their names are found where they were. -/
theorem find?_map (hf : ∀ w, (f w).name = w.name) (h : ws.find? (fun w => w.name = name) = some w) :
    (ws.map f).find? (fun w => w.name = name) = some (f w) := by
  simp only [List.find?_map, Function.comp_def, hf, h, Option.map_some]

theorem name_atTime (now : Int) (w : Waiter) : (w.atTime now).name = w.name := by
  unfold atTime
  split
  · split
    · rfl
    · rfl
  · rfl

theorem name_onGraph (g : Graph) (w : Waiter) : (w.onGraph g).name = w.name := by
  unfold onGraph
  split
  · split
    · rfl
    · rfl
  · rfl

/-- A wait under another name takes no other wait's place. -/
theorem find?_filter_ne (other : Waiter) (hne : other.name ≠ name)
    (h : ws.find? (fun w => w.name = name) = some w) :
    ((ws.filter fun w => w.name ≠ other.name) ++ [other]).find? (fun w => w.name = name) = some w := by
  rw [List.find?_append, List.find?_filter]
  have hsame : (fun w : Waiter => decide (decide (w.name ≠ other.name) = true ∧ decide (w.name = name) = true)) =
      fun w => decide (w.name = name) := by
    funext w
    by_cases hw : w.name = name
    · simp [hw, Ne.symm hne]
    · simp [hw]
  rw [hsame, h]
  rfl

end Waiter

namespace TimedGraph

variable (t : TimedGraph)

/-- What a call does to the waits: it sets another graph in place, or the clock moves on, or a wait begins, or
nothing happens. -/
theorem perform_cases (c : GraphCall) :
    (∃ g, (t.perform c).1 = t.withGraph g) ∨ (∃ later, t.now ≤ later ∧ (t.perform c).1 = t.advance later) ∨
      (∃ name title limit, c = .spawn name title limit ∧ (t.perform c).1 = t.spawn name title limit) ∨
      (t.perform c).1 = t := by
  cases c with
  | seed | declare | resolve | fail | skip => exact Or.inl ⟨_, rfl⟩
  | status | node | dependents => exact Or.inr (Or.inr (Or.inr rfl))
  | spawn name title limit => exact Or.inr (Or.inr (Or.inl ⟨name, title, limit, rfl, rfl⟩))
  | sleep ms => exact Or.inr (Or.inl ⟨t.now + max ms 0, by omega, rfl⟩)
  | wait title limit =>
    simp only [perform, wait]
    cases hbegin : t.graph.beginWait t.now title limit with
    | ended o => exact Or.inr (Or.inr (Or.inr rfl))
    | waiting l =>
      refine Or.inr (Or.inl ?_)
      cases l with
      | none => exact ⟨_, le_foldl_max _ _, rfl⟩
      | some l =>
        obtain ⟨deadline, ms⟩ := l
        refine ⟨deadline, ?_, rfl⟩
        -- a wait with a limit that is not positive has not begun
        rw [Graph.beginWait] at hbegin
        split at hbegin
        · cases hbegin
        · split at hbegin
          · cases hbegin
          · next hlimit =>
            split at hbegin
            · cases hbegin
            · cases limit with
              | none => cases hbegin
              | some x =>
                simp only [Option.map_some, WaitStatus.waiting.injEq, Option.some.injEq, Prod.mk.injEq] at hbegin
                simp only [Option.any_some, decide_eq_true_eq] at hlimit
                omega

/-- whether the wait of a name is for a title and stands as it should -/
structure Follows (t : TimedGraph) (name title : Text) (limit : Option Int) (began : Int) (n : Node)
    (s : WaitStatus) : Prop where
  node : t.graph.find? title = some n
  waiter : t.waiters.find? (fun w => w.name = name) = some ⟨name, title, s⟩
  stands : Stands title limit began t.now n s

variable {t} {name title : Text} {limit : Option Int} {began : Int} {n : Node} {s : WaitStatus}

theorem Follows.poll? (h : t.Follows name title limit began n s) : t.poll? name = some s := by
  rw [TimedGraph.poll?, h.waiter]
  rfl

/-- **A call keeps a wait in step with its node**, unless it takes the wait's name. -/
theorem Follows.perform (h : t.Follows name title limit began n s) {c : GraphCall}
    (other : ∀ title' limit', c ≠ .spawn name title' limit') {m : Node}
    (found : (t.perform c).1.graph.find? title = some m) (coherent : m.IsCoherent)
    (kept : n.status ≠ .pending → m = n) :
    ∃ s', (t.perform c).1.Follows name title limit began m s' ∧ s.Stays s' := by
  rcases t.perform_cases c with ⟨g, hc⟩ | ⟨later, hle, hc⟩ | ⟨name', title', limit', rfl, hc⟩ | hc
  · rw [hc] at found ⊢
    obtain ⟨s', heq, hstands, hstays⟩ := h.stands.onGraph found coherent kept name
    exact ⟨s', ⟨found, heq ▸ Waiter.find?_map (Waiter.name_onGraph g) h.waiter, hstands⟩, hstays⟩
  · rw [hc] at found ⊢
    obtain rfl : n = m := Option.some.inj (h.node.symm.trans found)
    obtain ⟨s', heq, hstands, hstays⟩ := h.stands.atTime hle name
    exact ⟨s', ⟨found, heq ▸ Waiter.find?_map (Waiter.name_atTime later) h.waiter, hstands⟩, hstays⟩
  · rw [hc] at found ⊢
    obtain rfl : n = m := Option.some.inj (h.node.symm.trans found)
    have hne : name' ≠ name := fun heq => other title' limit' (heq ▸ rfl)
    exact ⟨s, ⟨found, Waiter.find?_filter_ne ⟨name', title', _⟩ hne h.waiter, h.stands⟩, .refl s⟩
  · rw [hc] at found ⊢
    obtain rfl : n = m := Option.some.inj (h.node.symm.trans found)
    exact ⟨s, h, .refl s⟩

/-- A wait that begins on a node that is there is in step with it. -/
theorem follows_spawn {t : TimedGraph} (found : t.graph.find? title = some n) (coherent : n.IsCoherent)
    (positive : ∀ ms, limit = some ms → 0 < ms) (name : Text) :
    ∃ s, (t.spawn name title limit).Follows name title limit t.now n s := by
  refine ⟨t.graph.beginWait t.now title limit, found, ?_, .beginWait found coherent positive t.now⟩
  have hnone : (t.waiters.filter fun w => w.name ≠ name).find? (fun w => w.name = name) = none := by
    rw [List.find?_filter, List.find?_eq_none]
    simp
  simp only [spawn, List.find?_append, hnone, Option.none_or]
  simp

/-! ## Runs -/

/-- what the first calls of a run lead to -/
def after (calls : List GraphCall) (k : Nat) : TimedGraph := TimedGraph.empty.performAll (calls.take k)

section

variable (calls : List GraphCall)

variable {calls} in
theorem after_succ {k : Nat} {c : GraphCall} (h : calls[k]? = some c) :
    after calls (k + 1) = ((after calls k).perform c).1 := by
  rw [after, after, List.take_add_one, h]
  exact performAll_concat _ _ c

variable {calls} in
theorem after_succ_of_none {k : Nat} (h : calls[k]? = none) : after calls (k + 1) = after calls k := by
  rw [after, after, List.take_add_one, h]
  simp

theorem isSound_after (k : Nat) : (after calls k).graph.IsSound (GraphCall.Seeded (calls.take k)) :=
  isSound_performAll (calls.take k)

theorem extends_after {j k : Nat} (h : j ≤ k) : (after calls j).graph.Extends (after calls k).graph := by
  have htake : calls.take k = calls.take j ++ (calls.drop j).take (k - j) := by
    rw [← List.take_add, Nat.add_sub_cancel' h]
  unfold after
  rw [htake]
  exact extends_performAll _ _

/-- A node is found later as well, the same if it has settled. -/
theorem find?_after {j k : Nat} (h : j ≤ k) (found : (after calls j).graph.find? title = some n) :
    ∃ m, (after calls k).graph.find? title = some m ∧ m.IsCoherent ∧ (n.status ≠ .pending → m = n) := by
  have hsound := isSound_after calls k
  obtain ⟨m, hm, hkept⟩ := (extends_after calls h).find? hsound.distinct found
  exact ⟨m, hm, (hsound.nodes m (List.mem_of_find?_eq_some hm)).coherent, hkept⟩

end

end TimedGraph

/-- a wait in the background, by the place of the call that begins it -/
structure Wait where
  place : Nat
  name : Text
  title : Text
  /-- in milliseconds, if there is a limit -/
  limit : Option Int

namespace Wait

open TimedGraph

/-- whether a wait is one of a run's: a call begins it on a node that is there, without a limit or with a positive
one, and no later wait takes its name -/
structure IsIn (w : Wait) (calls : List GraphCall) : Prop where
  call : calls[w.place]? = some (.spawn w.name w.title w.limit)
  known : ∃ n, (after calls w.place).graph.find? w.title = some n
  positive : ∀ ms, w.limit = some ms → 0 < ms
  last : ∀ c ∈ calls.drop (w.place + 1), ∀ title limit, c ≠ .spawn w.name title limit

def began (w : Wait) (calls : List GraphCall) : Int := (after calls w.place).now

/-- whether a wait stands as it should after some calls -/
def Follows (w : Wait) (calls : List GraphCall) (k : Nat) (n : Node) (s : WaitStatus) : Prop :=
  (after calls k).Follows w.name w.title w.limit (w.began calls) n s

variable {calls : List GraphCall} {w : Wait}

/-- A wait is in step with its node when it begins, which takes no time. -/
theorem IsIn.follows_began (h : w.IsIn calls) :
    (∃ n s, w.Follows calls (w.place + 1) n s) ∧ (after calls (w.place + 1)).now = w.began calls := by
  obtain ⟨n, hn⟩ := h.known
  have hcoherent := ((isSound_after calls w.place).nodes n (List.mem_of_find?_eq_some hn)).coherent
  obtain ⟨s, hs⟩ := follows_spawn hn hcoherent h.positive w.name
  have hafter : after calls (w.place + 1) = (after calls w.place).spawn w.name w.title w.limit := after_succ h.call
  exact ⟨⟨n, s, by rw [Follows, hafter]; exact hs⟩, by rw [hafter]; rfl⟩

/-- **A wait stays in step with its node**, and answers once. -/
theorem IsIn.follows_later (h : w.IsIn calls) {j k : Nat} (hj : w.place < j) (hjk : j ≤ k) {n : Node} {s : WaitStatus}
    (hs : w.Follows calls j n s) :
    ∃ m s', w.Follows calls k m s' ∧ (n.status ≠ .pending → m = n) ∧ s.Stays s' := by
  induction k, hjk using Nat.le_induction with
  | base => exact ⟨n, s, hs, fun _ => rfl, .refl s⟩
  | succ k hjk ih =>
    obtain ⟨m, s', hs', hkept, hstays⟩ := ih
    obtain ⟨x, hx, hcoherent, hkept'⟩ := find?_after calls k.le_succ hs'.node
    have hall : n.status ≠ .pending → x = n := fun hn => by
      obtain rfl := hkept hn
      exact hkept' hn
    cases hc : calls[k]? with
    | none =>
      have hsame := after_succ_of_none hc
      rw [hsame] at hx
      obtain rfl : m = x := Option.some.inj (hs'.node.symm.trans hx)
      exact ⟨m, s', by rw [Follows, hsame]; exact hs', hall, hstays⟩
    | some c =>
      have hlater : c ∈ calls.drop (w.place + 1) := by
        refine List.mem_of_getElem? (i := k - (w.place + 1)) ?_
        rw [List.getElem?_drop, ← hc]
        congr 1
        omega
      have hother := h.last c hlater
      rw [after_succ hc] at hx
      obtain ⟨y, hy, hstays'⟩ := TimedGraph.Follows.perform hs' hother hx hcoherent hkept'
      exact ⟨x, y, by rw [Follows, after_succ hc]; exact hy, hall, hstays.trans hstays'⟩

theorem IsIn.follows (h : w.IsIn calls) {k : Nat} (hk : w.place < k) : ∃ n s, w.Follows calls k n s := by
  obtain ⟨⟨n, s, hs⟩, -⟩ := h.follows_began
  obtain ⟨m, s', hs', -, -⟩ := h.follows_later w.place.lt_succ_self hk hs
  exact ⟨m, s', hs'⟩

end Wait

/-! ## Answers -/

namespace Node

/-- whether an outcome is what a node has to say: the document of a resolved one, nothing of one that failed or was
skipped -/
def Answers (n : Node) (o : WaitOutcome) : Prop :=
  (n.status = .resolved ∧ ∃ d, n.state = some d ∧ o = .ok (some d)) ∨
    ((n.status = .failed ∨ n.status = .skipped) ∧ o = .ok none)

theorem IsSound.answers {n : Node} (h : n.IsSound) (settled : n.status ≠ .pending) : n.Answers (.ok n.yielded) := by
  unfold Answers yielded
  cases hstatus : n.status with
  | pending => exact absurd hstatus settled
  | resolved =>
    obtain ⟨d, hd⟩ := Option.isSome_iff_exists.1 (h.stored.2 hstatus)
    exact Or.inl ⟨rfl, d, hd, by rw [if_pos rfl, hd]⟩
  | failed => exact Or.inr ⟨Or.inl rfl, by rw [if_neg (by decide)]⟩
  | skipped => exact Or.inr ⟨Or.inr rfl, by rw [if_neg (by decide)]⟩

end Node

namespace Wait

open TimedGraph

/-- how a wait agrees with its node after some calls of a run -/
structure Agrees (w : Wait) (calls : List GraphCall) (k : Nat) (n : Node) (s : WaitStatus) : Prop where
  /-- it answers what the node has to say, or that its time is over -/
  answers : ∀ o, s = .ended o → n.Answers o ∨ ∃ ms, w.limit = some ms ∧ o = .error (.timeout w.title ms)
  /-- it has answered if the node has settled -/
  ends : n.status ≠ .pending → ∃ o, s = .ended o
  /-- it never runs out of time if the node is settled at a moment before the deadline -/
  inTime : ∀ j m, (after calls j).graph.find? w.title = some m → m.status ≠ .pending →
    (∀ ms, w.limit = some ms → (after calls j).now < w.began calls + ms) → ∀ f, s ≠ .ended (.error f)
  /-- it has run out of time if the node was pending at a moment at which the deadline had come -/
  late : ∀ j m ms, w.place < j → j ≤ k → (after calls j).graph.find? w.title = some m → m.status = .pending →
    w.limit = some ms → w.began calls + ms ≤ (after calls j).now → s = .ended (.error (.timeout w.title ms))
  /-- without a limit it waits as long as the node is pending -/
  endless : w.limit = none → n.status = .pending → s = .waiting none

variable {calls : List GraphCall} {w : Wait} {k : Nat} {n : Node} {s : WaitStatus}

theorem Follows.answered (h : w.Follows calls k n s) (settled : n.status ≠ .pending)
    (early : ∀ ms, w.limit = some ms → (after calls k).now < w.began calls + ms) : s = .ended (.ok n.yielded) := by
  cases h.stands with
  | waits pending _ => exact absurd pending settled
  | answered => rfl
  | late limited passed => exact absurd passed (not_le_of_gt (early _ limited))

theorem Follows.timedOut (h : w.Follows calls k n s) (pending : n.status = .pending) {ms : Int}
    (limited : w.limit = some ms) (passed : w.began calls + ms ≤ (after calls k).now) :
    s = .ended (.error (.timeout w.title ms)) := by
  cases h.stands with
  | waits _ early => exact absurd passed (not_le_of_gt (early ms limited))
  | answered settled => exact absurd pending settled
  | @late x hx =>
    obtain rfl := Option.some.inj (hx.symm.trans limited)
    rfl

theorem IsIn.stays (h : w.IsIn calls) {j : Nat} (hj : w.place < j) (hjk : j ≤ k) {m : Node} {s' : WaitStatus}
    (hs' : w.Follows calls j m s') (hs : w.Follows calls k n s) : s'.Stays s := by
  obtain ⟨_, s'', hs'', -, hstays⟩ := h.follows_later hj hjk hs'
  obtain rfl := Option.some.inj (hs''.poll?.symm.trans hs.poll?)
  exact hstays

/-- What a wait has answered at one moment it has not answered otherwise at another, earlier or later. -/
theorem IsIn.answers_once (h : w.IsIn calls) {j : Nat} (hj : w.place < j) (hk : w.place < k) {m : Node}
    {o o' : WaitOutcome} (hs' : w.Follows calls j m (.ended o')) (hs : w.Follows calls k n (.ended o)) : o' = o := by
  rcases le_total j k with hjk | hkj
  · exact (WaitStatus.ended.inj (h.stays hj hjk hs' hs _ rfl)).symm
  · exact WaitStatus.ended.inj (h.stays hk hkj hs hs' _ rfl)

/-- A wait whose node is settled before its deadline answers what the node has to say. -/
theorem IsIn.answers_inTime (h : w.IsIn calls) {j : Nat} {m : Node}
    (hm : (after calls j).graph.find? w.title = some m) (settled : m.status ≠ .pending)
    (early : ∀ ms, w.limit = some ms → (after calls j).now < w.began calls + ms) :
    ∃ i, w.place < i ∧ w.Follows calls i m (.ended (.ok m.yielded)) := by
  -- it has answered at the later one of this moment and the beginning
  have hbegan := h.follows_began.2
  obtain ⟨i, hij, hi, hearly⟩ : ∃ i, j ≤ i ∧ w.place < i ∧
      ∀ ms, w.limit = some ms → (after calls i).now < w.began calls + ms := by
    rcases le_total j (w.place + 1) with hle | hle
    · refine ⟨w.place + 1, hle, w.place.lt_succ_self, fun ms hms => ?_⟩
      rw [hbegan]
      have := h.positive ms hms
      omega
    · exact ⟨j, le_rfl, hle, early⟩
  obtain ⟨x, hx, -, hkept⟩ := find?_after calls hij hm
  obtain rfl := hkept settled
  obtain ⟨y, s', hs'⟩ := h.follows hi
  obtain rfl : x = y := Option.some.inj (hx.symm.trans hs'.node)
  obtain rfl := hs'.answered settled hearly
  exact ⟨i, hi, hs'⟩

theorem IsIn.agrees (h : w.IsIn calls) (hk : w.place < k) (hs : w.Follows calls k n s) : w.Agrees calls k n s where
  answers o ho := by
    subst ho
    cases hs.stands with
    | answered settled =>
      have hsound := (isSound_after calls k).nodes n (List.mem_of_find?_eq_some hs.node)
      exact Or.inl (hsound.answers settled)
    | @late ms limited => exact Or.inr ⟨ms, limited, rfl⟩
  ends settled := by
    cases hs.stands with
    | waits pending => exact absurd pending settled
    | answered => exact ⟨_, rfl⟩
    | late => exact ⟨_, rfl⟩
  inTime j m hm settled early f := by
    rintro rfl
    obtain ⟨i, hi, hs'⟩ := h.answers_inTime hm settled early
    cases h.answers_once hi hk hs' hs
  late j m ms hj hjk hm pending limited passed := by
    obtain ⟨x, s', hs'⟩ := h.follows hj
    obtain rfl : x = m := Option.some.inj (hs'.node.symm.trans hm)
    exact h.stays hj hjk hs' hs _ (hs'.timedOut pending limited passed)
  endless hlimit pending := by
    cases hs.stands with
    | waits => rw [hlimit]; rfl
    | answered settled => exact absurd pending settled
    | late limited => rw [hlimit] at limited; cases limited

/-- Waits for one node that answer in time give one answer. -/
theorem IsIn.same_answer (h : w.IsIn calls) {w' : Wait} (h' : w'.IsIn calls) (same : w.title = w'.title) {k k' : Nat}
    (hk : w.place < k) (hk' : w'.place < k') {r r' : Option DocState}
    (hr : (after calls k).poll? w.name = some (.ended (.ok r)))
    (hr' : (after calls k').poll? w'.name = some (.ended (.ok r'))) : r = r' := by
  obtain ⟨n, s, hs⟩ := h.follows hk
  obtain ⟨n', s', hs'⟩ := h'.follows hk'
  obtain rfl := Option.some.inj (hs.poll?.symm.trans hr)
  obtain rfl := Option.some.inj (hs'.poll?.symm.trans hr')
  have hfound := hs.node
  rw [same] at hfound
  cases hs.stands with
  | answered settled =>
    cases hs'.stands with
    | answered settled' =>
      -- the node that settled first is the node that is found later
      rcases le_total k k' with hle | hle
      · obtain ⟨m, hm, -, hkept⟩ := find?_after calls hle hfound
        rw [← hkept settled, Option.some.inj (hm.symm.trans hs'.node)]
      · obtain ⟨m, hm, -, hkept⟩ := find?_after calls hle hs'.node
        rw [← hkept settled', Option.some.inj (hm.symm.trans hfound)]

end Wait

/-! ## Runs without their waits -/

namespace GraphCall

/-- whether a call only waits or lets time pass -/
def isWaiting : GraphCall → Bool
  | .wait _ _ | .spawn _ _ _ | .sleep _ => true
  | _ => false

end GraphCall

namespace TimedGraph

/-- What a call makes of the graph depends on the graph alone. -/
theorem graph_perform_congr {t t' : TimedGraph} (h : t.graph = t'.graph) (c : GraphCall) :
    (t.perform c).1.graph = (t'.perform c).1.graph := by
  cases c with
  | seed | declare => simp only [perform, added, withGraph, h]
  | resolve | fail | skip => simp only [perform, marked, withGraph, h]
  | wait title limit => exact (t.graph_wait title limit).trans (h.trans (t'.graph_wait title limit).symm)
  | status | node | dependents | spawn | sleep => exact h

theorem graph_perform_of_isWaiting (t : TimedGraph) {c : GraphCall} (h : c.isWaiting = true) :
    (t.perform c).1.graph = t.graph := by
  cases c with
  | wait title limit => exact t.graph_wait title limit
  | spawn | sleep => rfl
  | _ => cases h

/-- Without its waits a run leads to the same graph. -/
theorem graph_performAll_filter {t t' : TimedGraph} (h : t.graph = t'.graph) (calls : List GraphCall) :
    (t.performAll calls).graph = (t'.performAll (calls.filter fun c => !c.isWaiting)).graph := by
  induction calls generalizing t t' with
  | nil => exact h
  | cons c calls ih =>
    by_cases hc : c.isWaiting = true
    · rw [List.filter_cons_of_neg (by simp [hc])]
      exact ih ((t.graph_perform_of_isWaiting hc).trans h)
    · rw [List.filter_cons_of_pos (by simp [hc])]
      exact ih (graph_perform_congr h c)

/-- **Waits agree with the nodes they wait for.** In every run of calls on a graph, whatever waits begin in the
background and however the clock moves: a wait that answers in time answers the document of its node if the node is
resolved and nothing if it failed or was skipped, and all such answers about one node are one; a wait whose node is
settled before its deadline does not run out of time; a wait whose node is still pending when the clock has come to its
deadline has run out of time from then on, whatever becomes of the node; a wait without a limit waits as long as its
node is pending. No wait and no passing of time changes a node. -/
theorem waiters_agree (calls : List GraphCall) :
    (∀ w : Wait, w.IsIn calls → ∀ k, w.place < k → ∃ n s, (after calls k).graph.find? w.title = some n ∧
      (after calls k).poll? w.name = some s ∧ w.Agrees calls k n s) ∧
    (∀ w w' : Wait, w.IsIn calls → w'.IsIn calls → w.title = w'.title → ∀ k k' r r', w.place < k → w'.place < k' →
      (after calls k).poll? w.name = some (.ended (.ok r)) →
      (after calls k').poll? w'.name = some (.ended (.ok r')) → r = r') ∧
    ∀ k, (after calls k).graph =
      (TimedGraph.empty.performAll ((calls.take k).filter fun c => !c.isWaiting)).graph := by
  refine ⟨fun w h k hk => ?_, fun w w' h h' same k k' r r' hk hk' => h.same_answer h' same hk hk', fun k => ?_⟩
  · obtain ⟨n, s, hs⟩ := h.follows hk
    exact ⟨n, s, hs.node, hs.poll?, h.agrees hk hs⟩
  · exact graph_performAll_filter rfl (calls.take k)

/-- calls in which a node settles after the deadline of one wait and before that of another -/
def overtaken : List GraphCall :=
  [.seed "A" (.plain "a"), .declare "B" "A", .spawn "hasty" "B" (some 5), .spawn "patient" "B" none, .sleep 10,
    .spawn "timely" "B" (some 20), .resolve "B" (.plain "b"), .sleep 30]

/-- The wait that ran out of time stays so, and the other two have the same answer. -/
theorem waiters_agree_overtaken :
    (after overtaken 8).poll? "hasty" = some (.ended (.error (.timeout "B" 5))) ∧
      ∃ r, (after overtaken 8).poll? "patient" = some (.ended (.ok r)) ∧
        (after overtaken 7).poll? "timely" = some (.ended (.ok r)) := by
  obtain ⟨hagree, hsame, -⟩ := waiters_agree overtaken
  have hhasty : (Wait.mk 2 "hasty" "B" (some 5)).IsIn overtaken :=
    ⟨rfl, ⟨_, rfl⟩, by simp, by simp [overtaken]⟩
  have hpatient : (Wait.mk 3 "patient" "B" none).IsIn overtaken :=
    ⟨rfl, ⟨_, rfl⟩, by simp, by simp [overtaken]⟩
  have htimely : (Wait.mk 5 "timely" "B" (some 20)).IsIn overtaken :=
    ⟨rfl, ⟨_, rfl⟩, by simp, by simp [overtaken]⟩
  -- the node is pending when the first deadline comes, and resolved in the end
  have hpending : (after overtaken 5).graph.find? "B" = some ⟨"B", some "A", .pending, none, false⟩ := by decide
  have hresolved : ∀ k ∈ [7, 8], (after overtaken k).graph.find? "B" =
      some ⟨"B", some "A", .resolved, some (.plain "b"), true⟩ := by decide
  have hanswers : ∀ w : Wait, w.IsIn overtaken → w.title = "B" → ∀ k ∈ [7, 8], w.place < k →
      (∀ ms, w.limit = some ms → (after overtaken 7).now < w.began overtaken + ms) →
      ∃ r, (after overtaken k).poll? w.name = some (.ended (.ok r)) := by
    intro w hw htitle k hk hplace hearly
    obtain ⟨n, s, hn, hpoll, hwait⟩ := hagree w hw k hplace
    rw [htitle, hresolved k hk] at hn
    cases hn
    obtain ⟨o, rfl⟩ := hwait.ends (by decide)
    cases o with
    | error f => exact absurd rfl (hwait.inTime 7 _ (htitle ▸ hresolved 7 (by decide)) (by simp) hearly f)
    | ok r => exact ⟨r, hpoll⟩
  obtain ⟨n, s, -, hpoll, hwait⟩ := hagree _ hhasty 8 (by decide)
  have hlate := hwait.late 5 _ 5 (by decide) (by decide) hpending rfl rfl (by decide)
  obtain ⟨r, hr⟩ := hanswers _ hpatient rfl 8 (by decide) (by decide) nofun
  obtain ⟨r', hr'⟩ := hanswers _ htimely rfl 7 (by decide) (by decide) fun ms hms => by cases hms; decide
  obtain rfl := hsame _ _ hpatient htimely rfl 8 7 r r' (by decide) (by decide) hr hr'
  exact ⟨hlate ▸ hpoll, r, hr, hr'⟩

end TimedGraph

end CursorSpec
