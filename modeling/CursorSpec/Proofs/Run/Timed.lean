/-
Steps on a loop come to what is computed for them.

Calls that are awaited together on a loop begin in the order of their starts, however long their commands take: each
turn begins the call that is first of those ahead, or ends one and leaves the editor as it is (`Plays`). So the editor
and the answer do not depend on the times (`awaits_iff`), and neither do those of a step (`performs_iff`) or of all
steps of a test (`performsAll_iff`).
-/
import CursorSpec.Proofs.Except
import CursorSpec.Proofs.Run.Loop
import CursorSpec.Proofs.Run.Steps
import CursorSpec.Run.Timed

namespace CursorSpec

/-! ## Calls -/

abbrev RunningCall : Type := TimedCall × Stage (Except EditorFault Reply) (Except EditorFault Value)

abbrev Loop.OfCalls : Type := Loop TimedCall Editor (Except EditorFault Reply) (Except EditorFault Value)

namespace RunningCall

/-- the start that is ahead of a call -/
def ahead (p : RunningCall) : List (Group.Event (Nat × Call)) :=
  match p.2 with
  | .asleep wake => [⟨wake, .zero, (p.1.place, p.1.call)⟩]
  | _ => []

/-- whether a call has succeeded, if it has begun -/
def begun (p : RunningCall) : List (Nat × Except EditorFault Unit) :=
  match p.2 with
  | .asleep _ => []
  | .busy _ _ r => [(p.1.place, r.map fun _ => ())]
  | .ended r => [(p.1.place, r.map fun _ => ())]

def callsAhead (ps : List RunningCall) : List (Nat × Call) := (Group.inOrder (ps.flatMap ahead)).map (·.act)

variable {m : TimedCall} {w : Instant} {before after : List RunningCall}
  {g' : Stage (Except EditorFault Reply) (Except EditorFault Value)}

theorem waits_of_mem_ahead {p : RunningCall} {f : Group.Event (Nat × Call)} (hf : f ∈ p.ahead) :
    p.2.waits? = some ⟨f.moment, f.since, ()⟩ := by
  obtain ⟨m, g⟩ := p
  cases g with
  | asleep w =>
    obtain rfl := List.mem_singleton.1 hf
    rfl
  | busy w since r => cases hf
  | ended r => cases hf

/-- The call whose turn it is to begin is the first of those ahead. -/
theorem callsAhead_next (next : Loop.IsNext before after ⟨w, .zero, ()⟩) (hg : ahead (m, g') = []) :
    callsAhead (before ++ (m, .asleep w) :: after) =
      (m.place, m.call) :: callsAhead (before ++ (m, g') :: after) := by
  let e : Group.Event (Nat × Call) := ⟨w, .zero, (m.place, m.call)⟩
  have hbefore : ∀ f ∈ before.flatMap ahead, ¬f.le e = true := by
    intro f hf
    obtain ⟨p, hp, hf⟩ := List.mem_flatMap.1 hf
    exact next.before p hp _ (waits_of_mem_ahead hf)
  have hafter : ∀ f ∈ after.flatMap ahead, e.le f = true := by
    intro f hf
    obtain ⟨p, hp, hf⟩ := List.mem_flatMap.1 hf
    exact next.after p hp _ (waits_of_mem_ahead hf)
  simp only [callsAhead, List.flatMap_append, List.flatMap_cons, hg, List.nil_append]
  exact congrArg (List.map (·.act)) (Group.inOrder_append_cons hbefore hafter)

theorem callsAhead_congr {g : Stage (Except EditorFault Reply) (Except EditorFault Value)}
    (h : ahead (m, g) = ahead (m, g')) :
    callsAhead (before ++ (m, g) :: after) = callsAhead (before ++ (m, g') :: after) := by
  simp only [callsAhead, List.flatMap_append, List.flatMap_cons, h]

end RunningCall

namespace Loop

open RunningCall

/-- a reply by whether it is a success -/
def plain {α : Type} (x : Nat × Except EditorFault α) : Nat × Except EditorFault Unit := (x.1, x.2.map fun _ => ())

/-- whether calls that have begun and calls that are ahead come to an editor and to answers -/
structure Plays (ms : List TimedCall) (last : Editor) (answers : List (Nat × Except EditorFault Unit))
    (l : OfCalls) : Prop where
  members : l.members.map (·.1) = ms
  last : (l.shared.startAll (callsAhead l.members)).1 = last
  answers : (l.members.flatMap begun ++ (l.shared.startAll (callsAhead l.members)).2.map plain).Perm answers

variable {ms : List TimedCall} {last : Editor} {answers : List (Nat × Except EditorFault Unit)} {l l' : OfCalls}

/-- A call that begins has been the first of those ahead. -/
theorem Plays.begins {now w now' : Instant} {s : Editor} {n n' : Nat} {m : TimedCall} {before after : List RunningCall}
    (plays : Plays ms last answers ⟨now, s, before ++ (m, .asleep w) :: after, n⟩)
    (next : IsNext before after ⟨w, .zero, ()⟩) {g' : Stage (Except EditorFault Reply) (Except EditorFault Value)}
    (hahead : ahead (m, g') = []) (hbegun : begun (m, g') = [plain (m.place, (s.start m.call).2)]) :
    Plays ms last answers ⟨now', (s.start m.call).1, before ++ (m, g') :: after, n'⟩ := by
  obtain ⟨hmembers, hlast, hanswers⟩ := plays
  simp only [callsAhead_next next hahead, Editor.startAll_cons] at hlast hanswers
  refine ⟨by simpa using hmembers, hlast, List.Perm.trans ?_ hanswers⟩
  have hasleep : begun (m, .asleep w) = [] := rfl
  simp only [List.flatMap_append, List.flatMap_cons, hbegun, hasleep, List.map_cons, List.append_assoc,
    List.nil_append, List.singleton_append]
  exact List.perm_middle.symm.append_left _

/-- A call that ends leaves the editor and what it has answered. -/
theorem Plays.ends {now now' w since : Instant} {s : Editor} {n n' : Nat} {m : TimedCall}
    {before after : List RunningCall} {r : Except EditorFault Reply}
    (plays : Plays ms last answers ⟨now, s, before ++ (m, .busy w since r) :: after, n⟩)
    {r' : Except EditorFault Value} (hr : (r'.map fun _ => ()) = r.map fun _ => ()) :
    Plays ms last answers ⟨now', s, before ++ (m, .ended r') :: after, n'⟩ := by
  obtain ⟨hmembers, hlast, hanswers⟩ := plays
  have hbegun : begun (m, .busy w since r) = begun (m, .ended r') := by simp only [begun, hr]
  have hahead : callsAhead (before ++ (m, .busy w since r) :: after) =
      callsAhead (before ++ (m, .ended r') :: after) := callsAhead_congr rfl
  rw [hahead] at hlast hanswers
  refine ⟨by simpa using hmembers, hlast, ?_⟩
  simpa only [List.flatMap_append, List.flatMap_cons, hbegun] using hanswers

theorem map_valueIn (e : Editor) (r : Except EditorFault Reply) :
    ((r.map (Reply.valueIn e)).map fun _ => ()) = r.map fun _ => () := by
  cases r <;> rfl

/-- **Every turn plays on.** -/
theorem Step.plays (h : Step TimedCall.conduct l l') (plays : Plays ms last answers l) : Plays ms last answers l' := by
  cases h with
  | starts takes next => exact plays.begins next rfl rfl
  | passes takes next =>
    refine plays.begins next rfl ?_
    exact congrArg (fun r => [(_, r)]) (map_valueIn _ _)
  | stops next => exact plays.ends (map_valueIn _ _)

/-- What calls have answered when all of them have ended. -/
theorem begun_of_idle {ps : List RunningCall} (idle : ∀ p ∈ ps, p.2.waits? = none) :
    ps.flatMap ahead = [] ∧ (ps.flatMap begun).map (·.1) = (ps.map (·.1)).map TimedCall.place ∧
      (ps.flatMap begun).map (·.2) = (ps.filterMap (·.2.answer?)).map (·.map fun _ => ()) := by
  induction ps with
  | nil => exact ⟨rfl, rfl, rfl⟩
  | cons p ps ih =>
    obtain ⟨hahead, hplaces, hanswers⟩ := ih fun q hq => idle q (List.mem_cons_of_mem p hq)
    obtain ⟨m, g⟩ := p
    have hg : g.waits? = none := idle (m, g) List.mem_cons_self
    cases g with
    | asleep w => cases hg
    | busy w since r => cases hg
    | ended r => exact ⟨hahead, congrArg (m.place :: ·) hplaces, congrArg ((r.map fun _ => ()) :: ·) hanswers⟩

end Loop

/-! ## Groups of calls -/

namespace Editor

open RunningCall

variable {e e' : Editor}

theorem plays_opening (e : Editor) (calls : List (Option Int × Call)) (takes : Nat → Option Int) :
    let starts := (Group.starts (calls.mapIdx fun i c => (c.1, (i, c.2)))).map (·.act)
    Loop.Plays (timed calls takes) (e.startAll starts).1 ((e.startAll starts).2.map Loop.plain)
      (Loop.opening TimedCall.conduct e (timed calls takes)) := by
  intro starts
  have hahead : callsAhead (Loop.opening TimedCall.conduct e (timed calls takes)).members = starts := by
    have hevents : (Loop.opening TimedCall.conduct e (timed calls takes)).members.flatMap ahead =
        (calls.mapIdx fun i c => (c.1, (i, c.2))).map fun m => ⟨Instant.zero.afterSome m.1, .zero, m.2⟩ := by
      rw [Loop.opening, List.flatMap_map, timed]
      refine (List.map_eq_flatMap (f := fun m : TimedCall =>
        (⟨Instant.zero.afterSome m.delay, .zero, (m.place, m.call)⟩ : Group.Event (Nat × Call)))).symm.trans ?_
      exact List.ext_getElem (by simp) (by simp)
    exact congrArg (fun es => (Group.inOrder es).map (·.act)) hevents
  have hbegun : (Loop.opening TimedCall.conduct e (timed calls takes)).members.flatMap begun = [] := by
    rw [Loop.opening, List.flatMap_map, List.flatMap_eq_nil_iff]
    exact fun _ _ => rfl
  refine ⟨by simp [Loop.opening, Function.comp_def], ?_, ?_⟩
  · rw [hahead]
    rfl
  · rw [hahead, hbegun]
    exact List.Perm.refl _

/-- Answers of calls are put in the order of the calls in one way. -/
theorem sortBy_place {α : Type} {rs : List (Nat × Except EditorFault α)}
    {answers : List (Nat × Except EditorFault Unit)}
    (hperm : answers.Perm (rs.map Loop.plain)) (ascending : (answers.map (·.1)).Pairwise (· < ·)) :
    (sortBy (fun a b => decide (a.1 ≤ b.1)) rs).map Loop.plain = answers := by
  have hsorted : ((sortBy (fun a b => decide (a.1 ≤ b.1)) rs).map Loop.plain).Pairwise fun a b => a.1 ≤ b.1 := by
    rw [List.pairwise_map]
    have h : (sortBy (fun a b => decide (a.1 ≤ b.1)) rs).Pairwise fun a b => decide (a.1 ≤ b.1) = true :=
      sortBy_pairwise (fun a b => by simpa using le_total a.1 b.1) (fun a b c => by simpa using le_trans) rs
    exact h.imp of_decide_eq_true
  have hdistinct : (answers.map (·.1)).Nodup := ascending.imp Nat.ne_of_lt
  have hascending := List.pairwise_map.1 ascending
  have hanswers : ((sortBy (fun a b => decide (a.1 ≤ b.1)) rs).map Loop.plain).Perm answers :=
    ((sortBy_perm _ rs).map Loop.plain).trans hperm.symm
  refine hanswers.eq_of_pairwise (fun a b ha hb hab hba => ?_) hsorted (hascending.imp Nat.le_of_lt)
  exact List.inj_on_of_nodup_map hdistinct (hanswers.mem_iff.1 ha) hb (Nat.le_antisymm hab hba)

/-- Calls that have answered on a loop have come to what is computed for them. -/
theorem awaitAll_of_runs {calls : List (Option Int × Call)} {takes : Nat → Option Int} {l : Loop.OfCalls}
    {values : Except EditorFault (List Value)}
    (runs : Loop.Runs TimedCall.conduct (Loop.opening TimedCall.conduct e (timed calls takes)) l)
    (answer : l.joined? = some values) : e.awaitAll calls = (l.shared, values.map fun _ => ()) := by
  obtain ⟨hcount, hvalues⟩ := Option.ite_none_right_eq_some.1 answer
  have idle := (runs.counted (Loop.counted_opening _ _ _)).count_eq_length_iff.1 hcount
  obtain ⟨hahead, hplaces, hanswers⟩ := Loop.begun_of_idle idle
  obtain ⟨hmembers, hlast, hperm⟩ := runs.keep (fun _ _ step => step.plays) (plays_opening e calls takes)
  have hnone : callsAhead l.members = [] := by
    rw [callsAhead, hahead]
    rfl
  rw [hnone] at hlast hperm
  rw [startAll, List.map_nil, List.append_nil] at hperm
  have ascending : ((l.members.flatMap begun).map (·.1)).Pairwise (· < ·) := by
    have hrange : (timed calls takes).map TimedCall.place = List.range calls.length :=
      List.ext_getElem (by simp [timed]) (by simp [timed])
    rw [hplaces, hmembers, hrange]
    exact List.pairwise_lt_range
  -- the loop gathers the answers by members, and what is computed sorts them by places: there is one such order
  have hsort := congrArg (List.map (·.2)) (sortBy_place hperm ascending)
  rw [hanswers, List.map_map] at hsort
  rw [awaitAll, Prod.mk.injEq]
  refine ⟨hlast.symm, ?_⟩
  rw [Group.joined_map_unit, List.map_map, ← Option.some.inj hvalues, Group.joined_map_unit (l.members.filterMap _)]
  exact congrArg (fun rs => (Group.joined rs).map fun _ => ()) hsort

/-- **Calls that are awaited together come to what is computed for them**, and to nothing else, however long their
commands take. -/
theorem awaits_iff {takes : Nat → Option Int} {calls : List (Option Int × Call)} {r : Except EditorFault Unit} :
    e.Awaits takes calls e' r ↔ e.awaitAll calls = (e', r) := by
  constructor
  · rintro ⟨l, values, runs, answer, rfl, rfl⟩
    exact awaitAll_of_runs runs answer
  · intro h
    obtain ⟨l, runs, hcount⟩ := Loop.exists_runs_count (c := TimedCall.conduct) _
      (Loop.counted_opening TimedCall.conduct e (timed calls takes))
    have hanswer : l.joined? = some (Group.joined (l.members.filterMap (·.2.answer?))) := if_pos hcount
    rw [awaitAll_of_runs runs hanswer, Prod.mk.injEq] at h
    exact ⟨l, _, runs, hanswer, h.1, h.2⟩

/-! ## Steps -/

variable {names : CommandNames} {s : TestStep} {r : Except TestFault Unit}

/-- A call by itself is a group of one. -/
theorem awaitAll_singleton (e : Editor) (c : Call) :
    e.awaitAll [(none, c)] = ((e.start c).1, (e.start c).2.map fun _ => ()) := by
  have hstarts : (Group.starts ([((none : Option Int), c)].mapIdx fun i c => (c.1, (i, c.2)))).map (·.act) = [(0, c)] :=
    rfl
  simp only [awaitAll, hstarts, startAll_cons, startAll]
  cases (e.start c).2 with
  | error f => rfl
  | ok v => rfl

theorem performs_iff {takes : Nat → Option Int} :
    e.Performs names takes s e' r ↔ e.perform names s = (e', r) := by
  cases s with
  | configure f =>
    simp only [Performs, awaits_iff, awaitAll_singleton, perform, Prod.mk.injEq]
    constructor
    · rintro ⟨r', ⟨rfl, rfl⟩, rfl⟩
      exact ⟨rfl, rfl⟩
    · rintro ⟨rfl, rfl⟩
      exact ⟨_, ⟨rfl, rfl⟩, rfl⟩
  | invoke i is =>
    simp only [Performs, perform]
    cases (i :: is).mapM fun j => j.call.map fun c => (j.delay?, c) with
    | error f =>
      simp only [Prod.mk.injEq]
      exact ⟨fun h => ⟨h.1.symm, h.2.symm⟩, fun h => ⟨h.1.symm, h.2.symm⟩⟩
    | ok calls =>
      simp only [awaits_iff]
      constructor
      · rintro ⟨r', h, rfl⟩
        rw [h]
      · intro h
        obtain ⟨rfl, rfl⟩ := Prod.mk.inj h
        exact ⟨_, rfl, rfl⟩

/-- **The steps of a test come to what is computed for them**, and to nothing else, however long their commands take. -/
theorem performsAll_iff {takes : Nat → Nat → Option Int} {ss : List TestStep} :
    PerformsAll names takes e ss e' r ↔ e.performAll names ss = (e', r) := by
  constructor
  · intro h
    induction h with
    | done => rfl
    | goesOn succeeds rest ih => rw [performAll_cons, performs_iff.1 succeeds, ih]
    | fails fault => rw [performAll_cons, performs_iff.1 fault]
  · intro h
    induction ss generalizing takes e with
    | nil =>
      cases h
      exact .done
    | cons s ss ih =>
      rw [performAll_cons] at h
      rcases hs : e.perform names s with ⟨e₁, f | u⟩
      · rw [hs] at h
        cases h
        exact .fails (performs_iff.2 hs)
      · rw [hs] at h
        exact .goesOn (performs_iff.2 hs) (ih h)

/-- The times of commands make no difference to what becomes of steps. -/
theorem performsAll_iff_of_performAll {ss : List TestStep} (h : e.performAll names ss = (e', r))
    (takes : Nat → Nat → Option Int) (e'' : Editor) (r' : Except TestFault Unit) :
    PerformsAll names takes e ss e'' r' ↔ e'' = e' ∧ r' = r := by
  rw [performsAll_iff, h, Prod.mk.injEq, eq_comm, eq_comm (a := r)]

end Editor

end CursorSpec
