/-
A group that is awaited together leaves nothing running.

On its loop a group keeps to its plan: what was logged, followed by what is left to log in order, is the log of the
group (`Keeps.log`). Each turn takes the first of what is left (`log_next`), so the plan holds in every run
(`keeps_of_runs`), and a group that answers has nothing left. Then its log, its end and its answer are the ones that
`Group.log`, `Group.ended` and `Group.joined` give right away (`joined_leaves_nothing_running`).
-/
import CursorSpec.Proofs.Run.Loop

namespace CursorSpec

variable {ε α : Type}

namespace Group

/-- an event without what is done -/
def Event.awaited {β : Type} (e : Event β) : Event Unit := ⟨e.moment, e.since, ()⟩

end Group

/-! ## Members -/

namespace Member

/-- how a member of a group stands at some moment -/
inductive Stands (m : Member ε α) (now : Instant) : Stage Unit (Except ε α) → Prop
  | asleep (ahead : now.le m.start = true) : Stands m now (.asleep m.start)
  | busy {ms : Int} (takes : m.takes = some ms) (ahead : now.le m.stop = true) :
    Stands m now (.busy m.stop m.start ())
  | ended (behind : m.stop.le now = true) : Stands m now (.ended m.result)

/-- what a member has left to log -/
def left (m : Member ε α) : Stage Unit (Except ε α) → List (Group.Event (List LogLine))
  | .asleep _ => m.events
  | .busy _ _ _ => [⟨m.stop, m.start, [m.line "end" m.stop]⟩]
  | .ended _ => []

variable {m : Member ε α} {now w : Instant} {g : Stage Unit (Except ε α)}

theorem start_le_stop (m : Member ε α) : m.start.le m.stop = true := Instant.le_afterSome _ _

theorem time_start (delay : ∀ x ∈ m.delay, 0 ≤ x) : m.start.time = m.delay.getD 0 :=
  (Instant.time_afterSome .zero delay).trans (Int.zero_add _)

theorem time_stop (delay : ∀ x ∈ m.delay, 0 ≤ x) (takes : ∀ x ∈ m.takes, 0 ≤ x) :
    m.stop.time = m.delay.getD 0 + m.takes.getD 0 := by
  rw [← time_start delay]
  exact Instant.time_afterSome m.start takes

/-- A member stands as it did at a later moment, unless that is past what it waits for. -/
theorem Stands.later (h : m.Stands now g) (hnow : now.le w = true)
    (hw : ∀ f, g.waits? = some f → w.le f.moment = true) : m.Stands w g := by
  cases h with
  | asleep ahead => exact .asleep (hw _ rfl)
  | busy takes ahead => exact .busy takes (hw _ rfl)
  | ended behind => exact .ended (Instant.le_trans behind hnow)

/-- Nothing that a member has left to log comes before what it waits for. -/
theorem Stands.exists_waits (h : m.Stands now g) {e : Group.Event (List LogLine)} (he : e ∈ m.left g) :
    ∃ f, g.waits? = some f ∧ now.le f.moment = true ∧ f.le e.awaited = true := by
  have self (f : Group.Event Unit) : f.le f = true := (Group.Event.le_total f f).elim id id
  cases h with
  | asleep ahead =>
    refine ⟨_, rfl, ahead, ?_⟩
    rw [left, events] at he
    split at he
    · next htakes =>
      obtain ⟨ms, hms⟩ := Option.isSome_iff_exists.1 htakes
      have hstop : m.start.le m.stop = true ∧ m.start ≠ m.stop := by
        rw [stop, hms]
        exact Instant.lt_after m.start ms
      rcases List.mem_cons.1 he with rfl | he
      · exact self _
      · rw [List.mem_singleton.1 he]
        exact Group.Event.le_iff.2 (Or.inr ⟨hstop.2, hstop.1⟩)
    · rw [List.mem_singleton.1 he]
      exact self _
  | busy takes ahead =>
    refine ⟨_, rfl, ahead, ?_⟩
    rw [List.mem_singleton.1 he]
    exact self _
  | ended behind => cases he

/-- What a member logs, with the times of its start and its end. -/
theorem lines_events (m : Member ε α) :
    m.events.flatMap (·.act) = [m.line "start" m.start, m.line "end" m.stop] := by
  rw [events]
  split
  · rfl
  · rfl

theorem time_of_mem_events {e : Group.Event (List LogLine)} (he : e ∈ m.events) {x : LogLine} (hx : x ∈ e.act) :
    x.time = e.moment.time := by
  rw [events] at he
  split at he
  · rcases List.mem_cons.1 he with rfl | he
    · rw [List.mem_singleton.1 hx]
      rfl
    · obtain rfl := List.mem_singleton.1 he
      rw [List.mem_singleton.1 hx]
      rfl
  · next htakes =>
    have hstop : m.stop = m.start := by
      rw [stop, Option.not_isSome_iff_eq_none.1 htakes]
      rfl
    obtain rfl := List.mem_singleton.1 he
    rcases List.mem_cons.1 hx with rfl | hx
    · rfl
    · rw [List.mem_singleton.1 hx]
      exact congrArg Instant.time hstop

end Member

/-! ## The plan of a group -/

namespace Loop

abbrev OfMembers (ε α : Type) : Type := Loop (Member ε α) (List LogLine) Unit (Except ε α)

def linesLeft (ps : List (Member ε α × Stage Unit (Except ε α))) : List LogLine :=
  (Group.inOrder (ps.flatMap fun p => p.1.left p.2)).flatMap (·.act)

structure Keeps (ms : List (Member ε α)) (l : OfMembers ε α) : Prop where
  members : l.members.map (·.1) = ms
  stands : ∀ p ∈ l.members, p.1.Stands l.now p.2
  log : l.shared ++ linesLeft l.members = Group.log ms
  begun : Instant.zero.le l.now = true
  now : l.now = .zero ∨ ∃ m ∈ ms, l.now.le m.stop = true

variable {now w : Instant} {m : Member ε α} {g g' : Stage Unit (Except ε α)}
  {before after : List (Member ε α × Stage Unit (Except ε α))}

/-- The member whose turn it is logs first of all. -/
theorem log_next {since : Instant} {lines : List LogLine}
    (stands : ∀ p ∈ before ++ (m, g) :: after, p.1.Stands now p.2) (next : IsNext before after ⟨w, since, ()⟩)
    (waits : g.waits? = some ⟨w, since, ()⟩) (hg : m.left g = ⟨w, since, lines⟩ :: m.left g') :
    linesLeft (before ++ (m, g) :: after) = lines ++ linesLeft (before ++ (m, g') :: after) := by
  let e : Group.Event (List LogLine) := ⟨w, since, lines⟩
  have hbefore : ∀ f ∈ before.flatMap fun p => p.1.left p.2, ¬f.le e = true := by
    intro f hf hle
    obtain ⟨p, hp, hf⟩ := List.mem_flatMap.1 hf
    obtain ⟨x, hx, -, hxf⟩ := (stands p (List.mem_append_left _ hp)).exists_waits hf
    exact next.before p hp x hx (Group.Event.le_trans _ _ _ hxf hle)
  have hself : ∀ f ∈ m.left g', e.le f = true := by
    intro f hf
    obtain ⟨x, hx, -, hxf⟩ := (stands (m, g) (by simp)).exists_waits (hg ▸ List.mem_cons_of_mem _ hf)
    obtain rfl := Option.some.inj (hx.symm.trans waits)
    exact hxf
  have hafter : ∀ f ∈ after.flatMap fun p => p.1.left p.2, e.le f = true := by
    intro f hf
    obtain ⟨p, hp, hf⟩ := List.mem_flatMap.1 hf
    obtain ⟨x, hx, -, hxf⟩ := (stands p (List.mem_append_right _ (List.mem_cons_of_mem _ hp))).exists_waits hf
    have hle : e.awaited.le f.awaited = true := Group.Event.le_trans _ _ _ (next.after p hp x hx) hxf
    exact hle
  -- `e` is the first of all that is left, so sorting takes it off before the rest
  have hrest : ∀ f ∈ m.left g' ++ after.flatMap (fun p => p.1.left p.2), e.le f = true := fun f hf =>
    (List.mem_append.1 hf).elim (hself f) (hafter f)
  simp only [linesLeft, List.flatMap_append, List.flatMap_cons, hg, List.cons_append]
  exact congrArg (List.flatMap (·.act)) (Group.inOrder_append_cons hbefore hrest)

theorem keeps_opening (ms : List (Member ε α)) : Keeps ms (opening (Member.conduct ε α) [] ms) where
  members := by simp [opening, Function.comp_def]
  stands := by
    intro p hp
    obtain ⟨m, -, rfl⟩ := List.mem_map.1 hp
    exact .asleep (Instant.le_afterSome _ _)
  log := by simp [opening, linesLeft, List.flatMap_map, Member.left, Group.log]
  begun := Instant.le_refl _
  now := Or.inl rfl

/-- The moment of the member whose turn it is comes before everything that is waited for. -/
theorem IsNext.le_waits {μ ρ υ : Type} {before after : List (μ × Stage ρ υ)} {e : Group.Event Unit}
    (next : IsNext before after e) {p : μ × Stage ρ υ} (hp : p ∈ before ++ after) {f : Group.Event Unit}
    (hf : p.2.waits? = some f) : e.moment.le f.moment = true := by
  rcases List.mem_append.1 hp with hp | hp
  · exact Group.Event.moment_le ((Group.Event.le_total e f).resolve_right (next.before p hp f hf))
  · exact Group.Event.moment_le (next.after p hp f hf)

/-- The other members stand as they did when one has had its turn. -/
theorem stands_next {e : Group.Event Unit} (stands : ∀ p ∈ before ++ (m, g) :: after, p.1.Stands now p.2)
    (next : IsNext before after e) (hnow : now.le e.moment = true) (hm : m.Stands e.moment g') :
    ∀ p ∈ before ++ (m, g') :: after, p.1.Stands e.moment p.2 := by
  have hothers : ∀ p ∈ before ++ after, p.1.Stands e.moment p.2 := by
    intro p hp
    have hmem : p ∈ before ++ (m, g) :: after :=
      List.mem_append.2 ((List.mem_append.1 hp).imp id (List.mem_cons_of_mem _))
    exact (stands p hmem).later hnow fun f hf => next.le_waits hp hf
  intro p hp
  rcases List.mem_append.1 hp with hp | hp
  · exact hothers p (List.mem_append_left _ hp)
  · rcases List.mem_cons.1 hp with rfl | hp
    · exact hm
    · exact hothers p (List.mem_append_right _ hp)

variable {ms : List (Member ε α)} {l l' : OfMembers ε α}

/-- A turn in which a member logs what it has left first keeps the plan. -/
theorem Keeps.turn {s s' lines : List LogLine} {n n' : Nat} {since : Instant}
    (keeps : Keeps ms ⟨now, s, before ++ (m, g) :: after, n⟩) (next : IsNext before after ⟨w, since, ()⟩)
    (waits : g.waits? = some ⟨w, since, ()⟩) (hg : m.left g = ⟨w, since, lines⟩ :: m.left g')
    (ahead : now.le w = true) (inTime : w.le m.stop = true) (hm : m.Stands w g') (hs : s' = s ++ lines) :
    Keeps ms ⟨w, s', before ++ (m, g') :: after, n'⟩ where
  members := by simpa using keeps.members
  stands := stands_next keeps.stands next ahead hm
  log := by rw [← keeps.log, log_next keeps.stands next waits hg, ← List.append_assoc, hs]
  begun := Instant.le_trans keeps.begun ahead
  now := Or.inr ⟨m, by simp [← keeps.members], inTime⟩

/-- **Every turn keeps the plan.** -/
theorem Step.keeps (h : Step (Member.conduct ε α) l l') (keeps : Keeps ms l) : Keeps ms l' := by
  cases h with
  | @starts now w s n m before after x takes next =>
    have hstand : m.Stands now (.asleep w) := keeps.stands (m, .asleep w) (by simp)
    cases hstand with
    | asleep ahead =>
      have takes : m.takes = some x := takes
      have hstop : m.stop = m.start.after x := by rw [Member.stop, takes]; rfl
      have hevents : m.events = ⟨m.start, .zero, [m.line "start" m.start]⟩ ::
          m.left (.busy (m.start.after x) m.start ()) := by
        rw [Member.events, if_pos (by rw [takes]; rfl)]
        rfl
      refine keeps.turn next rfl hevents ahead m.start_le_stop ?_ rfl
      rw [← hstop]
      exact .busy takes m.start_le_stop
  | @passes now w s n m before after takes next =>
    have hstand : m.Stands now (.asleep w) := keeps.stands (m, .asleep w) (by simp)
    cases hstand with
    | asleep ahead =>
      have takes : m.takes = none := takes
      have hstop : m.stop = m.start := by rw [Member.stop, takes]; rfl
      have hevents : m.events = ⟨m.start, .zero, [m.line "start" m.start, m.line "end" m.start]⟩ ::
          m.left (.ended m.result) := by
        rw [Member.events, if_neg (by rw [takes]; exact nofun), hstop]
        rfl
      exact keeps.turn next rfl hevents ahead m.start_le_stop (.ended (hstop ▸ Instant.le_refl _))
        (List.append_assoc s _ _)
  | @stops now w since s n m before after r next =>
    have hstand : m.Stands now (.busy w since r) := keeps.stands (m, .busy w since r) (by simp)
    cases hstand with
    | busy takes ahead =>
      exact keeps.turn next rfl rfl ahead (Instant.le_refl _) (.ended (Instant.le_refl _)) rfl

/-- **A group keeps to its plan in every run.** -/
theorem keeps_of_runs (h : Runs (Member.conduct ε α) (opening (Member.conduct ε α) [] ms) l) : Keeps ms l :=
  h.keep (fun _ _ step => step.keeps) (keeps_opening ms)

/-- When nothing is waited for, all members have ended, and the clock stands at the last end. -/
theorem Keeps.of_idle (keeps : Keeps ms l) (idle : ∀ p ∈ l.members, p.2.waits? = none) :
    l.members = ms.map (fun m => (m, .ended m.result)) ∧ l.shared = Group.log ms ∧ l.now.time = Group.ended ms := by
  have hended : ∀ p ∈ l.members, p = (p.1, .ended p.1.result) ∧ p.1.stop.le l.now = true := by
    rintro ⟨m, g⟩ hp
    have hstand : m.Stands l.now g := keeps.stands (m, g) hp
    have hidle : g.waits? = none := idle (m, g) hp
    cases hstand with
    | asleep ahead => cases hidle
    | busy takes ahead => cases hidle
    | ended behind => exact ⟨rfl, behind⟩
  have hmembers : l.members = ms.map fun m => (m, .ended m.result) := by
    rw [← keeps.members, List.map_map]
    exact (List.map_id _).symm.trans (List.map_congr_left fun p hp => (hended p hp).1)
  refine ⟨hmembers, ?_, le_antisymm ?_ ?_⟩
  · have hnone : (l.members.flatMap fun p => p.1.left p.2) = [] := by
      rw [hmembers, List.flatMap_map, List.flatMap_eq_nil_iff]
      exact fun _ _ => rfl
    rw [← keeps.log, linesLeft, hnone]
    exact (List.append_nil _).symm
  · rcases keeps.now with h | ⟨m, hm, h⟩
    · rw [h]
      exact le_foldl_max _ 0
    · have hmem : m.stop.time ∈ ms.map fun m => m.stop.time := List.mem_map_of_mem hm
      exact (Instant.time_le h).trans ((foldl_max_le_iff.1 le_rfl).2 _ hmem)
  · refine foldl_max_le_iff.2 ⟨Instant.time_le keeps.begun, fun t ht => ?_⟩
    obtain ⟨m, hm, rfl⟩ := List.mem_map.1 ht
    rw [← keeps.members] at hm
    obtain ⟨p, hp, rfl⟩ := List.mem_map.1 hm
    exact Instant.time_le (hended p hp).2

end Loop

/-! ## Groups that answer -/

namespace Group

structure Settled (ms : List (Member ε α)) (l : Loop.OfMembers ε α) (r : Except ε (List α)) : Prop where
  /-- no member is left running -/
  members : l.members = ms.map fun m => (m, .ended m.result)
  log : l.shared = Group.log ms
  /-- every member has logged its start and its end, once each -/
  lines : (Group.log ms).Perm (ms.flatMap fun m =>
    [⟨m.delay.getD 0, m.name, "start"⟩, ⟨m.delay.getD 0 + m.takes.getD 0, m.name, "end"⟩])
  sorted : (Group.log ms).Pairwise fun x y => x.time ≤ y.time
  time : l.now.time = ended ms
  latest : ended ms = (ms.map fun m => m.delay.getD 0 + m.takes.getD 0).foldl max 0
  answer : r = joined (ms.map (·.result))
  succeeds_iff : ∀ as, r = .ok as ↔ ms.map (·.result) = as.map .ok
  /-- of several members that fail it is the first in their order that counts -/
  fails_iff : ∀ e, r = .error e ↔ ∃ before m after, ms = before ++ m :: after ∧
    (∀ b ∈ before, ∃ a, b.result = .ok a) ∧ m.result = .error e

variable {ms : List (Member ε α)}

theorem log_pairwise (ms : List (Member ε α)) : (log ms).Pairwise fun x y => x.time ≤ y.time := by
  have htime : ∀ e ∈ inOrder (ms.flatMap Member.events), ∀ x ∈ e.act, x.time = e.moment.time := by
    intro e he x hx
    obtain ⟨m, -, he⟩ := List.mem_flatMap.1 ((inOrder_perm _).mem_iff.1 he)
    exact Member.time_of_mem_events he hx
  rw [log, List.pairwise_flatMap]
  constructor
  · intro e he
    refine List.pairwise_of_forall_mem_list fun x hx y hy => ?_
    rw [htime e he x hx, htime e he y hy]
  · refine (inOrder_pairwise _).imp_of_mem fun he hf hef x hx y hy => ?_
    rw [htime _ he x hx, htime _ hf y hy]
    exact Instant.time_le (Event.moment_le hef)

theorem log_perm (ms : List (Member ε α)) :
    (log ms).Perm (ms.flatMap fun m => [m.line "start" m.start, m.line "end" m.stop]) := by
  have h := (inOrder_perm (ms.flatMap Member.events)).flatMap_right (·.act)
  rwa [List.flatMap_assoc, funext Member.lines_events] at h

/-- When every line is logged, if no time is negative. -/
theorem lines_perm (delays : ∀ m ∈ ms, ∀ x ∈ m.delay, 0 ≤ x) (takes : ∀ m ∈ ms, ∀ x ∈ m.takes, 0 ≤ x) :
    (log ms).Perm (ms.flatMap fun m =>
      [⟨m.delay.getD 0, m.name, "start"⟩, ⟨m.delay.getD 0 + m.takes.getD 0, m.name, "end"⟩]) := by
  have hlines : (ms.flatMap fun m => [m.line "start" m.start, m.line "end" m.stop]) =
      ms.flatMap fun m =>
        [⟨m.delay.getD 0, m.name, "start"⟩, ⟨m.delay.getD 0 + m.takes.getD 0, m.name, "end"⟩] :=
    List.flatMap_congr fun m hm => by
      rw [Member.line, Member.line, Member.time_start (delays m hm), Member.time_stop (delays m hm) (takes m hm)]
  exact hlines ▸ log_perm ms

/-- **A group that is awaited together leaves nothing running**, whatever its members take and however many of them
fail. Its loop always comes to an answer, and not before every member has logged its start and its end. -/
theorem joined_leaves_nothing_running {ms : List (Member ε α)} (delays : ∀ m ∈ ms, ∀ x ∈ m.delay, 0 ≤ x)
    (takes : ∀ m ∈ ms, ∀ x ∈ m.takes, 0 ≤ x) {l : Loop.OfMembers ε α}
    (runs : Loop.Runs (Member.conduct ε α) (Loop.opening (Member.conduct ε α) [] ms) l) :
    (∃ l' r, Loop.Runs (Member.conduct ε α) l l' ∧ l'.joined? = some r) ∧
      ∀ r, l.joined? = some r → Settled ms l r := by
  have counted := runs.counted (Loop.counted_opening _ _ _)
  constructor
  · obtain ⟨l', runs', hcount⟩ := Loop.exists_runs_count (c := Member.conduct ε α) l counted
    exact ⟨l', _, runs', if_pos hcount⟩
  · intro r hr
    obtain ⟨hcount, hr⟩ := Option.ite_none_right_eq_some.1 hr
    obtain ⟨hmembers, hlog, htime⟩ := (Loop.keeps_of_runs runs).of_idle (counted.count_eq_length_iff.1 hcount)
    have hanswer : r = joined (ms.map (·.result)) := by
      rw [← Option.some.inj hr, hmembers, List.filterMap_map]
      exact congrArg joined (List.filterMap_eq_map ▸ rfl)
    have hstop : ∀ m ∈ ms, m.stop.time = m.delay.getD 0 + m.takes.getD 0 := fun m hm =>
      Member.time_stop (delays m hm) (takes m hm)
    exact {
      members := hmembers
      log := hlog
      lines := lines_perm delays takes
      sorted := log_pairwise ms
      time := htime
      latest := congrArg (List.foldl max 0) (List.map_congr_left hstop)
      answer := hanswer
      succeeds_iff := fun as => hanswer ▸ joined_eq_ok_iff
      fails_iff := fun e => hanswer ▸ joined_map_eq_error_iff }

/-- three members that end in another order than their own: the last fails first, and the first fails last -/
def rivals : List (Member Text Text) :=
  [⟨"slow", some 30, some 5, .error "slow failed"⟩, ⟨"quick", none, some 10, .ok "done"⟩,
    ⟨"early", some 0, none, .error "early failed"⟩]

theorem rivals_joined : ∃ l r,
    Loop.Runs (Member.conduct Text Text) (Loop.opening (Member.conduct Text Text) [] rivals) l ∧
      l.joined? = some r ∧ r = .error "slow failed" ∧ l.now.time = 35 ∧
    l.shared = [⟨0, "quick", "start"⟩, ⟨0, "early", "start"⟩, ⟨0, "early", "end"⟩, ⟨10, "quick", "end"⟩,
      ⟨30, "slow", "start"⟩, ⟨35, "slow", "end"⟩] := by
  have delays : ∀ m ∈ rivals, ∀ x ∈ m.delay, 0 ≤ x := by simp [rivals]
  have takes : ∀ m ∈ rivals, ∀ x ∈ m.takes, 0 ≤ x := by simp [rivals]
  obtain ⟨l, r, runs, hr⟩ := (joined_leaves_nothing_running delays takes .refl).1
  have settled := (joined_leaves_nothing_running delays takes runs).2 r hr
  exact ⟨l, r, runs, hr, settled.answer, settled.time, settled.log⟩

end Group

end CursorSpec
