/-
Groups on their loop.

Every turn brings one member closer to its end (`Step.left_lt`), and while a member waits there is a turn
(`exists_step`), so a group always comes to its end (`exists_runs_count`). The count that a group answers by counts what
it says (`Counted`), so when it answers, no member is left running (`Counted.count_eq_length_iff`).
-/
import CursorSpec.Proofs.Lists
import CursorSpec.Proofs.Sorting
import CursorSpec.Run.Loop

namespace CursorSpec

/-! ## Moments -/

namespace Instant

variable {i j k : Instant}

theorem le_iff : i.le j = true ↔ i.time < j.time ∨ i.time = j.time ∧ i.turn ≤ j.turn := by
  simp [le]

theorem le_total (i j : Instant) : i.le j = true ∨ j.le i = true := by
  rw [le_iff, le_iff]
  omega

theorem le_trans (hij : i.le j = true) (hjk : j.le k = true) : i.le k = true := by
  rw [le_iff] at *
  omega

theorem le_antisymm (hij : i.le j = true) (hji : j.le i = true) : i = j := by
  rw [le_iff] at *
  have htime : i.time = j.time := by omega
  have hturn : i.turn = j.turn := by omega
  cases i
  cases j
  rw [mk.injEq]
  exact ⟨htime, hturn⟩

theorem le_refl (i : Instant) : i.le i = true := le_iff.2 (Or.inr ⟨rfl, le_rfl⟩)

theorem time_le (h : i.le j = true) : i.time ≤ j.time := by
  rw [le_iff] at h
  omega

/-- Sleeping takes time, or a turn at least. -/
theorem lt_after (i : Instant) (ms : Int) : i.le (i.after ms) = true ∧ i ≠ i.after ms := by
  rw [after, le_iff]
  split
  · exact ⟨Or.inr ⟨rfl, Nat.le_succ _⟩, fun h => Nat.lt_irrefl _ (congrArg turn h).symm.le⟩
  · have hlt : i.time < i.time + ms := by omega
    exact ⟨Or.inl hlt, fun h => hlt.ne (congrArg time h)⟩

theorem le_afterSome (i : Instant) (ms : Option Int) : i.le (i.afterSome ms) = true := by
  cases ms with
  | none => exact le_refl i
  | some ms => exact (lt_after i ms).1

theorem time_afterSome (i : Instant) {ms : Option Int} (h : ∀ x ∈ ms, 0 ≤ x) :
    (i.afterSome ms).time = i.time + ms.getD 0 := by
  cases ms with
  | none => exact (Int.add_zero _).symm
  | some x =>
    have hx : 0 ≤ x := h x rfl
    rw [afterSome, Option.map_some, Option.getD_some, Option.getD_some, after]
    split
    · have : x = 0 := by omega
      rw [this, Int.add_zero]
    · rfl

end Instant

namespace Group

namespace Event

variable {α : Type} {e f g : Event α}

theorem le_iff : e.le f = true ↔
    (e.moment = f.moment ∧ e.since.le f.since = true) ∨ (e.moment ≠ f.moment ∧ e.moment.le f.moment = true) := by
  rw [le]
  split <;> simp [*]

theorem moment_le (h : e.le f = true) : e.moment.le f.moment = true := by
  rcases le_iff.1 h with ⟨h, -⟩ | ⟨-, h⟩
  · exact h ▸ Instant.le_refl _
  · exact h

theorem le_total (e f : Event α) : e.le f = true ∨ f.le e = true := by
  rw [le_iff, le_iff]
  by_cases h : e.moment = f.moment
  · exact (Instant.le_total e.since f.since).imp (fun hle => Or.inl ⟨h, hle⟩) fun hle => Or.inl ⟨h.symm, hle⟩
  · exact (Instant.le_total e.moment f.moment).imp (fun hle => Or.inr ⟨h, hle⟩) fun hle => Or.inr ⟨Ne.symm h, hle⟩

theorem le_trans (e f g : Event α) (hef : e.le f = true) (hfg : f.le g = true) : e.le g = true := by
  have hle := Instant.le_trans (moment_le hef) (moment_le hfg)
  by_cases h : e.moment = g.moment
  · -- then `f` is at this moment as well
    have hf : e.moment = f.moment := Instant.le_antisymm (moment_le hef) (h ▸ moment_le hfg)
    rcases le_iff.1 hef with ⟨-, hef⟩ | ⟨hne, -⟩
    · rcases le_iff.1 hfg with ⟨-, hfg⟩ | ⟨hne, -⟩
      · exact le_iff.2 (Or.inl ⟨h, Instant.le_trans hef hfg⟩)
      · exact absurd (hf ▸ h) hne
    · exact absurd hf hne
  · exact le_iff.2 (Or.inr ⟨h, hle⟩)

end Event

/-- Everything that is done is done in order. -/
theorem inOrder_pairwise {α : Type} (es : List (Event α)) : (inOrder es).Pairwise fun e f => e.le f = true :=
  sortBy_pairwise Event.le_total Event.le_trans es

theorem inOrder_perm {α : Type} (es : List (Event α)) : (inOrder es).Perm es := sortBy_perm _ es

/-- What a member does next is the first of all that is left to do, if it is the first of what each other does next. -/
theorem inOrder_append_cons {α : Type} {before after : List (Event α)} {e : Event α}
    (hbefore : ∀ f ∈ before, ¬f.le e = true) (hafter : ∀ f ∈ after, e.le f = true) :
    inOrder (before ++ e :: after) = e :: inOrder (before ++ after) :=
  sortBy_append_cons Event.le_total Event.le_trans hbefore hafter

/-! ## Answers -/

variable {ε α : Type}

theorem joined_map_ok (as : List α) : joined (as.map fun a => (.ok a : Except ε α)) = .ok as := by
  induction as with
  | nil => rfl
  | cons a as ih =>
    rw [List.map_cons, joined, ih]
    rfl

theorem joined_append_error (as : List α) (e : ε) (rest : List (Except ε α)) :
    joined (as.map .ok ++ .error e :: rest) = .error e := by
  induction as with
  | nil => rfl
  | cons a as ih =>
    rw [List.map_cons, List.cons_append, joined, ih]
    rfl

/-- Either all members of a group succeed, or one of them is the first to fail, in their order. -/
theorem succeed_or_fail (rs : List (Except ε α)) :
    (∃ as : List α, rs = as.map .ok) ∨ ∃ (as : List α) (e : ε) (rest : List (Except ε α)),
      rs = as.map .ok ++ .error e :: rest := by
  induction rs with
  | nil => exact Or.inl ⟨[], rfl⟩
  | cons r rs ih =>
    cases r with
    | error e => exact Or.inr ⟨[], e, rs, rfl⟩
    | ok a =>
      rcases ih with ⟨as, rfl⟩ | ⟨as, e, rest, rfl⟩
      · exact Or.inl ⟨a :: as, rfl⟩
      · exact Or.inr ⟨a :: as, e, rest, rfl⟩

/-- A group succeeds if all of its members do. -/
theorem joined_eq_ok_iff {rs : List (Except ε α)} {as : List α} : joined rs = .ok as ↔ rs = as.map .ok := by
  constructor
  · intro h
    rcases succeed_or_fail rs with ⟨bs, rfl⟩ | ⟨bs, e, rest, rfl⟩
    · rw [joined_map_ok] at h
      cases h
      rfl
    · rw [joined_append_error] at h
      cases h
  · rintro rfl
    exact joined_map_ok as

/-- A group fails as the first of its members does that fails, in their order. -/
theorem joined_eq_error_iff {rs : List (Except ε α)} {e : ε} :
    joined rs = .error e ↔ ∃ (as : List α) (rest : List (Except ε α)), rs = as.map .ok ++ .error e :: rest := by
  constructor
  · intro h
    rcases succeed_or_fail rs with ⟨bs, rfl⟩ | ⟨bs, e', rest, rfl⟩
    · rw [joined_map_ok] at h
      cases h
    · rw [joined_append_error] at h
      cases h
      exact ⟨bs, rest, rfl⟩
  · rintro ⟨as, rest, rfl⟩
    exact joined_append_error as e rest

/-- Whether a group fails, and how, does not depend on what its members answer. -/
theorem joined_map_unit (rs : List (Except ε α)) :
    (joined rs).map (fun _ => ()) = (joined (rs.map (·.map fun _ => ()))).map fun _ => () := by
  have hunits (as : List α) : (as.map fun a => (.ok a : Except ε α)).map (·.map fun _ => ()) =
      (as.map fun _ => ()).map .ok := by
    rw [List.map_map, List.map_map]
    rfl
  rcases succeed_or_fail rs with ⟨as, rfl⟩ | ⟨as, e, rest, rfl⟩
  · rw [hunits, joined_map_ok, joined_map_ok]
    rfl
  · rw [List.map_append, hunits, List.map_cons, joined_append_error, Except.map, Except.map, joined_append_error]
    rfl

theorem exists_map_ok_iff {β : Type} {f : β → Except ε α} {bs : List β} :
    (∃ as : List α, bs.map f = as.map .ok) ↔ ∀ b ∈ bs, ∃ a, f b = .ok a := by
  constructor
  · rintro ⟨as, h⟩ b hb
    obtain ⟨a, -, ha⟩ := List.mem_map.1 (h ▸ List.mem_map_of_mem hb)
    exact ⟨a, ha.symm⟩
  · intro h
    induction bs with
    | nil => exact ⟨[], rfl⟩
    | cons b bs ih =>
      obtain ⟨a, ha⟩ := h b List.mem_cons_self
      obtain ⟨as, has⟩ := ih fun x hx => h x (List.mem_cons_of_mem b hx)
      exact ⟨a :: as, by rw [List.map_cons, List.map_cons, ha, has]⟩

/-- The member by which a group fails. -/
theorem joined_map_eq_error_iff {β : Type} {f : β → Except ε α} {bs : List β} {e : ε} :
    joined (bs.map f) = .error e ↔
      ∃ before b after, bs = before ++ b :: after ∧ (∀ x ∈ before, ∃ a, f x = .ok a) ∧ f b = .error e := by
  rw [joined_eq_error_iff]
  constructor
  · rintro ⟨as, rest, h⟩
    obtain ⟨before, others, rfl, hbefore, hothers⟩ := List.map_eq_append_iff.1 h
    obtain ⟨b, after, rfl, hb, -⟩ := List.map_eq_cons_iff.1 hothers
    exact ⟨before, b, after, rfl, exists_map_ok_iff.1 ⟨as, hbefore⟩, hb⟩
  · rintro ⟨before, b, after, rfl, hbefore, hb⟩
    obtain ⟨as, has⟩ := exists_map_ok_iff.2 hbefore
    exact ⟨as, after.map f, by rw [List.map_append, List.map_cons, has, hb]⟩

end Group

/-! ## Turns -/

namespace Stage

variable {ρ υ : Type}

def left : Stage ρ υ → Nat
  | .asleep _ => 2
  | .busy _ _ _ => 1
  | .ended _ => 0

theorem waits?_eq_none_iff {g : Stage ρ υ} : g.waits? = none ↔ g.answer?.isSome = true := by
  cases g <;> simp [waits?, answer?]

end Stage

namespace Loop

variable {μ σ ρ υ : Type} {c : Conduct μ σ ρ υ} {l l' : Loop μ σ ρ υ}

def left (l : Loop μ σ ρ υ) : Nat := (l.members.map (·.2.left)).sum

/-- **Every turn brings one member closer to its end.** -/
theorem Step.left_lt (h : Step c l l') : l'.left < l.left := by
  cases h with
  | starts takes next => simp [left, Stage.left]
  | passes takes next => simp [left, Stage.left]
  | stops next => simp [left, Stage.left]

/-- **While a member waits there is a turn.** -/
theorem exists_step (c : Conduct μ σ ρ υ) (h : ∃ p ∈ l.members, p.2.waits? ≠ none) : ∃ l', Step c l l' := by
  obtain ⟨now, s, members, n⟩ := l
  obtain ⟨before, ⟨m, g⟩, after, e, rfl, he, hbefore, hafter⟩ :=
    exists_first Group.Event.le_total Group.Event.le_trans (fun p : μ × Stage ρ υ => p.2.waits?) h
  have next : IsNext before after e := ⟨hbefore, hafter⟩
  cases g with
  | asleep w =>
    cases he
    cases hm : c.takes m with
    | some ms => exact ⟨_, .starts hm next⟩
    | none => exact ⟨_, .passes hm next⟩
  | busy w since r =>
    cases he
    exact ⟨_, .stops next⟩
  | ended a => cases he

/-- What every turn keeps, any number of turns keep. -/
theorem Runs.keep {P : Loop μ σ ρ υ → Prop} (h : Runs c l l') (step : ∀ l l', Step c l l' → P l → P l') (hl : P l) :
    P l' := by
  induction h with
  | refl => exact hl
  | tail _ last ih => exact step _ _ last ih

/-- whether the count is the number of members that have ended -/
def Counted (l : Loop μ σ ρ υ) : Prop := l.count = l.members.countP fun p => p.2.answer?.isSome

theorem counted_opening (c : Conduct μ σ ρ υ) (s : σ) (ms : List μ) : (opening c s ms).Counted := by
  have hnone : ∀ p ∈ (opening c s ms).members, ¬p.2.answer?.isSome = true := by
    intro p hp
    obtain ⟨m, -, rfl⟩ := List.mem_map.1 hp
    exact nofun
  exact (List.countP_eq_zero.2 hnone).symm

theorem Step.counted (h : Step c l l') (counted : l.Counted) : l'.Counted := by
  rw [Counted] at *
  cases h with
  | starts takes next => simpa [Stage.answer?] using counted
  | passes takes next => simp [Stage.answer?] at counted ⊢; omega
  | stops next => simp [Stage.answer?] at counted ⊢; omega

theorem Runs.counted (h : Runs c l l') (counted : l.Counted) : l'.Counted :=
  h.keep (fun _ _ step => step.counted) counted

/-- **A group that has counted all of its members has no member left that waits.** -/
theorem Counted.count_eq_length_iff (h : l.Counted) :
    l.count = l.members.length ↔ ∀ p ∈ l.members, p.2.waits? = none := by
  rw [h, List.countP_eq_length]
  exact forall₂_congr fun p _ => Stage.waits?_eq_none_iff.symm

/-- **A group always comes to its end**, from wherever it is. -/
theorem exists_runs_count (l : Loop μ σ ρ υ) (counted : l.Counted) :
    ∃ l', Runs c l l' ∧ l'.count = l'.members.length := by
  -- every turn leaves fewer turns to take
  induction hn : l.left using Nat.strong_induction_on generalizing l with
  | _ n ih =>
    by_cases h : ∃ p ∈ l.members, p.2.waits? ≠ none
    · obtain ⟨l₁, step⟩ := exists_step c h
      obtain ⟨l₂, runs, hl₂⟩ := ih l₁.left (hn ▸ step.left_lt) l₁ (step.counted counted) rfl
      exact ⟨l₂, runs.head step, hl₂⟩
    · have hall : ∀ p ∈ l.members, p.2.waits? = none := fun p hp => by_contra fun hne => h ⟨p, hp, hne⟩
      exact ⟨l, .refl, counted.count_eq_length_iff.2 hall⟩

end Loop

end CursorSpec
