/-
Following links from one thing to the next.

Things stand at places, and every link goes to an earlier place. Then following links comes to an end, after no more
links than there are places before (`exists_follow?_end`), and never leads back to where it began (`follow?_ne_self`).
-/
import Mathlib.Tactic

namespace CursorSpec

variable {α : Type}

/-- what a number of links lead to -/
def follow? (next? : α → Option α) : Nat → α → Option α
  | 0, x => some x
  | k + 1, x => (next? x).bind (follow? next? k)

theorem follow?_succ_of_next? {next? : α → Option α} {x y : α} (h : next? x = some y) (k : Nat) :
    follow? next? (k + 1) x = follow? next? k y := by
  rw [follow?, h, Option.bind_some]

section

variable {next? : α → Option α} {At : Nat → α → Prop}
  (earlier : ∀ i x y, At i x → next? x = some y → ∃ j < i, At j y)

include earlier

/-- Links lead back by at least one place each. -/
theorem exists_at_of_follow? {k i : Nat} {x y : α} (hx : At i x) (h : follow? next? k x = some y) :
    ∃ j, j + k ≤ i ∧ At j y := by
  induction k generalizing i x with
  | zero =>
    cases h
    exact ⟨i, le_rfl, hx⟩
  | succ k ih =>
    obtain ⟨z, hz, hy⟩ := Option.bind_eq_some_iff.1 h
    obtain ⟨j, hj, hzj⟩ := earlier i x z hx hz
    obtain ⟨m, hm, hym⟩ := ih hzj hy
    exact ⟨m, by omega, hym⟩

/-- **Links come to an end.** -/
theorem exists_follow?_end {i : Nat} {x : α} (hx : At i x) :
    ∃ k ≤ i, ∃ y, follow? next? k x = some y ∧ next? y = none ∧ ∃ j, At j y := by
  induction i using Nat.strong_induction_on generalizing x with
  | _ i ih =>
    cases hnext : next? x with
    | none => exact ⟨0, Nat.zero_le i, x, rfl, hnext, i, hx⟩
    | some y =>
      obtain ⟨j, hj, hy⟩ := earlier i x y hx hnext
      obtain ⟨k, hk, z, hfollow, hend, hz⟩ := ih j hj hy
      exact ⟨k + 1, by omega, z, (follow?_succ_of_next? hnext k).trans hfollow, hend, hz⟩

/-- **Links never lead back to where they began.** -/
theorem follow?_ne_self {i : Nat} {x : α} (hx : At i x) (k : Nat) : follow? next? (k + 1) x ≠ some x := by
  -- the first place at which a thing stands that leads back to itself would not be the first
  intro h
  induction i using Nat.strong_induction_on with
  | _ i ih =>
    obtain ⟨j, hj, hxj⟩ := exists_at_of_follow? earlier hx h
    exact ih j (by omega) hxj

end

end CursorSpec
