/-
Matching blocks are common runs of the two lists, one after the other.

The longest run is read off rows of run lengths; a length in a row is the number of equal rare elements right before two
places (`commonRare`, `runRow_rareRow`). So the best block that the search finds is a common run, and so is what it is
extended to (`isCommon_longestMatch`). The blocks before and after it are blocks of what is left, and joining blocks that
touch keeps this (`areRuns_blocks`). A list matches itself throughout: off the diagonal no run is longer than those on it,
and the search comes by them no earlier (`longestMatch_self`, `blocks_self`).
-/
import CursorSpec.Diff.Matching
import Mathlib.Tactic

namespace CursorSpec.Diff

section Runs

variable {α : Type}

/-! ## Common runs -/

def IsCommon (a b : List α) (x : Block) : Prop :=
  ∃ a₁ b₁ run a₂ b₂, a = a₁ ++ run ++ a₂ ∧ b = b₁ ++ run ++ b₂ ∧ x = ⟨a₁.length, b₁.length, run.length⟩

/-- common runs of what is left of two lists from two places on, one after the other -/
inductive AreRuns : (left right : Nat) → List α → List α → List Block → Prop
  | nil {i j : Nat} {a b : List α} : AreRuns i j a b []
  | cons {i j : Nat} {a₁ b₁ run a₂ b₂ : List α} {xs : List Block} :
    AreRuns (i + a₁.length + run.length) (j + b₁.length + run.length) a₂ b₂ xs →
      AreRuns i j (a₁ ++ run ++ a₂) (b₁ ++ run ++ b₂) (⟨i + a₁.length, j + b₁.length, run.length⟩ :: xs)

/-- Runs before and after a common run are runs together with it. -/
theorem AreRuns.append {i j : Nat} {a₁ b₁ run a₂ b₂ : List α} {xs ys : List Block} (h : AreRuns i j a₁ b₁ xs)
    (h' : AreRuns (i + a₁.length + run.length) (j + b₁.length + run.length) a₂ b₂ ys) :
    AreRuns i j (a₁ ++ run ++ a₂) (b₁ ++ run ++ b₂) (xs ++ ⟨i + a₁.length, j + b₁.length, run.length⟩ :: ys) := by
  induction h with
  | nil => exact .cons h'
  | @cons i j c₁ d₁ r c₂ d₂ xs _ ih =>
    simp only [List.length_append, ← Nat.add_assoc] at h' ⊢
    have hrest := AreRuns.cons (ih h')
    simpa only [List.append_assoc, List.cons_append] using hrest

/-- Joining runs that touch leaves runs. -/
theorem AreRuns.mergeBlocks {i j : Nat} {a b : List α} {xs : List Block} (h : AreRuns i j a b xs) :
    AreRuns i j a b (mergeBlocks xs) := by
  induction h with
  | nil => exact .nil
  | @cons i j a₁ b₁ run a₂ b₂ xs _ ih =>
    rw [Diff.mergeBlocks]
    generalize Diff.mergeBlocks xs = ys at ih
    cases ih with
    | nil => exact .cons .nil
    | @cons _ _ c₁ d₁ run' c₂ d₂ ys hys =>
      dsimp only
      split
      · next htouch =>
        -- nothing is between the two runs
        obtain rfl : c₁ = [] := List.eq_nil_of_length_eq_zero (by omega)
        obtain rfl : d₁ = [] := List.eq_nil_of_length_eq_zero (by omega)
        have hjoined : AreRuns i j (a₁ ++ (run ++ run') ++ c₂) (b₁ ++ (run ++ run') ++ d₂)
            (⟨i + a₁.length, j + b₁.length, (run ++ run').length⟩ :: ys) := by
          refine .cons ?_
          simpa only [List.length_append, List.length_nil, Nat.add_zero, ← Nat.add_assoc] using hys
        simpa only [List.append_assoc, List.nil_append, List.length_append] using hjoined
      · exact .cons (.cons hys)

theorem reverse_prefix_unique {a u v : List α} (hu : u.reverse <+: a) (hv : v.reverse <+: a)
    (hlength : u.length = v.length) : u = v := by
  have hsame : u.reverse = v.reverse := by
    rw [List.prefix_iff_eq_take.1 hu, List.prefix_iff_eq_take.1 hv, List.length_reverse, List.length_reverse, hlength]
  exact List.reverse_injective hsame

end Runs

section Rows

variable {α : Type} [BEq α] (rare : α → Bool)

/-! ## Rows of run lengths -/

/-- the number of equal rare elements at the heads of two lists -/
def commonRare : List α → List α → Nat
  | x :: a, y :: b => if x == y && rare y then commonRare a b + 1 else 0
  | _, _ => 0

theorem commonRare_nil_left (b : List α) : commonRare rare [] b = 0 := rfl

theorem commonRare_nil_right (a : List α) : commonRare rare a [] = 0 := by cases a <;> rfl

/-- the lengths of the runs that end right before a place of one list and at each place of the other from some place on;
what stands before the places comes in reverse -/
def rareRow (before : List α) : (passed : List α) → List α → List Nat
  | _, [] => []
  | passed, y :: b => commonRare rare before (y :: passed) :: rareRow before (y :: passed) b

/-- A row is made from the row before it. -/
theorem runRow_rareRow (x : α) (before passed b : List α) :
    runRow rare x (commonRare rare before passed) b (rareRow rare before passed b) =
      rareRow rare (x :: before) passed b := by
  induction b generalizing passed with
  | nil => rfl
  | cons y b ih =>
    rw [rareRow, rareRow, runRow, ih]
    rfl

/-- The first row is made from nothing. -/
theorem runRow_nil (x : α) (passed b : List α) : runRow rare x 0 b [] = rareRow rare [x] passed b := by
  induction b generalizing passed with
  | nil => rfl
  | cons y b ih =>
    rw [rareRow, runRow, ih (y :: passed), commonRare, commonRare_nil_left]

/-- whether these are the run lengths of a place; at the first place there need not be any -/
def IsRowOf (b before : List α) (row : List Nat) : Prop :=
  row = rareRow rare before [] b ∨ before = [] ∧ row = []

variable {rare}

theorem IsRowOf.next {b before : List α} {row : List Nat} (h : IsRowOf rare b before row) (x : α) :
    runRow rare x 0 b row = rareRow rare (x :: before) [] b := by
  rcases h with rfl | ⟨rfl, rfl⟩
  · have hrow := runRow_rareRow rare x before [] b
    rwa [commonRare_nil_right] at hrow
  · exact runRow_nil rare x [] b

/-- The longest run is extended over what is equal before it and after it. -/
theorem longestMatch_eq {a₁ b₁ run a₂ b₂ : List α}
    (h : longestRun rare (b₁ ++ run ++ b₂) 0 (a₁ ++ run ++ a₂) [] ⟨0, 0, 0⟩ = ⟨a₁.length, b₁.length, run.length⟩) :
    longestMatch rare (a₁ ++ run ++ a₂) (b₁ ++ run ++ b₂) =
      ⟨a₁.length - commonHead a₁.reverse b₁.reverse, b₁.length - commonHead a₁.reverse b₁.reverse,
        run.length + commonHead a₁.reverse b₁.reverse + commonHead a₂ b₂⟩ := by
  simp only [longestMatch, h]
  simp only [List.append_assoc, List.take_left, ← List.drop_drop, List.drop_left]

end Rows

variable {α : Type} [BEq α] [LawfulBEq α] {rare : α → Bool}

/-! ## Equal heads -/

theorem exists_commonHead (a b : List α) :
    ∃ run a' b', a = run ++ a' ∧ b = run ++ b' ∧ run.length = commonHead a b := by
  induction a generalizing b with
  | nil => exact ⟨[], [], b, rfl, rfl, by simp [commonHead]⟩
  | cons x a ih =>
    cases b with
    | nil => exact ⟨[], x :: a, [], rfl, rfl, by simp [commonHead]⟩
    | cons y b =>
      by_cases hxy : (x == y) = true
      · obtain rfl := eq_of_beq hxy
        obtain ⟨run, a', b', rfl, rfl, hlength⟩ := ih b
        exact ⟨x :: run, a', b', rfl, rfl, by simp [commonHead, hlength]⟩
      · exact ⟨[], x :: a, y :: b, rfl, rfl, by simp [commonHead, hxy]⟩

theorem commonHead_self (a : List α) : commonHead a a = a.length := by
  induction a with
  | nil => rfl
  | cons x a ih => simp [commonHead, ih]

theorem exists_commonRare (rare : α → Bool) (a b : List α) :
    ∃ run a' b', a = run ++ a' ∧ b = run ++ b' ∧ run.length = commonRare rare a b := by
  induction a generalizing b with
  | nil => exact ⟨[], [], b, rfl, rfl, rfl⟩
  | cons x a ih =>
    cases b with
    | nil => exact ⟨[], x :: a, [], rfl, rfl, rfl⟩
    | cons y b =>
      by_cases hxy : (x == y && rare y) = true
      · obtain rfl : x = y := eq_of_beq (Bool.and_eq_true_iff.1 hxy).1
        obtain ⟨run, a', b', rfl, rfl, hlength⟩ := ih b
        exact ⟨x :: run, a', b', rfl, rfl, by rw [commonRare, if_pos hxy, List.length_cons, hlength]⟩
      · exact ⟨[], x :: a, y :: b, rfl, rfl, by rw [commonRare, if_neg hxy]; rfl⟩

/-- A list has no fewer equal rare elements in common with itself than with another one. -/
theorem commonRare_le_self (rare : α → Bool) (a b : List α) :
    commonRare rare a b ≤ commonRare rare a a ∧ commonRare rare a b ≤ commonRare rare b b := by
  induction a generalizing b with
  | nil => simp [commonRare_nil_left]
  | cons x a ih =>
    cases b with
    | nil => simp [commonRare_nil_right]
    | cons y b =>
      rw [commonRare]
      split
      · next hxy =>
        obtain ⟨hxy, hrare⟩ := Bool.and_eq_true_iff.1 hxy
        obtain rfl := eq_of_beq hxy
        obtain ⟨hleft, hright⟩ := ih b
        simp only [commonRare, beq_self_eq_true, hrare, Bool.and_self, if_true]
        omega
      · exact ⟨Nat.zero_le _, Nat.zero_le _⟩

/-! ## The search finds a common run -/

/-- A run that ends right before two places is a common run. -/
theorem isCommon_commonRare (before passed a b : List α) :
    IsCommon (before.reverse ++ a) (passed.reverse ++ b)
      ⟨before.length - commonRare rare before passed, passed.length - commonRare rare before passed,
        commonRare rare before passed⟩ := by
  obtain ⟨run, u, v, rfl, rfl, hlength⟩ := exists_commonRare rare before passed
  refine ⟨u.reverse, v.reverse, run.reverse, a, b, by simp, by simp, ?_⟩
  rw [← hlength]
  simp

theorem isCommon_bestOfRow {before a b : List α} (passed : List α) {best : Block}
    (h : IsCommon (before.reverse ++ a) (passed.reverse ++ b) best) {i : Nat} (hi : i + 1 = before.length) :
    IsCommon (before.reverse ++ a) (passed.reverse ++ b)
      (bestOfRow i passed.length (rareRow rare before passed b) best) := by
  induction b generalizing passed best with
  | nil => exact h
  | cons y b ih =>
    have hsplit : passed.reverse ++ y :: b = (y :: passed).reverse ++ b := by simp
    rw [rareRow, bestOfRow]
    rw [hsplit] at h ⊢
    refine ih (y :: passed) ?_
    split
    · rw [hi]
      exact isCommon_commonRare before (y :: passed) a b
    · exact h

theorem isCommon_longestRun_of_row {b before a : List α} {row : List Nat} {best : Block}
    (hrow : IsRowOf rare b before row) (h : IsCommon (before.reverse ++ a) b best) :
    IsCommon (before.reverse ++ a) b (longestRun rare b before.length a row best) := by
  induction a generalizing before row best with
  | nil => exact h
  | cons x a ih =>
    have hsplit : before.reverse ++ x :: a = (x :: before).reverse ++ a := by simp
    rw [hsplit] at h ⊢
    have hbest : IsCommon ((x :: before).reverse ++ a) b
        (bestOfRow before.length 0 (rareRow rare (x :: before) [] b) best) := isCommon_bestOfRow [] h rfl
    rw [longestRun]
    simp only [hrow.next x]
    exact ih (Or.inl rfl) hbest

/-- **The longest run is a common run.** -/
theorem isCommon_longestRun (rare : α → Bool) (a b : List α) :
    IsCommon a b (longestRun rare b 0 a [] ⟨0, 0, 0⟩) := by
  have hrow : IsRowOf rare b [] [] := Or.inr ⟨rfl, rfl⟩
  exact isCommon_longestRun_of_row hrow ⟨[], [], [], a, b, rfl, rfl, rfl⟩

/-- **The longest match is a common run.** -/
theorem isCommon_longestMatch (rare : α → Bool) (a b : List α) : IsCommon a b (longestMatch rare a b) := by
  obtain ⟨a₁, b₁, run, a₂, b₂, rfl, rfl, hbest⟩ := isCommon_longestRun rare a b
  rw [longestMatch_eq hbest]
  obtain ⟨back, u, v, ha₁, hb₁, hback⟩ := exists_commonHead a₁.reverse b₁.reverse
  obtain ⟨ahead, a₃, b₃, rfl, rfl, hahead⟩ := exists_commonHead a₂ b₂
  obtain rfl : a₁ = u.reverse ++ back.reverse := by rw [← List.reverse_append, ← ha₁, List.reverse_reverse]
  obtain rfl : b₁ = v.reverse ++ back.reverse := by rw [← List.reverse_append, ← hb₁, List.reverse_reverse]
  refine ⟨u.reverse, v.reverse, back.reverse ++ run ++ ahead, a₃, b₃, by simp, by simp, ?_⟩
  rw [← hback, ← hahead]
  simp only [List.length_append, List.length_reverse, Nat.add_sub_cancel, Block.mk.injEq, true_and]
  omega

/-! ## A list matches itself throughout -/

/-- whether a block is on the diagonal, and no shorter than the runs there that end before a place -/
structure IsLongestBefore (rare : α → Bool) (a : List α) (n : Nat) (x : Block) : Prop where
  diagonal : x.left = x.right
  longest : ∀ u : List α, u.reverse <+: a → u.length < n → commonRare rare u u ≤ x.size

/-- In a row, only the run on the diagonal can be longer than the best one before it. -/
theorem isLongestBefore_bestOfRow {a before b : List α} (passed : List α) {best : Block}
    (hbefore : before.reverse <+: a) (ha : a = passed.reverse ++ b) (h : IsLongestBefore rare a before.length best)
    (own : before.length ≤ passed.length → commonRare rare before before ≤ best.size) {i : Nat}
    (hi : i + 1 = before.length) :
    IsLongestBefore rare a (before.length + 1) (bestOfRow i passed.length (rareRow rare before passed b) best) := by
  induction b generalizing passed best with
  | nil =>
    have hlength : before.length ≤ passed.length := by
      have hle := hbefore.length_le
      rwa [ha, List.append_nil, List.length_reverse, List.length_reverse] at hle
    refine ⟨h.diagonal, fun u hu hlt => ?_⟩
    rcases Nat.lt_succ_iff_lt_or_eq.1 hlt with hlt | heq
    · exact h.longest u hu hlt
    · rw [reverse_prefix_unique hu hbefore heq]
      exact own hlength
  | cons y b ih =>
    have hpassed : a = (y :: passed).reverse ++ b := by rw [ha]; simp
    have hprefix : (y :: passed).reverse <+: a := ⟨b, hpassed.symm⟩
    obtain ⟨hleft, hright⟩ := commonRare_le_self rare before (y :: passed)
    rw [rareRow, bestOfRow]
    -- a run before the diagonal was seen on it, and one behind it is no longer than the one on it
    rcases lt_trichotomy (y :: passed).length before.length with hlt | heq | hgt
    · have hseen := h.longest (y :: passed) hprefix hlt
      rw [if_neg (by omega)]
      exact ih (y :: passed) hpassed h fun hle => absurd hlt (not_lt.2 hle)
    · obtain rfl := reverse_prefix_unique hprefix hbefore heq
      split
      · next hlonger =>
        refine ih (y :: passed) hpassed ⟨?_, fun u hu hlt => (h.longest u hu hlt).trans hlonger.le⟩ fun _ => le_rfl
        rw [hi, List.length_cons]
      · next hshorter => exact ih (y :: passed) hpassed h fun _ => not_lt.1 hshorter
    · have hown := own (Nat.le_of_lt_succ hgt)
      rw [if_neg (by omega)]
      exact ih (y :: passed) hpassed h fun _ => hown

theorem diagonal_longestRun_of_row {a before rest : List α} {row : List Nat} {best : Block}
    (ha : a = before.reverse ++ rest) (hrow : IsRowOf rare a before row)
    (h : IsLongestBefore rare a (before.length + 1) best) :
    (longestRun rare a before.length rest row best).left = (longestRun rare a before.length rest row best).right := by
  induction rest generalizing before row best with
  | nil => exact h.diagonal
  | cons x rest ih =>
    have hsplit : a = (x :: before).reverse ++ rest := by rw [ha]; simp
    have hbest : IsLongestBefore rare a ((x :: before).length + 1)
        (bestOfRow before.length 0 (rareRow rare (x :: before) [] a) best) :=
      isLongestBefore_bestOfRow [] ⟨rest, hsplit.symm⟩ rfl h (fun hle => absurd hle (by simp)) rfl
    rw [longestRun]
    simp only [hrow.next x]
    exact ih hsplit (Or.inl rfl) hbest

/-- The longest run of a list and itself is on the diagonal. -/
theorem diagonal_longestRun (rare : α → Bool) (a : List α) :
    (longestRun rare a 0 a [] ⟨0, 0, 0⟩).left = (longestRun rare a 0 a [] ⟨0, 0, 0⟩).right := by
  have hrow : IsRowOf rare a [] [] := Or.inr ⟨rfl, rfl⟩
  have hnone : IsLongestBefore rare a 1 ⟨0, 0, 0⟩ := by
    refine ⟨rfl, fun u _ hlt => ?_⟩
    rw [List.eq_nil_of_length_eq_zero (Nat.lt_one_iff.1 hlt)]
    exact le_rfl
  exact diagonal_longestRun_of_row rfl hrow hnone

/-- **A list matches itself throughout.** -/
theorem longestMatch_self (rare : α → Bool) (a : List α) : longestMatch rare a a = ⟨0, 0, a.length⟩ := by
  have hdiagonal := diagonal_longestRun rare a
  obtain ⟨a₁, b₁, run, a₂, b₂, rfl, hb, hbest⟩ := isCommon_longestRun rare a a
  rw [hbest] at hdiagonal
  rw [List.append_assoc, List.append_assoc] at hb
  obtain ⟨rfl, hrest⟩ := List.append_inj hb hdiagonal
  obtain rfl := List.append_cancel_left hrest
  rw [longestMatch_eq hbest, commonHead_self, commonHead_self]
  simp only [List.length_append, List.length_reverse, Nat.sub_self, Block.mk.injEq, true_and]
  omega

/-! ## Blocks -/

theorem areRuns_blocksFrom (rare : α → Bool) (fuel i j : Nat) (a b : List α) :
    AreRuns i j a b (blocksFrom rare fuel i j a b) := by
  induction fuel generalizing i j a b with
  | zero => exact .nil
  | succ fuel ih =>
    obtain ⟨a₁, b₁, run, a₂, b₂, rfl, rfl, hmatch⟩ := isCommon_longestMatch rare a b
    rw [blocksFrom]
    simp only [hmatch]
    split
    · exact .nil
    · have hruns := (ih i j a₁ b₁).append (ih (i + a₁.length + run.length) (j + b₁.length + run.length) a₂ b₂)
      simpa only [List.append_assoc, List.take_left, ← List.drop_drop, List.drop_left] using hruns

theorem blocksFrom_nil (rare : α → Bool) (fuel i j : Nat) : blocksFrom rare fuel i j [] [] = [] := by
  cases fuel with
  | zero => rfl
  | succ fuel => simp [blocksFrom, longestMatch_self]

theorem blocksFrom_self (rare : α → Bool) (fuel : Nat) {a : List α} (ha : a ≠ []) :
    blocksFrom rare (fuel + 1) 0 0 a a = [⟨0, 0, a.length⟩] := by
  simp [blocksFrom, longestMatch_self, ha, blocksFrom_nil]

/-- **The matching blocks of two lists are common runs, one after the other.** -/
theorem areRuns_blocks (a b : List α) : AreRuns 0 0 a b (blocks a b) := (areRuns_blocksFrom _ _ 0 0 a b).mergeBlocks

/-- **A list and itself have one block.** -/
theorem blocks_self {a : List α} (ha : a ≠ []) : blocks a a = [⟨0, 0, a.length⟩] := by
  rw [blocks, blocksFrom_self _ _ ha]
  rfl

end CursorSpec.Diff
