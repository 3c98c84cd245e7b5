/-
Sorting by a total preorder, and what it forgets.

Elements that may stand before each other are tied. Sorting keeps the order of tied elements (`filter_sortBy`), and a
sorted list is determined by the order of the tied ones (`eq_of_filter_tied`). So two lists sort alike if and only if
tied elements come in one order in both (`sortBy_eq_iff`): the order of ties is all that sorting keeps of an order.
What comes first can be taken off before the rest is sorted (`sortBy_append_cons`).
-/
import CursorSpec.Text.Basic
import Mathlib.Tactic

namespace CursorSpec

variable {α : Type}

/-- whether two elements may stand before each other -/
def tied (le : α → α → Bool) (x y : α) : Bool := le x y && le y x

variable {le : α → α → Bool}

theorem tied_iff {x y : α} : tied le x y = true ↔ le x y = true ∧ le y x = true := by
  simp [tied]

variable (total : ∀ a b, le a b = true ∨ le b a = true)
  (trans : ∀ a b c, le a b = true → le b c = true → le a c = true)

include total in
theorem tied_self (x : α) : tied le x x = true := by
  have hxx : le x x = true := (total x x).elim id id
  exact tied_iff.2 ⟨hxx, hxx⟩

include trans in
theorem tied_trans {x y z : α} (hxy : tied le x y = true) (hyz : tied le y z = true) : tied le x z = true := by
  obtain ⟨hxy, hyx⟩ := tied_iff.1 hxy
  obtain ⟨hyz, hzy⟩ := tied_iff.1 hyz
  exact tied_iff.2 ⟨trans x y z hxy hyz, trans z y x hzy hyx⟩

theorem tied_comm {x y : α} : tied le x y = tied le y x := Bool.and_comm _ _

include trans in
/-- An element is inserted behind everything that it is tied with. -/
theorem filter_insertBy (x y : α) {zs : List α} (sorted : zs.Pairwise fun a b => le a b = true) :
    (insertBy le y zs).filter (tied le x) = zs.filter (tied le x) ++ [y].filter (tied le x) := by
  induction zs with
  | nil => rfl
  | cons z zs ih =>
    obtain ⟨hz, hzs⟩ := List.pairwise_cons.1 sorted
    rw [insertBy]
    by_cases hzy : le z y = true
    · rw [if_pos hzy, List.filter_cons, List.filter_cons, ih hzs]
      split
      · rfl
      · rfl
    · rw [if_neg hzy]
      by_cases hxy : tied le x y = true
      · -- nothing from `z` on is tied with `x`, or `z` could stand before `y`
        have hnone : (z :: zs).filter (tied le x) = [] := by
          rw [List.filter_eq_nil_iff]
          intro w hw hxw
          have hwy : le w y = true := (tied_iff.1 (tied_trans trans (tied_comm ▸ hxw) hxy)).1
          rcases List.mem_cons.1 hw with rfl | hw
          · exact hzy hwy
          · exact hzy (trans z w y (hz w hw) hwy)
        rw [List.filter_cons, hnone, if_pos hxy, List.nil_append, List.filter_cons, if_pos hxy]
        rfl
      · have hy : [y].filter (tied le x) = [] := by simp [hxy]
        rw [List.filter_cons, if_neg hxy, hy, List.append_nil]

include total trans in
/-- **Sorting is stable**: tied elements stay in the order in which they came. -/
theorem filter_sortBy (x : α) (ys : List α) : (sortBy le ys).filter (tied le x) = ys.filter (tied le x) := by
  suffices h : ∀ acc : List α, acc.Pairwise (fun a b => le a b = true) →
      (ys.foldl (fun acc y => insertBy le y acc) acc).filter (tied le x) =
        acc.filter (tied le x) ++ ys.filter (tied le x) from h [] List.Pairwise.nil
  induction ys with
  | nil => exact fun acc _ => (List.append_nil _).symm
  | cons y ys ih =>
    intro acc sorted
    rw [List.foldl_cons, ih _ (insertBy_pairwise total trans y acc sorted), filter_insertBy trans x y sorted,
      List.append_assoc, ← List.filter_append, List.singleton_append]

include total in
/-- The head of a sorted list may stand before everything in it. -/
theorem head_le {y x : α} {ys : List α} (sorted : (y :: ys).Pairwise fun a b => le a b = true) (hx : x ∈ y :: ys) :
    le y x = true := by
  rcases List.mem_cons.1 hx with rfl | hx
  · exact (tied_iff.1 (tied_self total x)).1
  · exact (List.pairwise_cons.1 sorted).1 x hx

include total in
theorem mem_of_filter_tied {x : α} {xs ys : List α} (same : xs.filter (tied le x) = ys.filter (tied le x))
    (hx : x ∈ xs) : x ∈ ys := by
  have htied : x ∈ xs.filter (tied le x) := List.mem_filter.2 ⟨hx, tied_self total x⟩
  rw [same] at htied
  exact List.mem_of_mem_filter htied

include total in
/-- A sorted list is determined by the order of its tied elements. -/
theorem eq_of_filter_tied {xs ys : List α} (hxs : xs.Pairwise fun a b => le a b = true)
    (hys : ys.Pairwise fun a b => le a b = true)
    (same : ∀ a, xs.filter (tied le a) = ys.filter (tied le a)) : xs = ys := by
  induction xs generalizing ys with
  | nil =>
    cases ys with
    | nil => rfl
    | cons y ys => cases mem_of_filter_tied total (same y).symm List.mem_cons_self
  | cons x xs ih =>
    cases ys with
    | nil => cases mem_of_filter_tied total (same x) List.mem_cons_self
    | cons y ys =>
      -- the heads are tied with each other, as each of them is in both lists and comes first in its own
      have hyx : le y x = true := head_le total hys (mem_of_filter_tied total (same x) List.mem_cons_self)
      have hxy : le x y = true := head_le total hxs (mem_of_filter_tied total (same y).symm List.mem_cons_self)
      have heads := same x
      rw [List.filter_cons, List.filter_cons, if_pos (tied_self total x), if_pos (tied_iff.2 ⟨hxy, hyx⟩)] at heads
      obtain rfl : x = y := (List.cons.inj heads).1
      have hrest : xs = ys := by
        refine ih (List.pairwise_cons.1 hxs).2 (List.pairwise_cons.1 hys).2 fun a => ?_
        have ha := same a
        rw [List.filter_cons, List.filter_cons] at ha
        split at ha
        · exact (List.cons.inj ha).2
        · exact ha
      rw [hrest]

include total trans in
/-- **What sorting forgets**: everything but the order of tied elements. -/
theorem sortBy_eq_iff {xs ys : List α} :
    sortBy le xs = sortBy le ys ↔ ∀ a, xs.filter (tied le a) = ys.filter (tied le a) := by
  constructor
  · intro h a
    rw [← filter_sortBy total trans a xs, h, filter_sortBy total trans a ys]
  · intro same
    refine eq_of_filter_tied total (sortBy_pairwise total trans xs) (sortBy_pairwise total trans ys) fun a => ?_
    rw [filter_sortBy total trans, filter_sortBy total trans, same a]

include total trans in
/-- Whatever reorders a list in order that has no two tied elements is sorted to that list. -/
theorem sortBy_of_perm {xs ys : List α} (h : xs.Perm ys) (sorted : ys.Pairwise fun a b => le a b = true)
    (untied : ∀ x ∈ ys, ∀ y ∈ ys, le x y = true → le y x = true → x = y) : sortBy le xs = ys := by
  have hperm : (sortBy le xs).Perm ys := (sortBy_perm le xs).trans h
  exact List.Perm.eq_of_pairwise (fun x y hx hy => untied x (hperm.mem_iff.1 hx) y hy)
    (sortBy_pairwise total trans xs) sorted hperm

/-! ## What comes first -/

include total trans in
/-- What nothing before it may precede, and what may stand before everything behind it, comes first. -/
theorem sortBy_append_cons {x : α} {before after : List α} (hbefore : ∀ y ∈ before, ¬le y x = true)
    (hafter : ∀ y ∈ after, le x y = true) :
    sortBy le (before ++ x :: after) = x :: sortBy le (before ++ after) := by
  have hsorted : (x :: sortBy le (before ++ after)).Pairwise fun a b => le a b = true := by
    refine List.pairwise_cons.2 ⟨fun y hy => ?_, sortBy_pairwise total trans _⟩
    rcases List.mem_append.1 ((sortBy_perm le _).mem_iff.1 hy) with hy | hy
    · exact (total x y).resolve_right (hbefore y hy)
    · exact hafter y hy
  refine eq_of_filter_tied total (sortBy_pairwise total trans _) hsorted fun a => ?_
  rw [filter_sortBy total trans, List.filter_append, List.filter_cons, List.filter_cons, filter_sortBy total trans,
    List.filter_append]
  by_cases ha : tied le a x = true
  · -- nothing before `x` is tied with `a`, or it could precede `x`
    have hnone : before.filter (tied le a) = [] := by
      rw [List.filter_eq_nil_iff]
      intro y hy hay
      have hay : tied le y a = true := tied_comm ▸ hay
      exact hbefore y hy (tied_iff.1 (tied_trans trans hay ha)).1
    rw [if_pos ha, if_pos ha, hnone]
    rfl
  · rw [if_neg ha, if_neg ha]

include total trans in
/-- Among elements of which some have a key, one has a key that comes first. -/
theorem exists_first {β : Type} (key : β → Option α) {xs : List β} (some_key : ∃ x ∈ xs, key x ≠ none) :
    ∃ before x after k, xs = before ++ x :: after ∧ key x = some k ∧
      (∀ y ∈ before, ∀ j, key y = some j → ¬le j k = true) ∧ ∀ y ∈ after, ∀ j, key y = some j → le k j = true := by
  induction xs with
  | nil =>
    obtain ⟨x, hx, -⟩ := some_key
    cases hx
  | cons x xs ih =>
    by_cases hxs : ∃ y ∈ xs, key y ≠ none
    · obtain ⟨before, y, after, k, rfl, hy, hbefore, hafter⟩ := ih hxs
      by_cases hx : ∃ j, key x = some j ∧ le j k = true
      · -- `x` precedes the first of the others
        obtain ⟨j, hj, hjk⟩ := hx
        refine ⟨[], x, before ++ y :: after, j, rfl, hj, nofun, fun z hz i hi => ?_⟩
        have hki : le k i = true := by
          rcases List.mem_append.1 hz with hz | hz
          · exact (total k i).resolve_right (hbefore z hz i hi)
          · rcases List.mem_cons.1 hz with rfl | hz
            · obtain rfl : k = i := Option.some.inj (hy.symm.trans hi)
              exact (total k k).elim id id
            · exact hafter z hz i hi
        exact trans j k i hjk hki
      · refine ⟨x :: before, y, after, k, rfl, hy, fun z hz j hj hjk => ?_, hafter⟩
        rcases List.mem_cons.1 hz with rfl | hz
        · exact hx ⟨j, hj, hjk⟩
        · exact hbefore z hz j hj hjk
    · obtain ⟨z, hz, hkey⟩ := some_key
      have hnone : ∀ y ∈ xs, key y = none := fun y hy => by_contra fun h => hxs ⟨y, hy, h⟩
      rcases List.mem_cons.1 hz with rfl | hz
      · obtain ⟨k, hk⟩ := Option.ne_none_iff_exists'.1 hkey
        exact ⟨[], z, xs, k, rfl, hk, nofun, fun y hy j hj => by rw [hnone y hy] at hj; cases hj⟩
      · exact absurd (hnone z hz) hkey

end CursorSpec
