/-
A unified difference shows every change.

Between common runs stands whatever is not common, so two lists that differ have a changed stretch that is not empty
(`exists_changed`). Cutting into hunks shortens equal stretches only: each changed stretch is in a hunk, and there are no
hunks without one (`mem_hunks_iff`, `hunks_eq_nil_iff`). So there is no difference exactly if the lists are equal
(`unified_eq_nil_iff`), and otherwise some line of one of them is shown as removed or added (`exists_changed_line`).
-/
import CursorSpec.Diff.Unified
import CursorSpec.Proofs.Diff.Matching

namespace CursorSpec.Diff

/-! ## Changed stretches -/

/-- whether a stretch is changed, and takes something of one of two lists of some lengths -/
structure Stretch.IsChange (s : Stretch) (leftEnd rightEnd : Nat) : Prop where
  changed : s.equal = false
  some : s.leftStart < s.leftStop ∧ s.leftStop ≤ leftEnd ∨ s.rightStart < s.rightStop ∧ s.rightStop ≤ rightEnd

/-- **Between common runs of lists that differ something is changed.** -/
theorem exists_changed {α : Type} {i j : Nat} {a b : List α} {xs : List Block} (h : AreRuns i j a b xs) (hab : a ≠ b) :
    ∃ s ∈ stretchesFrom (i + a.length) (j + b.length) i j xs, s.IsChange (i + a.length) (j + b.length) := by
  induction h with
  | @nil i j a b =>
    have hsome : 0 < a.length ∨ 0 < b.length := by
      by_contra hnone
      have ha : a = [] := List.eq_nil_of_length_eq_zero (by omega)
      have hb : b = [] := List.eq_nil_of_length_eq_zero (by omega)
      exact hab (ha.trans hb.symm)
    refine ⟨⟨false, i, i + a.length, j, j + b.length⟩, ?_, rfl, ?_⟩
    · rw [stretchesFrom, if_pos (by omega)]
      exact List.mem_singleton_self _
    · simp only
      omega
  | @cons i j a₁ b₁ run a₂ b₂ xs _ ih =>
    rw [stretchesFrom]
    by_cases hgap : 0 < a₁.length ∨ 0 < b₁.length
    · refine ⟨⟨false, i, i + a₁.length, j, j + b₁.length⟩, ?_, rfl, ?_⟩
      · rw [if_pos (by simp only; omega)]
        exact List.mem_cons_self
      · simp only [List.length_append]
        omega
    · have ha₁ : a₁ = [] := List.eq_nil_of_length_eq_zero (by omega)
      have hb₁ : b₁ = [] := List.eq_nil_of_length_eq_zero (by omega)
      have hrest : a₂ ≠ b₂ := fun hsame => hab (by rw [ha₁, hb₁, hsame])
      obtain ⟨s, hs, change⟩ := ih hrest
      simp only [List.length_append, ← Nat.add_assoc]
      exact ⟨s, List.mem_append_right _ (List.mem_cons_of_mem _ hs), change⟩

/-! ## Hunks -/

/-- Cutting the first stretch, if it is equal, leaves the changed ones. -/
theorem mem_onFirst_iff {f : Stretch → Stretch} (hf : ∀ s, (f s).equal = s.equal) {s : Stretch}
    (changed : s.equal = false) (ss : List Stretch) : s ∈ onFirst f ss ↔ s ∈ ss := by
  cases ss with
  | nil => exact Iff.rfl
  | cons r ss =>
    rw [onFirst, List.mem_cons, List.mem_cons]
    split
    · next hr =>
      refine or_congr_left (iff_of_false ?_ ?_)
      · rintro rfl
        rw [hf, hr] at changed
        cases changed
      · rintro rfl
        rw [hr] at changed
        cases changed
    · exact Iff.rfl

theorem mem_hunksFrom_iff {s : Stretch} (changed : s.equal = false) (hunk ss : List Stretch) :
    (∃ h ∈ hunksFrom hunk ss, s ∈ h) ↔ s ∈ hunk ∨ s ∈ ss := by
  induction ss generalizing hunk with
  | nil => simp [hunksFrom]
  | cons r ss ih =>
    rw [hunksFrom]
    split
    · next hlong =>
      -- an equal stretch ends a hunk and begins the next one, and neither part is changed
      have hequal : r.equal = true := (Bool.and_eq_true_iff.1 hlong).1
      have hhead : s ≠ r.head := by rintro rfl; rw [Stretch.head, hequal] at changed; cases changed
      have htail : s ≠ r.tail := by rintro rfl; rw [Stretch.tail, hequal] at changed; cases changed
      have hself : s ≠ r := by rintro rfl; rw [hequal] at changed; cases changed
      rw [List.exists_mem_cons_iff, ih]
      simp only [List.mem_append, List.mem_cons, List.not_mem_nil, hhead, htail, hself, or_false, false_or]
    · rw [ih, List.mem_append, List.mem_singleton, List.mem_cons, or_assoc]

/-- **Every changed stretch is in a hunk as it is.** -/
theorem mem_hunks_iff {s : Stretch} (changed : s.equal = false) (ss : List Stretch) :
    (∃ h ∈ hunks ss, s ∈ h) ↔ s ∈ ss := by
  have hhead : ∀ r : Stretch, r.head.equal = r.equal := fun _ => rfl
  have htail : ∀ r : Stretch, r.tail.equal = r.equal := fun _ => rfl
  have hcut : s ∈ (onFirst Stretch.head (onFirst Stretch.tail ss).reverse).reverse ↔ s ∈ ss := by
    rw [List.mem_reverse, mem_onFirst_iff hhead changed, List.mem_reverse, mem_onFirst_iff htail changed]
  rw [← hcut]
  simp only [hunks, List.mem_filter, List.any_eq_true, Bool.not_eq_true', and_assoc]
  constructor
  · rintro ⟨h, hh, -, hs⟩
    have hmem := (mem_hunksFrom_iff changed [] _).1 ⟨h, hh, hs⟩
    exact hmem.resolve_left (List.not_mem_nil)
  · intro hs
    obtain ⟨h, hh, hsh⟩ := (mem_hunksFrom_iff changed [] _).2 (Or.inr hs)
    exact ⟨h, hh, ⟨s, hsh, changed⟩, hsh⟩

/-- There are no hunks exactly if nothing is changed. -/
theorem hunks_eq_nil_iff (ss : List Stretch) : hunks ss = [] ↔ ∀ s ∈ ss, s.equal = true := by
  constructor
  · intro hnil s hs
    by_contra hequal
    obtain ⟨h, hh, -⟩ := (mem_hunks_iff (Bool.not_eq_true _ ▸ hequal) ss).2 hs
    rw [hnil] at hh
    cases hh
  · intro hall
    rw [List.eq_nil_iff_forall_not_mem]
    intro h hh
    obtain ⟨s, hs, changed⟩ := List.any_eq_true.1 (List.mem_filter.1 hh).2
    have changed : s.equal = false := by simpa using changed
    have hmem := (mem_hunks_iff changed ss).1 ⟨h, hh, hs⟩
    rw [hall s hmem] at changed
    cases changed

/-! ## Lines -/

variable {a b : List Text}

theorem exists_mem_slice {α : Type} {l : List α} {i j : Nat} (hij : i < j) (hj : j ≤ l.length) :
    ∃ x ∈ l, x ∈ (l.take j).drop i := by
  have hlength : i < (l.take j).length := by rw [List.length_take]; omega
  have hmem : (l.take j)[i] ∈ (l.take j).drop i := by
    rw [List.drop_eq_getElem_cons hlength]
    exact List.mem_cons_self
  exact ⟨_, List.mem_of_mem_take (List.mem_of_mem_drop hmem), hmem⟩

/-- A hunk shows what its changed stretches take away and put in place. -/
theorem exists_mem_hunkLines {h : List Stretch} {s : Stretch} (hs : s ∈ h) (change : s.IsChange a.length b.length) :
    (∃ l ∈ a, '-' :: l ∈ hunkLines a b h) ∨ ∃ l ∈ b, '+' :: l ∈ hunkLines a b h := by
  have hshown : ∀ l, l ∈ ((a.take s.leftStop).drop s.leftStart).map ('-' :: ·) ++
      ((b.take s.rightStop).drop s.rightStart).map ('+' :: ·) → l ∈ hunkLines a b h := fun l hl => by
    refine List.mem_cons_of_mem _ (List.mem_flatMap.2 ⟨s, hs, ?_⟩)
    simpa only [change.changed, Bool.false_eq_true, if_false] using hl
  rcases change.some with ⟨hlt, hle⟩ | ⟨hlt, hle⟩
  · obtain ⟨l, hl, hslice⟩ := exists_mem_slice hlt hle
    exact Or.inl ⟨l, hl, hshown _ (List.mem_append_left _ (List.mem_map_of_mem hslice))⟩
  · obtain ⟨l, hl, hslice⟩ := exists_mem_slice hlt hle
    exact Or.inr ⟨l, hl, hshown _ (List.mem_append_right _ (List.mem_map_of_mem hslice))⟩

/-- **The difference of lists that differ shows a line of one of them as removed or added.** -/
theorem exists_changed_line (leftName rightName : Text) (hab : a ≠ b) :
    ∃ body, unified leftName rightName a b = ("--- " ++ leftName) :: ("+++ " ++ rightName) :: body ∧
      ((∃ l ∈ a, '-' :: l ∈ body) ∨ ∃ l ∈ b, '+' :: l ∈ body) := by
  obtain ⟨s, hs, change⟩ := exists_changed (areRuns_blocks a b) hab
  rw [Nat.zero_add, Nat.zero_add] at hs change
  obtain ⟨h, hh, hsh⟩ := (mem_hunks_iff change.changed _).2 hs
  unfold unified
  split
  · next hnil =>
    rw [hnil] at hh
    cases hh
  · refine ⟨_, rfl, ?_⟩
    rcases exists_mem_hunkLines hsh change with ⟨l, hl, hmem⟩ | ⟨l, hl, hmem⟩
    · exact Or.inl ⟨l, hl, List.mem_flatMap.2 ⟨h, hh, hmem⟩⟩
    · exact Or.inr ⟨l, hl, List.mem_flatMap.2 ⟨h, hh, hmem⟩⟩

theorem unified_self (leftName rightName : Text) (a : List Text) : unified leftName rightName a a = [] := by
  have hequal : ∀ s ∈ stretchesFrom a.length a.length 0 0 (blocks a a), s.equal = true := by
    by_cases ha : a = []
    · rw [ha]
      exact nofun
    · simp [blocks_self ha, stretchesFrom]
  simp only [unified, (hunks_eq_nil_iff _).2 hequal]

/-- **There is no difference exactly if there is none to show.** -/
theorem unified_eq_nil_iff {leftName rightName : Text} : unified leftName rightName a b = [] ↔ a = b := by
  constructor
  · intro hnil
    by_contra hab
    obtain ⟨body, hbody, -⟩ := exists_changed_line leftName rightName hab
    rw [hnil] at hbody
    cases hbody
  · rintro rfl
    exact unified_self leftName rightName a

end CursorSpec.Diff
