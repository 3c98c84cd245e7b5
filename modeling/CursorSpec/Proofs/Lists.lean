/-
Lists with keys, places in lists, lists put behind lists, lists that correspond, and the greatest of some numbers.
-/
import Mathlib.Data.List.TakeWhile
import Mathlib.Tactic

namespace CursorSpec

/-- An element of a list with distinct keys is the first one of its key. -/
theorem find?_of_nodup_map {α β : Type} [DecidableEq β] {key : α → β} {l : List α} (distinct : (l.map key).Nodup)
    {x : α} (hx : x ∈ l) : l.find? (fun y => decide (key y = key x)) = some x := by
  obtain ⟨y, hy⟩ : ∃ y, l.find? (fun y => decide (key y = key x)) = some y := by
    rw [← Option.isSome_iff_exists, List.find?_isSome]
    exact ⟨x, hx, by simp⟩
  have hkey : key y = key x := by simpa using List.find?_some hy
  rw [hy, List.inj_on_of_nodup_map distinct (List.mem_of_find?_eq_some hy) hx hkey]

theorem find?_eq_none_of_notMem {α β : Type} [DecidableEq β] {key : α → β} {l : List α} {k : β} (h : k ∉ l.map key) :
    l.find? (fun y => decide (key y = k)) = none := by
  rw [List.find?_eq_none]
  intro y hy hk
  exact h (of_decide_eq_true hk ▸ List.mem_map_of_mem hy)

/-- A list has no duplicates if none of its elements stands before itself. -/
theorem nodup_of_notMem_take {α : Type} {l : List α} (h : ∀ k x, l[k]? = some x → x ∉ l.take k) : l.Nodup := by
  refine List.pairwise_iff_getElem.2 fun i j hi hj hij heq => ?_
  refine h j l[j] (List.getElem?_eq_getElem hj) ?_
  rw [← heq]
  exact List.mem_take_iff_getElem.2 ⟨i, by omega, rfl⟩

theorem eq_take_append_of_getElem? {α : Type} {l : List α} {k : Nat} {x : α} (h : l[k]? = some x) :
    l = l.take k ++ x :: l.drop (k + 1) := by
  obtain ⟨hlt, rfl⟩ := List.getElem?_eq_some_iff.1 h
  rw [← List.drop_eq_getElem_cons hlt, List.take_append_drop]

theorem getElem?_of_eq_append {α : Type} {l before after : List α} {x : α} (h : l = before ++ x :: after) :
    l[before.length]? = some x := by
  rw [h, List.getElem?_append_right le_rfl, Nat.sub_self]
  rfl

theorem getElem?_append_of_some {α : Type} {l : List α} {i : Nat} {x : α} (h : l[i]? = some x) (rest : List α) :
    (l ++ rest)[i]? = some x := by
  rw [List.getElem?_append_left (List.getElem?_eq_some_iff.1 h).1, h]

theorem getElem?_concat {α : Type} {l : List α} {i : Nat} {x y : α} (h : (l ++ [y])[i]? = some x) :
    l[i]? = some x ∨ i = l.length ∧ x = y := by
  rcases lt_or_ge i l.length with hi | hi
  · rw [List.getElem?_append_left hi] at h
    exact Or.inl h
  · rw [List.getElem?_append_right hi] at h
    have hlast : i - l.length < 1 := (List.getElem?_eq_some_iff.1 h).1
    exact Or.inr ⟨by omega, List.mem_singleton.1 (List.mem_of_getElem? h)⟩

/-- What is put behind a list does not count if some element of the list ends the taking. -/
theorem takeWhile_append_of_exists {α : Type} {p : α → Bool} {xs : List α} (h : ∃ x ∈ xs, p x = false) (ys : List α) :
    (xs ++ ys).takeWhile p = xs.takeWhile p := by
  obtain ⟨x, hx, hfalse⟩ := h
  rw [List.takeWhile_append, if_neg]
  intro hlength
  have hall := (List.takeWhile_prefix p).eq_of_length hlength
  rw [List.takeWhile_eq_self_iff.1 hall x hx] at hfalse
  cases hfalse

/-- Of two lists that correspond, each element of the second belongs to one of the first. -/
theorem exists_of_mem_forall₂ {α β : Type} {R : α → β → Prop} {xs : List α} {ys : List β} (h : List.Forall₂ R xs ys)
    {y : β} (hy : y ∈ ys) : ∃ x ∈ xs, R x y := by
  induction h with
  | nil => cases hy
  | @cons a b as bs hab _ ih =>
    rcases List.mem_cons.1 hy with rfl | hy
    · exact ⟨a, List.mem_cons_self, hab⟩
    · obtain ⟨x, hx, hxy⟩ := ih hy
      exact ⟨x, List.mem_cons_of_mem a hx, hxy⟩

/-- Lists that correspond give the same where their elements do. -/
theorem flatMap_of_forall₂ {α β γ : Type} {R : α → β → Prop} {xs : List α} {ys : List β} {f : α → List γ}
    {g : β → List γ} (h : List.Forall₂ R xs ys) (agree : ∀ x, ∀ y ∈ ys, R x y → f x = g y) :
    xs.flatMap f = ys.flatMap g := by
  induction h with
  | nil => rfl
  | @cons a b as bs hab _ ih =>
    rw [List.flatMap_cons, List.flatMap_cons, agree a b List.mem_cons_self hab,
      ih fun x y hy => agree x y (List.mem_cons_of_mem b hy)]

theorem foldl_max_le_iff {l : List Int} {a b : Int} : l.foldl max a ≤ b ↔ a ≤ b ∧ ∀ x ∈ l, x ≤ b := by
  induction l generalizing a with
  | nil => simp
  | cons x l ih =>
    rw [List.foldl_cons, ih]
    simp [and_assoc]

theorem le_foldl_max (l : List Int) (a : Int) : a ≤ l.foldl max a := (foldl_max_le_iff.1 le_rfl).1

end CursorSpec
