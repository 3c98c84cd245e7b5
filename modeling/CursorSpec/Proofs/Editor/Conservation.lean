/-
Replacing conserves text, however selections overlap.

A character is removed exactly if a selection covers it: what stands outside of all extents is what is kept between them
(`uncovered_drop`), because the extents come in the order of their starts, so nothing that an extent leaves before it
is reached by a later one. Seen from the new text it is the same: the copies of the replacement are extents of it, and
what they leave uncovered is what was kept. `replacing_conserves` puts the two together, with a caret behind each copy.
-/
import CursorSpec.Proofs.Editor.Replacing
import CursorSpec.Proofs.Lists

namespace CursorSpec

def IsCovered (xs : List Extent) (n : Nat) : Prop := ∃ x ∈ xs, x.start ≤ n ∧ n < x.stop

instance (xs : List Extent) (n : Nat) : Decidable (IsCovered xs n) :=
  inferInstanceAs (Decidable (∃ x ∈ xs, _))

/-- the characters of a text, the first of which has a given offset, that no extent covers -/
def uncovered (xs : List Extent) (offset : Nat) : Text → Text
  | [] => []
  | c :: t => if IsCovered xs offset then uncovered xs (offset + 1) t else c :: uncovered xs (offset + 1) t

/-- the offsets that extents cover -/
def coverage (xs : List Extent) : Finset Nat := xs.toFinset.biUnion fun x => Finset.Ico x.start x.stop

/-! ## What is left uncovered -/

theorem isCovered_cons {x : Extent} {xs : List Extent} {n : Nat} :
    IsCovered (x :: xs) n ↔ (x.start ≤ n ∧ n < x.stop) ∨ IsCovered xs n := by
  simp [IsCovered]

theorem uncovered_append (xs : List Extent) (n : Nat) (s t : Text) :
    uncovered xs n (s ++ t) = uncovered xs n s ++ uncovered xs (n + s.length) t := by
  induction s generalizing n with
  | nil => rfl
  | cons c s ih =>
    have hlength : n + 1 + s.length = n + (c :: s).length := by rw [List.length_cons]; omega
    rw [List.cons_append, uncovered, uncovered, ih, hlength]
    split <;> rfl

/-- Only the cover from the first offset on matters. -/
theorem uncovered_congr {xs ys : List Extent} {n : Nat} (h : ∀ i, n ≤ i → (IsCovered xs i ↔ IsCovered ys i))
    (t : Text) : uncovered xs n t = uncovered ys n t := by
  induction t generalizing n with
  | nil => rfl
  | cons c t ih =>
    rw [uncovered, uncovered, ih fun i hi => h i (Nat.le_of_succ_le hi)]
    exact if_congr (h n le_rfl) rfl rfl

theorem uncovered_of_covered {xs : List Extent} {n : Nat} {t : Text}
    (h : ∀ i, n ≤ i → i < n + t.length → IsCovered xs i) : uncovered xs n t = [] := by
  induction t generalizing n with
  | nil => rfl
  | cons c t ih =>
    rw [List.length_cons] at h
    rw [uncovered, if_pos (h n le_rfl (by omega))]
    exact ih fun i hi hlt => h i (by omega) (by omega)

theorem uncovered_of_not_covered {xs : List Extent} {n : Nat} {t : Text}
    (h : ∀ i, n ≤ i → i < n + t.length → ¬ IsCovered xs i) : uncovered xs n t = t := by
  induction t generalizing n with
  | nil => rfl
  | cons c t ih =>
    rw [List.length_cons] at h
    rw [uncovered, if_neg (h n le_rfl (by omega)), ih fun i hi hlt => h i (by omega) (by omega)]

theorem length_uncovered_add_card (xs : List Extent) (n : Nat) (t : Text) :
    (uncovered xs n t).length + ((Finset.Ico n (n + t.length)).filter (IsCovered xs)).card = t.length := by
  induction t generalizing n with
  | nil => simp [uncovered]
  | cons c t ih =>
    have hsplit : Finset.Ico n (n + (c :: t).length) = insert n (Finset.Ico (n + 1) (n + 1 + t.length)) := by
      ext i
      simp only [Finset.mem_Ico, Finset.mem_insert, List.length_cons]
      omega
    have hnew : n ∉ (Finset.Ico (n + 1) (n + 1 + t.length)).filter (IsCovered xs) := by simp
    have hrest := ih (n + 1)
    rw [hsplit, Finset.filter_insert, uncovered, List.length_cons]
    split
    · rw [Finset.card_insert_of_notMem hnew]; omega
    · rw [List.length_cons]; omega

/-- **A text is as long as what extents leave of it, and the union of the extents.** -/
theorem length_uncovered_add_coverage {xs : List Extent} {t : Text} (inside : ∀ x ∈ xs, x.stop ≤ t.length) :
    (uncovered xs 0 t).length + (coverage xs).card = t.length := by
  have hcoverage : coverage xs = (Finset.Ico 0 (0 + t.length)).filter (IsCovered xs) := by
    ext i
    simp only [coverage, Finset.mem_biUnion, List.mem_toFinset, Finset.mem_Ico, Finset.mem_filter]
    constructor
    · rintro ⟨x, hx, hstart, hstop⟩
      have hx' := inside x hx
      exact ⟨by omega, x, hx, hstart, hstop⟩
    · rintro ⟨-, x, hx, hcovered⟩
      exact ⟨x, hx, hcovered⟩
  rw [hcoverage]
  exact length_uncovered_add_card xs 0 t

/-! ## What is kept is what is uncovered -/

theorem drop_eq_append {α : Type} {l : List α} {a b : Nat} (hab : a ≤ b) (hb : b ≤ l.length) :
    l.drop a = (l.take b).drop a ++ l.drop b := by
  have hlength : a ≤ (l.take b).length := by rw [List.length_take]; omega
  have hsplit := congrArg (List.drop a) (List.take_append_drop b l)
  rw [List.drop_append_of_le_length hlength] at hsplit
  exact hsplit.symm

namespace DocState

/-- The first of extents in order leaves the text before it, and what the others leave behind it. -/
theorem uncovered_drop_cons {old : Text} {x : Extent} {xs : List Extent} {cursor : Nat}
    (ordered : ∀ y ∈ xs, x.Before y) (hx : x.stop ≤ old.length) (hcursor : cursor ≤ old.length)
    (hstart : x.start ≤ x.stop) :
    uncovered (x :: xs) cursor (old.drop cursor) =
      (old.take (max x.start cursor)).drop cursor ++ uncovered xs (x.stopFrom cursor) (old.drop (x.stopFrom cursor)) := by
  set a := max x.start cursor with ha
  set b := x.stopFrom cursor with hb
  have hb' : b = max x.stop a := rfl
  have hab : a ≤ b := by omega
  have hbold : b ≤ old.length := by omega
  have hlength₁ : cursor + ((old.take a).drop cursor).length = a := by
    rw [List.length_drop, List.length_take]; omega
  have hlength₂ : a + ((old.take b).drop a).length = b := by
    rw [List.length_drop, List.length_take]; omega
  -- nothing that starts later covers what stands before `x`
  have hkept : uncovered (x :: xs) cursor ((old.take a).drop cursor) = (old.take a).drop cursor := by
    refine uncovered_of_not_covered fun i hi hlt => ?_
    rw [hlength₁] at hlt
    rintro ⟨y, hy, hystart, -⟩
    rcases List.mem_cons.1 hy with rfl | hy
    · omega
    · have hxy := ordered y hy
      unfold Extent.Before at hxy
      omega
  have hremoved : uncovered (x :: xs) a ((old.take b).drop a) = [] := by
    refine uncovered_of_covered fun i hi hlt => ?_
    rw [hlength₂] at hlt
    exact isCovered_cons.2 (Or.inl (by omega))
  have hlater : uncovered (x :: xs) b (old.drop b) = uncovered xs b (old.drop b) := by
    refine uncovered_congr (fun i hi => ?_) _
    rw [isCovered_cons]
    exact ⟨fun h => h.resolve_left (by omega), Or.inr⟩
  rw [drop_eq_append (le_max_right x.start cursor) (hab.trans hbold), ← ha, drop_eq_append hab hbold,
    uncovered_append, hlength₁, uncovered_append, hlength₂, hkept, hremoved, hlater, List.nil_append]

/-- **What is kept of a text from a cursor on** is what extents in order leave uncovered there. -/
theorem uncovered_drop {old : Text} {xs : List Extent} (ordered : xs.Pairwise Extent.Before)
    (inside : ∀ x ∈ xs, x.start ≤ x.stop ∧ x.stop ≤ old.length) {cursor : Nat} (hcursor : cursor ≤ old.length) :
    uncovered xs cursor (old.drop cursor) = (kept old cursor xs).flatten ++ old.drop (reach cursor xs) := by
  induction xs generalizing cursor with
  | nil =>
    refine uncovered_of_not_covered fun i _ _ => ?_
    rintro ⟨x, hx, -⟩
    cases hx
  | cons x xs ih =>
    obtain ⟨hbefore, ordered⟩ := List.pairwise_cons.1 ordered
    obtain ⟨hx, hxold⟩ := inside x List.mem_cons_self
    have hreached : x.stopFrom cursor ≤ old.length := max_le hxold (max_le (hx.trans hxold) hcursor)
    rw [uncovered_drop_cons hbefore hxold hcursor hx,
      ih ordered (fun y hy => inside y (List.mem_cons_of_mem x hy)) hreached, kept, reach, List.flatten_cons,
      List.append_assoc]

/-! ## Copies in the new text -/

theorem areApart_copies (r : Text) (n : Nat) (ks : List Text) : AreApart n (copies r n ks) := by
  induction ks generalizing n with
  | nil => trivial
  | cons k ks ih => exact ⟨Nat.le_add_right _ _, Nat.le_add_right _ _, ih _⟩

/-- What stands before the copies is what was kept, and what follows them is the rest. -/
theorem kept_copies (r before : Text) (ks : List Text) (rest : Text) :
    kept (before ++ (typed r ks ++ rest)) before.length (copies r before.length ks) = ks ∧
      (before ++ (typed r ks ++ rest)).drop (reach before.length (copies r before.length ks)) = rest := by
  induction ks generalizing before with
  | nil => exact ⟨rfl, List.drop_left⟩
  | cons k ks ih =>
    have hlength : before.length + k.length + r.length = (before ++ k ++ r).length := by simp only [List.length_append]
    have hmax : max (before.length + k.length) before.length = (before ++ k).length := by
      rw [List.length_append]; omega
    have hfrom : Extent.stopFrom before.length ⟨before.length + k.length, before.length + k.length + r.length⟩ =
        (before ++ k ++ r).length := by
      rw [Extent.stopFrom, hmax, ← hlength, List.length_append]
      exact max_eq_left (Nat.le_add_right _ _)
    have hrest := ih (before ++ k ++ r)
    rw [copies, kept, reach, hmax, hfrom, typed_cons_append, hlength, hrest.1, hrest.2, List.append_assoc (before ++ k),
      List.take_left, List.drop_left]
    exact ⟨rfl, rfl⟩

theorem length_typed (r : Text) (ks : List Text) :
    (typed r ks).length = ks.flatten.length + ks.length * r.length := by
  induction ks with
  | nil => simp [typed]
  | cons k ks ih =>
    rw [typed_cons, List.flatten_cons, List.length_append, List.length_append, List.length_append, ih, List.length_cons,
      Nat.add_mul]
    omega

/-- What copies leave uncovered is what was kept. -/
theorem uncovered_copies (r : Text) (ks : List Text) (rest : Text) :
    uncovered (copies r 0 ks) 0 (typed r ks ++ rest) = ks.flatten ++ rest := by
  have hkept := kept_copies r [] ks rest
  rw [List.nil_append, List.length_nil] at hkept
  have hinside : ∀ c ∈ copies r 0 ks, c.start ≤ c.stop ∧ c.stop ≤ (typed r ks ++ rest).length := fun c hc =>
    have hcopy := copy_eq [] hc rest
    ⟨Nat.le.intro hcopy.1, hcopy.2.1⟩
  have huncovered := uncovered_drop (pairwise_before_of_areApart (areApart_copies r 0 ks)) hinside (Nat.zero_le _)
  rwa [hkept.1, hkept.2] at huncovered

/-! ## Conservation -/

/-- a state after its selections, which cover extents, were replaced, with the extents of the copies in the new text -/
structure Conserves (s : DocState) (r : Text) (s' : DocState) (es cs : List Extent) : Prop where
  selected : List.Forall₂ (IsExtentOf s.text) s.selections es
  count : s'.selections.length = s.selections.length
  /-- each selection is a caret in the text, behind its copy -/
  carets : List.Forall₂ (fun x c => ∃ p : Position, x = .caret p ∧ p.IsIn s'.text ∧
    Document.offsetAt? s'.text p = some (c.stop : Int)) s'.selections cs
  copied : ∀ c ∈ cs, c.start + r.length = c.stop ∧ c.stop ≤ s'.text.length ∧
    (s'.text.take c.stop).drop c.start = r
  disjoint : cs.Pairwise fun c d => c.stop ≤ d.start
  /-- without the copies, the new text is the old one without what was selected -/
  rest : uncovered cs 0 s'.text = uncovered es 0 s.text
  size : s'.text.length + (coverage es).card = s.text.length + s.selections.length * r.length
  unselected : s.selections = [] → s'.text = s.text

theorem forall₂_carets (r : Text) (ks : List Text) (rest : Text) :
    List.Forall₂ (fun x c => ∃ p : Position, x = .caret p ∧ p.IsIn (typed r ks ++ rest) ∧
      Document.offsetAt? (typed r ks ++ rest) p = some (c.stop : Int)) (carets r [] ks) (copies r 0 ks) := by
  have hcarets := carets_eq_map_copies r [] ks rest
  rw [List.length_nil, List.nil_append] at hcarets
  rw [hcarets, List.forall₂_map_left_iff, List.forall₂_same]
  intro c hc
  have hstop : c.stop ≤ (typed r ks ++ rest).length := (copy_eq [] hc rest).2.1
  exact ⟨_, rfl, Document.isIn_afterText_take _ _, Document.offsetAt?_of_le hstop⟩

/-- **Replacement conserves text, even with overlaps.** Where no position is counted from the end, replacing the
selections leaves as many carets, each behind a copy of its own. Without the copies the new text is the old one without
the characters that some selection covers, however the selections overlap, nest, repeat or lie outside. -/
theorem replacing_conserves {s : DocState} (h : s.IsNonneg) (r : Text) :
    ∃ s' es cs, s.replaceSelections? r = some s' ∧ Conserves s r s' es cs := by
  obtain ⟨es, hes, hinside⟩ := exists_extents h
  obtain ⟨xs, hperm, hordered, hreplaced⟩ := exists_replaceSelections? hes r
  have hlength : xs.length = s.selections.length := hperm.length_eq.trans hes.length_eq.symm
  have hsame : uncovered es 0 s.text = uncovered xs 0 s.text := by
    refine uncovered_congr (fun i _ => ?_) _
    simp only [IsCovered, hperm.mem_iff]
  have hkept := uncovered_drop hordered (fun x hx => hinside x (hperm.mem_iff.1 hx)) (Nat.zero_le _)
  rw [List.drop_zero, ← hsame] at hkept
  refine ⟨_, es, copies r 0 (kept s.text 0 xs), hreplaced, ?_⟩
  refine ⟨hes, ?_, ?_, fun c hc => ?_, ?_, ?_, ?_, ?_⟩
  · rw [replaced_selections, length_carets, length_kept, hlength]
  · rw [replaced_selections]
    exact forall₂_carets r _ _
  · exact copy_eq [] hc _
  · exact pairwise_stop_of_areApart (areApart_copies r 0 _)
  · rw [replaced_text, uncovered_copies, hkept]
  · have hcovered := length_uncovered_add_coverage fun x hx => (hinside x hx).2
    rw [hkept, List.length_append] at hcovered
    rw [replaced_text, List.length_append, length_typed, length_kept, hlength]
    omega
  · intro hnone
    obtain rfl : xs = [] := List.eq_nil_of_length_eq_zero (hlength.trans (by rw [hnone]; rfl))
    rfl

/-- selections that overlap, one in another, twice, and behind the end -/
def overlapping : DocState :=
  .make ['a', 'b', 'c', 'd', 'e', 'f'] [⟨⟨0, 1⟩, ⟨0, 4⟩⟩, ⟨⟨0, 3⟩, ⟨0, 2⟩⟩, ⟨⟨0, 2⟩, ⟨0, 3⟩⟩, .caret ⟨9, 9⟩]

/-- Of overlapping selections, the first takes the text, and none loses its caret. -/
theorem conserves_overlapping :
    overlapping.IsNonneg ∧ ∃ es cs, Conserves overlapping ['x'] (.make ['a', 'x', 'x', 'x', 'e', 'f', 'x']
      [.caret ⟨0, 2⟩, .caret ⟨0, 3⟩, .caret ⟨0, 4⟩, .caret ⟨0, 7⟩]) es cs := by
  obtain ⟨s', es, cs, hreplaced, hconserves⟩ := replacing_conserves (s := overlapping) (by decide) ['x']
  have hrun : overlapping.replaceSelections? ['x'] = some (.make ['a', 'x', 'x', 'x', 'e', 'f', 'x']
      [.caret ⟨0, 2⟩, .caret ⟨0, 3⟩, .caret ⟨0, 4⟩, .caret ⟨0, 7⟩]) := by decide
  obtain rfl := Option.some.inj (hrun.symm.trans hreplaced)
  exact ⟨by decide, es, cs, hconserves⟩

end DocState

end CursorSpec
