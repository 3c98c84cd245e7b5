/-
Offsets of positions, and positions of offsets.

Where nothing is counted from the end, the offset of a line and a character is found on one way through the text
(`offsetIn`, `offsetAt?_natCast`). It never lies behind the text, and it grows with the position. The place behind the
first part of a text has the length of that part for its offset (`offsetAt?_afterText`), and is the position of that
offset (`positionAt_length`). The positions in a text are such places (`isIn_iff_exists_take`), so that there the two
convert back and forth (`offsets_and_positions`).
-/
import CursorSpec.Document.Offset
import CursorSpec.Proofs.Document.Place
import Mathlib.Data.List.TakeWhile

namespace CursorSpec

namespace Text

variable {α : Type}

@[simp] theorem upTo_natCast (t : List α) (k : Nat) : upTo t k = t.take k := by
  rw [upTo, bound, if_neg (by omega), Int.toNat_natCast]
  rcases le_total k t.length with h | h
  · rw [min_eq_left h]
  · rw [min_eq_right h, List.take_length, List.take_of_length_le h]

@[simp] theorem fromOn_natCast (t : List α) (k : Nat) : fromOn t k = t.drop k := by
  rw [fromOn, bound, if_neg (by omega), Int.toNat_natCast]
  rcases le_total k t.length with h | h
  · rw [min_eq_left h]
  · rw [min_eq_right h, List.drop_length, List.drop_eq_nil_of_le h]

@[simp] theorem at?_natCast (t : List α) (k : Nat) : at? t k = t[k]? := by
  simp [at?]

end Text

/-! ## Positions that are not counted from the end -/

def Position.IsNonneg (p : Position) : Prop := 0 ≤ p.line ∧ 0 ≤ p.character

instance (p : Position) : Decidable p.IsNonneg := inferInstanceAs (Decidable (_ ∧ _))

/-- whether neither end of a selection is counted from the end -/
def Selection.IsNonneg (s : Selection) : Prop := s.anchor.IsNonneg ∧ s.active.IsNonneg

instance (s : Selection) : Decidable s.IsNonneg := inferInstanceAs (Decidable (_ ∧ _))

def DocState.IsNonneg (s : DocState) : Prop := ∀ x ∈ s.selections, x.IsNonneg

instance (s : DocState) : Decidable s.IsNonneg := inferInstanceAs (Decidable (∀ x ∈ s.selections, x.IsNonneg))

namespace Selection

variable {s : Selection}

theorem IsNonneg.start (h : s.IsNonneg) : s.start.IsNonneg := by
  unfold Selection.start
  split
  · exact h.2
  · exact h.1

theorem IsNonneg.stop (h : s.IsNonneg) : s.stop.IsNonneg := by
  unfold Selection.stop
  split
  · exact h.1
  · exact h.2

@[simp] theorem start_caret (p : Position) : (caret p).start = p := ite_self p

@[simp] theorem stop_caret (p : Position) : (caret p).stop = p := ite_self p

end Selection

namespace Document

/-! ## Offsets on the way through a text -/

def offsetIn : Text → (line character : Nat) → Nat
  | [], _, _ => 0
  | c :: t, 0, k => if c = '\n' then 0 else match k with
    | 0 => 0
    | k + 1 => offsetIn t 0 k + 1
  | c :: t, n + 1, k => if c = '\n' then offsetIn t n k + 1 else offsetIn t (n + 1) k + 1

/-- the offset of a line and a character in lines, each of which ends in one more character -/
def offsetInLines : List Text → (line character : Nat) → Nat
  | [], _, _ => 0
  | l :: _, 0, k => min k l.length
  | l :: ls, n + 1, k => l.length + 1 + offsetInLines ls n k

theorem offsetInLines_eq (ls : List Text) (n k : Nat) :
    offsetInLines ls n k =
      (ls.take n).foldr (fun l m => l.length + 1 + m) 0 + ((ls[n]?).map fun l => min k l.length).getD 0 := by
  induction ls generalizing n with
  | nil => simp [offsetInLines]
  | cons l ls ih =>
    cases n with
    | zero => simp [offsetInLines]
    | succ n => simp [offsetInLines, ih, Nat.add_assoc]

theorem offsetIn_eq (t : Text) (n k : Nat) : offsetIn t n k = min (offsetInLines (Text.lines t) n k) t.length := by
  induction t generalizing n k with
  | nil => cases n <;> simp [offsetIn]
  | cons c t ih =>
    obtain ⟨l, ls, hl⟩ := List.exists_cons_of_ne_nil (Text.lines_ne_nil t)
    by_cases hc : c = '\n'
    · cases n with
      | zero => simp [offsetIn, Text.lines, hc, offsetInLines]
      | succ n =>
        simp only [offsetIn, Text.lines, hc, if_true, offsetInLines, ih, List.length_cons, List.length_nil]
        omega
    · cases n with
      | zero =>
        cases k with
        | zero => simp [offsetIn, Text.lines, hc, hl, offsetInLines]
        | succ k =>
          simp only [offsetIn, Text.lines, hc, if_false, hl, offsetInLines, ih, List.length_cons]
          omega
      | succ n =>
        simp only [offsetIn, Text.lines, hc, if_false, hl, offsetInLines, ih, List.length_cons]
        omega

/-- **The offset of a position is found on one way through the text.** -/
theorem offsetAt?_natCast (t : Text) (n k : Nat) : offsetAt? t ⟨n, k⟩ = some (offsetIn t n k : Nat) := by
  rw [offsetIn_eq, offsetInLines_eq]
  unfold offsetAt?
  simp only [Text.upTo_natCast, Text.at?_natCast, Nat.cast_lt]
  split
  · next h => simp [List.getElem?_eq_getElem h]
  · next h => simp [List.getElem?_eq_none (not_lt.1 h)]

theorem offsetAt?_of_isNonneg (t : Text) {p : Position} (h : p.IsNonneg) :
    offsetAt? t p = some (offsetIn t p.line.toNat p.character.toNat : Nat) := by
  rw [← offsetAt?_natCast, Int.toNat_of_nonneg h.1, Int.toNat_of_nonneg h.2]

theorem offsetIn_le_length (t : Text) (n k : Nat) : offsetIn t n k ≤ t.length := by
  rw [offsetIn_eq]
  exact min_le_right _ _

theorem offsetIn_mono_character (t : Text) (n : Nat) {k k' : Nat} (h : k ≤ k') : offsetIn t n k ≤ offsetIn t n k' := by
  induction t generalizing n k k' with
  | nil => exact le_rfl
  | cons c t ih =>
    cases n with
    | zero =>
      cases k with
      | zero => simp [offsetIn]
      | succ k =>
        obtain ⟨k', rfl⟩ : ∃ m, k' = m + 1 := ⟨k' - 1, by omega⟩
        have hrest := ih 0 (Nat.le_of_succ_le_succ h)
        simp only [offsetIn]
        split <;> omega
    | succ n =>
      simp only [offsetIn]
      split
      · exact Nat.succ_le_succ (ih n h)
      · exact Nat.succ_le_succ (ih (n + 1) h)

theorem offsetIn_mono_line (t : Text) {n n' : Nat} (k k' : Nat) (h : n < n') : offsetIn t n k ≤ offsetIn t n' k' := by
  induction t generalizing n n' k with
  | nil => exact le_rfl
  | cons c t ih =>
    obtain ⟨n', rfl⟩ : ∃ m, n' = m + 1 := ⟨n' - 1, by omega⟩
    by_cases hc : c = '\n'
    · cases n with
      | zero => simp [offsetIn, hc]
      | succ n =>
        have hrest := ih k (Nat.lt_of_succ_lt_succ h)
        simp only [offsetIn, hc, if_true]
        omega
    · cases n with
      | zero =>
        cases k with
        | zero => simp [offsetIn, hc]
        | succ k =>
          have hrest := ih k h
          simp only [offsetIn, hc, if_false]
          omega
      | succ n =>
        have hrest := ih k h
        simp only [offsetIn, hc, if_false]
        omega

/-- **A position further on has no smaller offset.** -/
theorem offsetIn_le_offsetIn (t : Text) {p q : Position} (hp : p.IsNonneg) (hq : q.IsNonneg) (h : p.le q = true) :
    offsetIn t p.line.toNat p.character.toNat ≤ offsetIn t q.line.toNat q.character.toNat := by
  obtain ⟨hp, hp'⟩ := hp
  obtain ⟨hq, hq'⟩ := hq
  rcases (Position.le_iff p q).1 h with hline | ⟨hline, hcharacter⟩
  · exact offsetIn_mono_line t _ _ (by omega)
  · rw [hline]
    exact offsetIn_mono_character t _ (by omega)

/-! ## Behind the first part of a text -/

theorem takeWhile_reverse_of_notMem {s : Text} (h : '\n' ∉ s) : s.reverse.takeWhile (· ≠ '\n') = s.reverse := by
  refine List.takeWhile_eq_self_iff.2 fun x hx => decide_eq_true ?_
  rintro rfl
  exact h (List.mem_reverse.1 hx)

theorem length_afterLast_cons (c : Char) (s : Text) :
    ((c :: s).reverse.takeWhile (· ≠ '\n')).length =
      if c ≠ '\n' ∧ '\n' ∉ s then s.length + 1 else (s.reverse.takeWhile (· ≠ '\n')).length := by
  rw [List.reverse_cons, List.takeWhile_append]
  by_cases hs : '\n' ∈ s
  · have hlength : (s.reverse.takeWhile (· ≠ '\n')).length ≠ s.reverse.length := by
      intro h
      have hall : s.reverse.takeWhile (· ≠ '\n') = s.reverse := (List.takeWhile_prefix _).eq_of_length h
      simpa using List.takeWhile_eq_self_iff.1 hall '\n' (List.mem_reverse.2 hs)
    simp only [hlength, if_false, hs, not_true, and_false]
  · rw [takeWhile_reverse_of_notMem hs, if_pos rfl, List.length_append, List.length_reverse]
    by_cases hc : c = '\n' <;> simp [hs, hc]

/-- The place behind the first part of a text has the length of that part for its offset. -/
theorem offsetIn_append (s t : Text) :
    offsetIn (s ++ t) (s.count '\n') (s.reverse.takeWhile (· ≠ '\n')).length = s.length := by
  induction s with
  | nil => cases t <;> simp [offsetIn]
  | cons c s ih =>
    rw [length_afterLast_cons, List.cons_append, List.length_cons]
    by_cases hc : c = '\n'
    · rw [hc, List.count_cons_self, if_neg (by simp), offsetIn, if_pos rfl, ih]
    · rw [List.count_cons_of_ne hc]
      by_cases hs : '\n' ∈ s
      · obtain ⟨n, hn⟩ : ∃ n, s.count '\n' = n + 1 := ⟨s.count '\n' - 1, by have := List.count_pos_iff.2 hs; omega⟩
        rw [if_neg (by simp [hs]), hn, offsetIn, if_neg hc, ← hn, ih]
      · have hall : (s.reverse.takeWhile (· ≠ '\n')).length = s.length := by
          rw [List.takeWhile_eq_self_iff.2, List.length_reverse]
          intro x hx
          have hne : x ≠ '\n' := fun h => hs (h ▸ List.mem_reverse.1 hx)
          simpa using hne
        have hcount : s.count '\n' = 0 := List.count_eq_zero.2 hs
        rw [hcount, hall] at ih
        rw [if_pos ⟨hc, hs⟩, hcount, offsetIn, if_neg hc, ih]

/-- **Where the first part of a text ends is as far as the part is long.** -/
theorem offsetAt?_afterText (s t : Text) : offsetAt? (s ++ t) (Position.afterText s) = some (s.length : Nat) := by
  rw [Position.afterText, offsetAt?_natCast, offsetIn_append]

/-- **The position of an offset is where the part of the text up to it ends.** -/
theorem positionAt_length (s t : Text) : positionAt (s ++ t) s.length = Position.afterText s := by
  have htail : (s.reverse.takeWhile (· ≠ '\n')).length ≤ s.length := by
    simpa using (List.takeWhile_prefix (l := s.reverse) (· ≠ '\n')).length_le
  simp only [positionAt, Text.upTo_natCast, List.take_left', Position.afterText, Position.mk.injEq, true_and]
  omega

theorem positionAt_of_le {text : Text} {n : Nat} (h : n ≤ text.length) :
    positionAt text n = .afterText (text.take n) := by
  have hplace := positionAt_length (text.take n) (text.drop n)
  rwa [List.take_append_drop, List.length_take, min_eq_left h] at hplace

theorem offsetAt?_of_le {text : Text} {n : Nat} (h : n ≤ text.length) :
    offsetAt? text (.afterText (text.take n)) = some (n : Int) := by
  have hplace := offsetAt?_afterText (text.take n) (text.drop n)
  rwa [List.take_append_drop, List.length_take, min_eq_left h] at hplace

/-- Where the first part of a text ends is in the text. -/
theorem isIn_afterText_take (text : Text) (n : Nat) : (Position.afterText (text.take n)).IsIn text := by
  rw [isIn_iff_mem_places]
  have hplace := afterText_mem_places_append [] (text.take n) (text.drop n)
  rwa [List.take_append_drop] at hplace

/-! ## Back and forth -/

theorem exists_take_of_mem_places (before : Text) {t : Text} {p : Position}
    (h : p ∈ places (Position.afterText before) t) : ∃ n ≤ t.length, p = .afterText (before ++ t.take n) := by
  induction t generalizing before with
  | nil =>
    rw [places, List.mem_singleton] at h
    exact ⟨0, le_rfl, by rw [h, List.take_nil, List.append_nil]⟩
  | cons c t ih =>
    rcases mem_places_cons.1 h with rfl | h
    · exact ⟨0, Nat.zero_le _, by rw [List.take_zero, List.append_nil]⟩
    · rw [← Position.afterText_concat] at h
      obtain ⟨n, hn, rfl⟩ := ih _ h
      exact ⟨n + 1, Nat.succ_le_succ hn, by rw [List.append_assoc, List.take_succ_cons]; rfl⟩

/-- **The positions in a text are those where its first parts end.** -/
theorem isIn_iff_exists_take {text : Text} {p : Position} :
    p.IsIn text ↔ ∃ n ≤ text.length, p = .afterText (text.take n) := by
  constructor
  · intro h
    exact exists_take_of_mem_places [] ((isIn_iff_mem_places text p).1 h)
  · rintro ⟨n, -, rfl⟩
    exact isIn_afterText_take text n

/-- **Offsets and positions convert back and forth.** An offset in a text is that of its position, which is in the text,
and a position in a text is that of its offset. Wherever positions are that are not counted from the end, their offsets
are in the text and come in the order of the positions. -/
theorem offsets_and_positions (text : Text) :
    (∀ k : Int, 0 ≤ k → k ≤ text.length →
      (positionAt text k).IsIn text ∧ offsetAt? text (positionAt text k) = some k) ∧
    (∀ p : Position, p.IsIn text → ∃ k, offsetAt? text p = some k ∧ positionAt text k = p) ∧
    ∀ p q : Position, p.IsNonneg → q.IsNonneg →
      ∃ j k, offsetAt? text p = some j ∧ offsetAt? text q = some k ∧ (0 ≤ j ∧ j ≤ text.length) ∧
        (0 ≤ k ∧ k ≤ text.length) ∧ (p.le q = true → j ≤ k) := by
  refine ⟨fun k hk hlength => ?_, fun p hp => ?_, fun p q hp hq => ?_⟩
  · obtain ⟨n, rfl⟩ := Int.eq_ofNat_of_zero_le hk
    have hn : n ≤ text.length := Int.ofNat_le.1 hlength
    rw [positionAt_of_le hn]
    exact ⟨isIn_afterText_take text n, offsetAt?_of_le hn⟩
  · obtain ⟨n, hn, rfl⟩ := isIn_iff_exists_take.1 hp
    exact ⟨n, offsetAt?_of_le hn, positionAt_of_le hn⟩
  · have hj := offsetIn_le_length text p.line.toNat p.character.toNat
    have hk := offsetIn_le_length text q.line.toNat q.character.toNat
    refine ⟨_, _, offsetAt?_of_isNonneg text hp, offsetAt?_of_isNonneg text hq, ⟨Int.natCast_nonneg _, Int.ofNat_le.2 hj⟩,
      ⟨Int.natCast_nonneg _, Int.ofNat_le.2 hk⟩, fun hle => ?_⟩
    exact Int.ofNat_le.2 (offsetIn_le_offsetIn text hp hq hle)

/-- The empty line of a text, the end of its last line, and positions behind a line and behind all lines. -/
theorem offsets_and_positions_lines :
    ((positionAt "ab\n\nc" 3).IsIn "ab\n\nc" ∧ offsetAt? "ab\n\nc" (positionAt "ab\n\nc" 3) = some 3) ∧
      (∃ k, offsetAt? "ab\n\nc" ⟨2, 1⟩ = some k ∧ positionAt "ab\n\nc" k = ⟨2, 1⟩) ∧
      offsetAt? "ab\n\nc" ⟨0, 7⟩ = some 2 ∧ offsetAt? "ab\n\nc" ⟨5, 0⟩ = some 5 ∧
      ∃ j k, offsetAt? "ab\n\nc" ⟨0, 7⟩ = some j ∧ offsetAt? "ab\n\nc" ⟨5, 0⟩ = some k ∧ j ≤ k := by
  obtain ⟨hoffset, hposition, horder⟩ := offsets_and_positions "ab\n\nc"
  obtain ⟨j, k, hj, hk, -, -, hle⟩ := horder ⟨0, 7⟩ ⟨5, 0⟩ (by decide) (by decide)
  exact ⟨hoffset 3 (by decide) (by decide), hposition ⟨2, 1⟩ (by decide), by decide, by decide, j, k, hj, hk,
    hle (by decide)⟩

end Document

end CursorSpec
