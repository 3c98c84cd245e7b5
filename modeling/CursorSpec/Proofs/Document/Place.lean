/-
Places: the positions that lie in a text.

A position lies in a text if it is on one of its lines and no further than the end of that line. `places` walks through
a text and lists the positions it comes by. `isIn_iff_mem_places`: these are exactly the positions that lie in the text.
The walk only goes forward (`le_of_mem_places`), so a place passed once is never reached again. After a piece of the
text it stands where counting the line feeds and the characters behind the last one says (`Position.afterText`).
-/
import CursorSpec.Document.Basic
import Mathlib.Tactic

namespace CursorSpec

namespace Position

/-- a position in a text: on one of its lines, and no further than the end of that line -/
def IsIn (text : Text) (p : Position) : Prop :=
  0 ≤ p.line ∧ 0 ≤ p.character ∧ ∃ l ∈ (Text.lines text)[p.line.toNat]?, p.character ≤ l.length

instance (text : Text) (p : Position) : Decidable (p.IsIn text) := by
  unfold IsIn; infer_instance

/-- where a text ends that begins at the first position: the line counts its line feeds, the character what follows the
last one -/
def afterText (t : Text) : Position := ⟨t.count '\n', (t.reverse.takeWhile (· ≠ '\n')).length⟩

theorem afterText_concat (t : Text) (c : Char) : afterText (t ++ [c]) = (afterText t).after c := by
  by_cases h : c = '\n' <;> simp [afterText, after, h]

theorem lt_after (p : Position) (c : Char) : p.lt (p.after c) = true := by
  unfold after
  split <;> simp [lt_iff]

theorem le_of_lt {p q : Position} (h : p.lt q = true) : p.le q = true := by
  simp only [lt_iff, le_iff] at *; omega

theorem ne_of_lt {p q : Position} (h : p.lt q = true) : p ≠ q := by
  rintro rfl
  simp only [lt_iff] at h; omega

theorem not_le_of_lt {p q : Position} (h : p.lt q = true) : ¬ q.le p = true := by
  simp only [lt_iff, le_iff] at *; omega

theorem le_of_not_lt {p q : Position} (h : ¬ p.lt q = true) : q.le p = true := by
  simp only [lt_iff, le_iff] at *; omega

theorem lt_of_not_le {p q : Position} (h : ¬ p.le q = true) : q.lt p = true := by
  simp only [lt_iff, le_iff] at *; omega

theorem lt_of_le_of_ne {p q : Position} (h : p.le q = true) (hne : p ≠ q) : p.lt q = true := by
  by_contra hlt
  exact hne (le_antisymm h (le_of_not_lt hlt))

theorem lt_of_lt_of_le {p q r : Position} (h1 : p.lt q = true) (h2 : q.le r = true) : p.lt r = true := by
  simp only [lt_iff, le_iff] at *; omega

theorem lt_of_le_of_lt {p q r : Position} (h1 : p.le q = true) (h2 : q.lt r = true) : p.lt r = true := by
  simp only [lt_iff, le_iff] at *; omega

end Position

/-- A selection does not end before it starts. -/
theorem Selection.start_le_stop (s : Selection) : s.start.le s.stop = true := by
  unfold start stop
  split
  · next h => exact Position.le_of_lt h
  · next h => exact Position.le_of_not_lt h

namespace Document

/-- the positions that one comes by on the way through a text -/
def places (here : Position) : Text → List Position
  | [] => [here]
  | c :: t => here :: places (here.after c) t

theorem le_of_mem_places {here p : Position} {t : Text} (h : p ∈ places here t) : here.le p = true := by
  induction t generalizing here with
  | nil =>
    rw [places, List.mem_singleton] at h
    rw [h]; exact Position.le_refl _
  | cons c t ih =>
    rcases List.mem_cons.1 h with rfl | h
    · exact Position.le_refl _
    · exact Position.le_trans (Position.le_of_lt (Position.lt_after here c)) (ih h)

/-- Past the first character, every place lies behind the one before that character. -/
theorem lt_of_mem_places_after {here p : Position} {c : Char} {t : Text} (h : p ∈ places (here.after c) t) :
    here.lt p = true :=
  Position.lt_of_lt_of_le (Position.lt_after here c) (le_of_mem_places h)

theorem mem_places_cons {here p : Position} {c : Char} {t : Text} :
    p ∈ places here (c :: t) ↔ p = here ∨ p ∈ places (here.after c) t :=
  List.mem_cons

/-- where a position comes on the way through a text: at the first place that is not before it, or at the last one -/
def place (here p : Position) : Text → Position
  | [] => here
  | c :: t => if p.le here then here else place (here.after c) p t

/-- A place comes where it is. -/
theorem place_of_mem_places {here p : Position} {t : Text} (h : p ∈ places here t) : place here p t = p := by
  induction t generalizing here with
  | nil => exact (List.mem_singleton.1 h).symm
  | cons c t ih =>
    rw [place]
    rcases mem_places_cons.1 h with rfl | h
    · rw [if_pos (Position.le_refl _)]
    · rw [if_neg (Position.not_le_of_lt (lt_of_mem_places_after h)), ih h]

/-! ## Places by counting -/

/-- The way through a text comes by the end of each part of it. -/
theorem afterText_mem_places_append (before t u : Text) :
    Position.afterText (before ++ t) ∈ places (Position.afterText before) (t ++ u) := by
  induction t generalizing before with
  | nil =>
    rw [List.append_nil]
    cases u with
    | nil => exact List.mem_singleton_self _
    | cons c u => exact List.mem_cons_self
  | cons c t ih =>
    have h := ih (before ++ [c])
    rw [Position.afterText_concat, List.append_assoc] at h
    exact List.mem_cons_of_mem _ h

theorem afterText_mem_places (before t : Text) :
    Position.afterText (before ++ t) ∈ places (Position.afterText before) t := by
  have h := afterText_mem_places_append before t []
  rwa [List.append_nil] at h

/-- The way through a text ends behind all of it. -/
theorem le_afterText_of_mem_places {before t : Text} {p : Position} (h : p ∈ places (Position.afterText before) t) :
    p.le (Position.afterText (before ++ t)) = true := by
  induction t generalizing before with
  | nil =>
    rw [places, List.mem_singleton] at h
    rw [h, List.append_nil]
    exact Position.le_refl _
  | cons c t ih =>
    rcases List.mem_cons.1 h with rfl | h
    · exact le_of_mem_places (afterText_mem_places before (c :: t))
    · rw [← Position.afterText_concat] at h
      have hle := ih h
      rwa [List.append_assoc] at hle

/-- More text ends further on. -/
theorem afterText_lt (before : Text) (c : Char) (t : Text) :
    (Position.afterText before).lt (Position.afterText (before ++ c :: t)) = true := by
  have h := afterText_mem_places (before ++ [c]) t
  rw [Position.afterText_concat, List.append_assoc] at h
  exact lt_of_mem_places_after h

/-! ## Places by lines -/

/-- whether a position is on one of these lines, the first of which goes on at a given position -/
def OnLines (here : Position) (p : Position) : List Text → Prop
  | [] => False
  | l :: ls =>
    (p.line = here.line ∧ here.character ≤ p.character ∧ p.character ≤ here.character + l.length) ∨
      OnLines ⟨here.line + 1, 0⟩ p ls

theorem onLines_cons (n k : Int) (p : Position) (l : Text) (ls : List Text) :
    OnLines ⟨n, k⟩ p (l :: ls) ↔
      (p.line = n ∧ k ≤ p.character ∧ p.character ≤ k + l.length) ∨ OnLines ⟨n + 1, 0⟩ p ls :=
  Iff.rfl

theorem mem_places_iff_onLines (here p : Position) (t : Text) :
    p ∈ places here t ↔ OnLines here p (Text.lines t) := by
  induction t generalizing here with
  | nil =>
    simp only [places, Text.lines, OnLines, List.mem_singleton, Position.ext_iff, List.length_nil, or_false]
    omega
  | cons c t ih =>
    rw [mem_places_cons, ih]
    by_cases hc : c = '\n'
    · simp only [Text.lines, hc, if_true, OnLines, Position.after, List.length_nil, Position.ext_iff]
      exact or_congr (by omega) Iff.rfl
    · obtain ⟨l, ls, hl⟩ := List.exists_cons_of_ne_nil (Text.lines_ne_nil t)
      simp only [Text.lines, hc, if_false, hl, OnLines, Position.after, List.length_cons, Position.ext_iff,
        ← or_assoc]
      exact or_congr (by omega) Iff.rfl

theorem onLines_iff (n : Int) (p : Position) (ls : List Text) :
    OnLines ⟨n, 0⟩ p ls ↔
      n ≤ p.line ∧ 0 ≤ p.character ∧ ∃ l ∈ ls[(p.line - n).toNat]?, p.character ≤ l.length := by
  induction ls generalizing n with
  | nil => simp [OnLines]
  | cons l ls ih =>
    rw [onLines_cons, ih]
    rcases lt_trichotomy p.line n with h | h | h
    · constructor
      · rintro (⟨h1, -⟩ | ⟨h1, -⟩) <;> omega
      · rintro ⟨h1, -⟩; omega
    · have h0 : (p.line - n).toNat = 0 := by omega
      simp only [h0, List.getElem?_cons_zero, Option.mem_def, Option.some.injEq, exists_eq_left']
      constructor
      · rintro (⟨-, h1, h2⟩ | ⟨h1, -⟩)
        · exact ⟨h.ge, h1, by omega⟩
        · omega
      · rintro ⟨-, h1, h2⟩
        exact Or.inl ⟨h, h1, by omega⟩
    · have h1 : (p.line - n).toNat = (p.line - (n + 1)).toNat + 1 := by omega
      rw [h1, List.getElem?_cons_succ]
      constructor
      · rintro (⟨h2, -⟩ | ⟨-, h3⟩)
        · omega
        · exact ⟨h.le, h3⟩
      · rintro ⟨-, h3⟩
        exact Or.inr ⟨by omega, h3⟩

/-- **The positions in a text are those that one comes by on the way through it.** -/
theorem isIn_iff_mem_places (text : Text) (p : Position) : p.IsIn text ↔ p ∈ places ⟨0, 0⟩ text := by
  rw [mem_places_iff_onLines, onLines_iff, sub_zero]
  rfl

end Document

end CursorSpec
