/-
The lines that shape a spec: headers, references and fences.

`header?_eq_some_iff` and `reference?_eq_some_iff` say what such lines look like. A reference is a text in brackets and
a target in parentheses; where a line can be read so in several ways, the one with the shortest text counts.
-/
import CursorSpec.Spec.Line
import Mathlib.Tactic

namespace CursorSpec.Line

/-! ## Headers and fences -/

/-- the line that opens and closes a block -/
def fence : Text := ['\x60', '\x60', '\x60']

theorem isFence_iff {l : Text} : isFence l = true ↔ l = fence := decide_eq_true_iff

theorem isFence_fence : isFence fence = true := isFence_iff.2 rfl

theorem looksLikeHeader_fence : looksLikeHeader fence = false := rfl

theorem reference?_fence : reference? fence = none := rfl

theorem isFence_of_reference? {l target : Text} (h : reference? l = some target) : isFence l = false := by
  rw [Bool.eq_false_iff]
  intro hfence
  rw [isFence_iff.1 hfence, reference?_fence] at h
  cases h

/-- Lines have a first fence or none. -/
theorem exists_cut (ls : List Text) : (∀ l ∈ ls, isFence l = false) ∨
    ∃ before after, ls = before ++ fence :: after ∧ ∀ l ∈ before, isFence l = false := by
  cases h : ls.find? isFence with
  | none =>
    left
    intro l hl
    simpa using List.find?_eq_none.1 h l hl
  | some f =>
    right
    obtain ⟨hf, before, after, hls, hbefore⟩ := List.find?_eq_some_iff_append.1 h
    rw [isFence_iff.1 hf] at hls
    exact ⟨before, after, hls, fun l hl => by simpa using hbefore l hl⟩

theorem looksLikeHeader_iff {l : Text} : looksLikeHeader l = true ↔ ∃ rest, l = headerStart ++ rest := by
  rw [looksLikeHeader, Text.startsWith_iff]
  exact exists_congr fun rest => eq_comm

/-- A header is anything behind `# `, and nothing is no header. -/
theorem header?_eq_some_iff {l title : Text} :
    header? l = some title ↔ ∃ rest, l = headerStart ++ rest ∧ rest ≠ [] ∧ title = titleOf rest := by
  unfold header?
  cases h : Text.afterStart? headerStart l with
  | none =>
    constructor
    · intro h'; cases h'
    · rintro ⟨rest, rfl, -⟩
      rw [Text.afterStart?_eq_some_iff.2 rfl] at h
      cases h
  | some t =>
    rw [Text.afterStart?_eq_some_iff] at h
    subst h
    cases t with
    | nil =>
      constructor
      · intro h'; cases h'
      · rintro ⟨rest, hrest, hne, -⟩
        exact absurd (List.append_cancel_left hrest).symm hne
    | cons c t =>
      constructor
      · intro h'
        cases h'
        exact ⟨c :: t, rfl, List.cons_ne_nil c t, rfl⟩
      · rintro ⟨rest, hrest, -, rfl⟩
        rw [← List.append_cancel_left hrest]
        rfl

theorem header?_of_not_looksLikeHeader {l : Text} (h : looksLikeHeader l = false) : header? l = none := by
  rw [Option.eq_none_iff_forall_ne_some]
  intro title ht
  obtain ⟨rest, hl, -⟩ := header?_eq_some_iff.1 ht
  rw [looksLikeHeader_iff.2 ⟨rest, hl⟩] at h
  cases h

/-! ## References -/

/-- what stands between the text and the target of a reference -/
def referenceMiddle : Text := [']', '(', '#']

/-- one way to read a line as a reference: a text in brackets and a target in parentheses, neither of them empty -/
structure ReadsAs (l text target : Text) : Prop where
  line : l = '[' :: (text ++ (referenceMiddle ++ (target ++ [')'])))
  text_ne_nil : text ≠ []
  target_ne_nil : target ≠ []

/-- whether a line is a reference to a target, read with the shortest text -/
def RefersTo (l target : Text) : Prop :=
  ∃ text, ReadsAs l text target ∧ ∀ text' target', ReadsAs l text' target' → text.length ≤ text'.length

/-- the same for what follows the bracket and the first character of the text -/
def EndsWithTarget (t before target : Text) : Prop :=
  t = before ++ (referenceMiddle ++ (target ++ [')'])) ∧ target ≠ []

theorem endsWithTarget_cons_iff {c : Char} {t before target : Text}
    (h : Text.afterStart? referenceMiddle (c :: t) = none) :
    EndsWithTarget (c :: t) before target ↔ ∃ rest, before = c :: rest ∧ EndsWithTarget t rest target := by
  constructor
  · rintro ⟨ht, htarget⟩
    cases before with
    | nil =>
      rw [List.nil_append] at ht
      rw [Text.afterStart?_eq_some_iff.2 ht] at h
      cases h
    | cons d rest =>
      rw [List.cons_append, List.cons.injEq] at ht
      obtain ⟨rfl, ht⟩ := ht
      exact ⟨rest, rfl, ht, htarget⟩
  · rintro ⟨rest, rfl, rfl, htarget⟩
    exact ⟨rfl, htarget⟩

/-- Where the middle stands, a target ends the line if any ends it further on. -/
theorem endsWithTarget_middle {u before target : Text} (h : EndsWithTarget (referenceMiddle ++ u) before target) :
    ∃ target', target' ≠ [] ∧ u = target' ++ [')'] := by
  obtain ⟨hu, htarget⟩ := h
  have hlength := congrArg List.length hu
  have hpos := List.length_pos_of_ne_nil htarget
  simp only [List.length_append, List.length_singleton] at hlength
  rcases List.eq_nil_or_concat' u with rfl | ⟨v, c, rfl⟩
  · simp only [List.length_nil] at hlength; omega
  · have hc : c = ')' := by
      have hlast := congrArg List.getLast? hu
      simpa [← List.append_assoc] using hlast
    refine ⟨v, ?_, by rw [hc]⟩
    rintro rfl
    simp only [List.nil_append, List.length_singleton] at hlength
    omega

/-- a target and the parenthesis behind it, in what follows the middle of a reference -/
theorem closes_iff {u : Text} :
    (decide (2 ≤ u.length) && decide (u.getLast? = some ')')) = true ↔ ∃ v, v ≠ [] ∧ u = v ++ [')'] := by
  rw [Bool.and_eq_true, decide_eq_true_iff, decide_eq_true_iff, List.getLast?_eq_some_iff]
  constructor
  · rintro ⟨hlength, v, rfl⟩
    refine ⟨v, ?_, rfl⟩
    rintro rfl
    simp at hlength
  · rintro ⟨v, hv, rfl⟩
    have hpos := List.length_pos_of_ne_nil hv
    exact ⟨by rw [List.length_append, List.length_singleton]; omega, v, rfl⟩

theorem targetAfter?_of_middle {c : Char} {t u : Text} (h : Text.afterStart? referenceMiddle (c :: t) = some u) :
    targetAfter? (c :: t) = if 2 ≤ u.length && u.getLast? = some ')' then some u.dropLast else none := by
  have hmiddle : Text.afterStart? "](#" (c :: t) = some u := h
  rw [targetAfter?, hmiddle]

theorem targetAfter?_of_no_middle {c : Char} {t : Text} (h : Text.afterStart? referenceMiddle (c :: t) = none) :
    targetAfter? (c :: t) = targetAfter? t := by
  have hmiddle : Text.afterStart? "](#" (c :: t) = none := h
  rw [targetAfter?, hmiddle]

theorem targetAfter?_eq_some_iff {t target : Text} : targetAfter? t = some target ↔
    ∃ before, EndsWithTarget t before target ∧
      ∀ before' target', EndsWithTarget t before' target' → before.length ≤ before'.length := by
  induction t with
  | nil =>
    constructor
    · intro h; cases h
    · rintro ⟨before, ⟨h, -⟩, -⟩
      have hlength := congrArg List.length h
      simp [referenceMiddle] at hlength
  | cons c t ih =>
    cases h : Text.afterStart? referenceMiddle (c :: t) with
    | some u =>
      -- the middle stands here, so no text is shorter
      rw [targetAfter?_of_middle h, Text.afterStart?_eq_some_iff.1 h]
      by_cases hu : ∃ v, v ≠ [] ∧ u = v ++ [')']
      · simp only [closes_iff.2 hu, if_true]
        obtain ⟨v, hv, rfl⟩ := hu
        rw [List.dropLast_concat, Option.some_inj]
        constructor
        · rintro rfl
          exact ⟨[], ⟨rfl, hv⟩, fun _ _ _ => Nat.zero_le _⟩
        · rintro ⟨before, ⟨hline, -⟩, hleast⟩
          have hnil : before = [] := List.eq_nil_of_length_eq_zero (Nat.le_zero.1 (hleast [] v ⟨rfl, hv⟩))
          rw [hnil, List.nil_append] at hline
          exact List.append_cancel_right (List.append_cancel_left hline)
      · simp only [closes_iff, hu, if_false]
        constructor
        · intro h'; cases h'
        · rintro ⟨before, hends, -⟩
          exact absurd (endsWithTarget_middle hends) hu
    | none =>
      -- the middle stands further on, behind a text with this character
      simp only [targetAfter?_of_no_middle h, ih, endsWithTarget_cons_iff h]
      constructor
      · rintro ⟨rest, hends, hleast⟩
        refine ⟨c :: rest, ⟨rest, rfl, hends⟩, ?_⟩
        rintro _ target' ⟨rest', rfl, hends'⟩
        exact Nat.succ_le_succ (hleast rest' target' hends')
      · rintro ⟨_, ⟨rest, rfl, hends⟩, hleast⟩
        refine ⟨rest, hends, fun rest' target' hends' => ?_⟩
        exact Nat.le_of_succ_le_succ (hleast (c :: rest') target' ⟨rest', rfl, hends'⟩)

theorem readsAs_iff {c : Char} {t text target : Text} :
    ReadsAs ('[' :: c :: t) text target ↔ ∃ before, text = c :: before ∧ EndsWithTarget t before target := by
  constructor
  · rintro ⟨hline, htext, htarget⟩
    cases text with
    | nil => exact absurd rfl htext
    | cons d before =>
      simp only [List.cons_append, List.cons.injEq, true_and] at hline
      obtain ⟨rfl, hline⟩ := hline
      exact ⟨before, rfl, hline, htarget⟩
  · rintro ⟨before, rfl, rfl, htarget⟩
    exact ⟨rfl, List.cons_ne_nil c before, htarget⟩

/-- **What a reference refers to.** -/
theorem reference?_eq_some_iff {l target : Text} : reference? l = some target ↔ RefersTo l target := by
  unfold reference?
  split
  · next c t =>
    simp only [targetAfter?_eq_some_iff, RefersTo, readsAs_iff]
    constructor
    · rintro ⟨before, hends, hleast⟩
      refine ⟨c :: before, ⟨before, rfl, hends⟩, ?_⟩
      rintro _ target' ⟨before', rfl, hends'⟩
      exact Nat.succ_le_succ (hleast before' target' hends')
    · rintro ⟨_, ⟨before, rfl, hends⟩, hleast⟩
      refine ⟨before, hends, fun before' target' hends' => ?_⟩
      exact Nat.le_of_succ_le_succ (hleast (c :: before') target' ⟨before', rfl, hends'⟩)
  · next hl =>
    constructor
    · intro h; cases h
    · rintro ⟨text, ⟨hline, htext, -⟩, -⟩
      cases text with
      | nil => exact absurd rfl htext
      | cons d before => exact absurd hline (hl d _)

end CursorSpec.Line
