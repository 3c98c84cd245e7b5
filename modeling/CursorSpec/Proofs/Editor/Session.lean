/-
Which insert session is repeated.

A session is complete if a command that switches to insert mode is followed by one that switches back (`Completes`),
and the last complete one begins as late, and then ends as early, as any does (`IsLast`). The search looks at the last
switch to insert mode alone. So it finds the last complete session unless that switch is still open, and then it finds
none at all, however many complete sessions came before (`session?_eq_some_iff`, `session?_eq_none_iff`).
`repeats_last_unless_open` says what that means for repeating; `not_always_repeats_last` is a history with a complete
session that is not repeated.
-/
import CursorSpec.Editor.Replay
import Mathlib.Tactic

namespace CursorSpec

namespace CommandHistory

def Flagged (h : CommandHistory) (p : CommandFlags → Bool) (i : Nat) : Prop := ∃ r ∈ h[i]?, p r.flags = true

/-- whether one command switches to insert mode and a later one back to normal mode -/
structure Completes (h : CommandHistory) (i j : Nat) : Prop where
  opens : h.Flagged (·.toInsert) i
  later : i < j
  closes : h.Flagged (·.toNormal) j

/-- whether the last complete session is between two commands -/
structure IsLast (h : CommandHistory) (i j : Nat) : Prop where
  complete : h.Completes i j
  latest : ∀ i' j', h.Completes i' j' → i' ≤ i
  earliest : ∀ j', h.Completes i j' → j ≤ j'

instance (h : CommandHistory) (p : CommandFlags → Bool) (i : Nat) : Decidable (h.Flagged p i) :=
  inferInstanceAs (Decidable (∃ r ∈ h[i]?, p r.flags = true))

instance (h : CommandHistory) (i j : Nat) : Decidable (h.Completes i j) :=
  decidable_of_iff (h.Flagged (·.toInsert) i ∧ i < j ∧ h.Flagged (·.toNormal) j)
    ⟨fun ⟨opens, later, closes⟩ => ⟨opens, later, closes⟩, fun hc => ⟨hc.opens, hc.later, hc.closes⟩⟩

/-- whether there is a switch to insert mode without a later one back -/
def IsOpen (h : CommandHistory) : Prop := ∃ i, h.Flagged (·.toInsert) i ∧ ∀ j, ¬h.Completes i j

section

variable {h : CommandHistory} {p : CommandFlags → Bool} {i j k : Nat}

theorem flagged_cons_zero {r : RecordedCommand} : Flagged (r :: h) p 0 ↔ p r.flags = true := by
  simp [Flagged]

theorem flagged_cons_succ {r : RecordedCommand} : Flagged (r :: h) p (i + 1) ↔ h.Flagged p i := Iff.rfl

theorem flagged_drop : Flagged (h.drop k) p i ↔ h.Flagged p (k + i) := by
  simp only [Flagged, List.getElem?_drop]

/-! ## The two searches -/

theorem lastWith_cons (r : RecordedCommand) :
    lastWith p k (r :: h) = (lastWith p (k + 1) h).or (if p r.flags then some k else none) := by
  rw [lastWith]
  cases lastWith p (k + 1) h <;> rfl

theorem lastWith_eq_none (hnone : lastWith p k h = none) : ∀ n, ¬h.Flagged p n := by
  induction h generalizing k with
  | nil => simp [Flagged]
  | cons r h ih =>
    obtain ⟨hlater, hfirst⟩ := Option.or_eq_none_iff.1 (lastWith_cons r ▸ hnone)
    rintro (_ | n) hn
    · rw [if_pos (flagged_cons_zero.1 hn)] at hfirst
      cases hfirst
    · exact ih hlater n (flagged_cons_succ.1 hn)

theorem lastWith_eq_some (hsome : lastWith p k h = some i) :
    ∃ n, i = k + n ∧ h.Flagged p n ∧ ∀ m, h.Flagged p m → m ≤ n := by
  induction h generalizing k with
  | nil => cases hsome
  | cons r h ih =>
    rcases Option.or_eq_some_iff.1 (lastWith_cons r ▸ hsome) with hlater | ⟨hnone, hfirst⟩
    · obtain ⟨n, hi, hn, hlast⟩ := ih hlater
      refine ⟨n + 1, by omega, hn, ?_⟩
      rintro (_ | m) hm
      · omega
      · exact Nat.succ_le_succ (hlast m hm)
    · split at hfirst
      · next hp =>
        refine ⟨0, by simpa using hfirst.symm, flagged_cons_zero.2 hp, ?_⟩
        rintro (_ | m) hm
        · exact le_rfl
        · exact absurd hm (lastWith_eq_none hnone m)
      · cases hfirst

theorem firstFrom_eq_none (hnone : firstFrom p k h = none) : ∀ n, ¬h.Flagged p n := by
  induction h generalizing k with
  | nil => simp [Flagged]
  | cons r h ih =>
    rw [firstFrom] at hnone
    split at hnone
    · cases hnone
    · next hp =>
      rintro (_ | n) hn
      · exact hp (flagged_cons_zero.1 hn)
      · exact ih hnone n hn

theorem firstFrom_eq_some (hsome : firstFrom p k h = some i) :
    ∃ n, i = k + n ∧ h.Flagged p n ∧ ∀ m, h.Flagged p m → n ≤ m := by
  induction h generalizing k with
  | nil => cases hsome
  | cons r h ih =>
    rw [firstFrom] at hsome
    split at hsome
    · next hp => exact ⟨0, by simpa using hsome.symm, flagged_cons_zero.2 hp, fun m _ => m.zero_le⟩
    · next hp =>
      obtain ⟨n, hi, hn, hfirst⟩ := ih hsome
      refine ⟨n + 1, by omega, hn, ?_⟩
      rintro (_ | m) hm
      · exact absurd (flagged_cons_zero.1 hm) hp
      · exact Nat.succ_le_succ (hfirst m hm)

/-! ## What they find together -/

theorem IsLast.unique {i' j' : Nat} (hl : h.IsLast i j) (hl' : h.IsLast i' j') : i = i' ∧ j = j' := by
  obtain rfl : i = i' := le_antisymm (hl'.latest i j hl.complete) (hl.latest i' j' hl'.complete)
  exact ⟨rfl, le_antisymm (hl.earliest j' hl'.complete) (hl'.earliest j hl.complete)⟩

/-- What is found is the last complete session, and the last switch to insert mode at all. -/
theorem isLast_of_session? (hs : h.session? = some (i, j)) :
    h.IsLast i j ∧ ∀ n, h.Flagged (·.toInsert) n → n ≤ i := by
  simp only [session?, Option.bind_eq_bind, Option.bind_eq_some_iff, Option.pure_def, Option.some.injEq,
    Prod.mk.injEq] at hs
  obtain ⟨start, hstart, stop, hstop, rfl, rfl⟩ := hs
  obtain ⟨n, hn, hopens, hlast⟩ := lastWith_eq_some hstart
  obtain ⟨m, rfl, hcloses, hfirst⟩ := firstFrom_eq_some hstop
  obtain rfl : start = n := by omega
  refine ⟨⟨⟨hopens, by omega, flagged_drop.1 hcloses⟩, fun i' j' hc => hlast i' hc.opens, fun j' hc => ?_⟩, hlast⟩
  have hlater : j' = start + 1 + (j' - (start + 1)) := by have := hc.later; omega
  have hle : m ≤ j' - (start + 1) := hfirst _ (flagged_drop.2 (hlater ▸ hc.closes))
  omega

/-- Where nothing is found, there is no switch to insert mode, or the last one is open. -/
theorem isOpen_of_session? (hs : h.session? = none) : (∀ n, ¬h.Flagged (·.toInsert) n) ∨ h.IsOpen := by
  simp only [session?, Option.bind_eq_bind, Option.bind_eq_none_iff, Option.pure_def, reduceCtorEq] at hs
  cases hstart : lastWith (·.toInsert) 0 h with
  | none => exact Or.inl (lastWith_eq_none hstart)
  | some start =>
    obtain ⟨n, hn, hopens, -⟩ := lastWith_eq_some hstart
    obtain rfl : start = n := by omega
    have hnone : firstFrom (·.toNormal) (start + 1) (h.drop (start + 1)) = none := by
      simpa [Option.eq_none_iff_forall_ne_some] using hs start hstart
    refine Or.inr ⟨start, hopens, fun j hc => ?_⟩
    have hlater : j = start + 1 + (j - (start + 1)) := by have := hc.later; omega
    exact firstFrom_eq_none hnone _ (flagged_drop.2 (hlater ▸ hc.closes))

/-- **A session is found exactly if it is the last complete one and no switch to insert mode is open.** -/
theorem session?_eq_some_iff : h.session? = some (i, j) ↔ h.IsLast i j ∧ ¬h.IsOpen := by
  constructor
  · intro hs
    obtain ⟨hlast, hmax⟩ := isLast_of_session? hs
    refine ⟨hlast, fun ⟨n, hopens, hopen⟩ => hopen j ⟨hopens, ?_, hlast.complete.closes⟩⟩
    exact lt_of_le_of_lt (hmax n hopens) hlast.complete.later
  · rintro ⟨hlast, hopen⟩
    cases hs : h.session? with
    | none =>
      rcases isOpen_of_session? hs with hnone | ho
      · exact absurd hlast.complete.opens (hnone i)
      · exact absurd ho hopen
    | some s =>
      obtain ⟨hi, hj⟩ := hlast.unique (isLast_of_session? hs).1
      rw [hi, hj]

/-- **None is found exactly if none is complete or a switch to insert mode is open.** -/
theorem session?_eq_none_iff : h.session? = none ↔ h.IsOpen ∨ ∀ i j, ¬h.Completes i j := by
  constructor
  · intro hs
    rcases isOpen_of_session? hs with hnone | ho
    · exact Or.inr fun i j hc => hnone i hc.opens
    · exact Or.inl ho
  · intro hnone
    cases hs : h.session? with
    | none => rfl
    | some s =>
      obtain ⟨hlast, hopen⟩ := session?_eq_some_iff.1 hs
      rcases hnone with ho | hnone
      · exact absurd ho hopen
      · exact absurd hlast.complete (hnone _ _)

theorem exists_getElem?_of_session? (hs : h.session? = some (i, j)) : ∃ opening, h[i]? = some opening :=
  (session?_eq_some_iff.1 hs).1.complete.opens.imp fun _ hr => hr.1

end

/-! ## What is repeated -/

theorem repeatBy_of_none {h : CommandHistory} (hs : h.session? = none) (execute : Execution) (e : Editor)
    (count : Option Int) : h.repeatBy execute e count = (e, .ok false) := by
  simp only [repeatBy, hs]

theorem repeatBy_of_some {h : CommandHistory} {i j : Nat} (hs : h.session? = some (i, j)) (execute : Execution)
    (e : Editor) (count : Option Int) : h.repeatBy execute e count = h.replay execute i j e count := by
  simp only [repeatBy, hs]

/-- One command is run, and then the changes are made. -/
theorem replay_of_ok {h : CommandHistory} {i : Nat} {opening : RecordedCommand} (hi : h[i]? = some opening)
    {execute : Execution} {e e' : Editor} {v : Value} (hrun : execute e opening.call = (e', .ok v)) (j : Nat)
    (count : Option Int) : h.replay execute i j e count = reapply e' (h.changesOf i j) count := by
  simp only [replay, hi, hrun]

theorem replay_ne_false {h : CommandHistory} {i : Nat} {opening : RecordedCommand} (hi : h[i]? = some opening)
    (execute : Execution) (j : Nat) (e : Editor) (count : Option Int) :
    (h.replay execute i j e count).2 ≠ .ok false := by
  simp only [replay, hi]
  split
  · exact fun hf => by cases hf
  · unfold reapply
    split <;> exact fun hf => by cases hf

/-- **The last complete session is repeated unless a switch to insert mode is open.** With an open one nothing is
repeated and nothing is done, even if there are complete sessions; otherwise that is so only if there are none. -/
theorem repeats_last_unless_open (execute : Execution) (h : CommandHistory) (e : Editor) (count : Option Int) :
    ((h.repeatBy execute e count).2 = .ok false ↔ h.IsOpen ∨ ∀ i j, ¬h.Completes i j) ∧
      (h.IsOpen → h.repeatBy execute e count = (e, .ok false)) ∧
      (¬h.IsOpen → ∀ i j, h.Completes i j →
        ∃ i j, h.IsLast i j ∧ h.repeatBy execute e count = h.replay execute i j e count) := by
  cases hs : h.session? with
  | none =>
    have hrepeat := repeatBy_of_none hs execute e count
    have hnone := session?_eq_none_iff.1 hs
    refine ⟨⟨fun _ => hnone, fun _ => by rw [hrepeat]⟩, fun _ => hrepeat, fun hopen i j hc => ?_⟩
    rcases hnone with ho | hnone
    · exact absurd ho hopen
    · exact absurd hc (hnone i j)
  | some s =>
    obtain ⟨i, j⟩ := s
    have hrepeat := repeatBy_of_some hs execute e count
    obtain ⟨hlast, hopen⟩ := session?_eq_some_iff.1 hs
    obtain ⟨opening, hi⟩ := exists_getElem?_of_session? hs
    refine ⟨⟨fun hf => ?_, fun hnone => ?_⟩, fun ho => absurd ho hopen, fun _ _ _ _ => ⟨i, j, hlast, hrepeat⟩⟩
    · exact absurd (hrepeat ▸ hf) (replay_ne_false hi execute j e count)
    · rw [session?_eq_none_iff.2 hnone] at hs
      cases hs

/-- a modal editor on the text `abc` with a caret before the `c` -/
def abcEditor : Editor := { Host.standard.openEditor.1 with state := .make "abc" [.caret ⟨0, 2⟩] }

/-- a switch to insert mode, and what was typed after it -/
def switchIn (typed : Option (List TextChange)) : RecordedCommand :=
  ⟨⟨"dance.modes.insert.before", []⟩, ⟨false, true, false⟩, typed⟩

def switchOut (typed : Option (List TextChange)) : RecordedCommand := ⟨⟨"dance.noop", []⟩, ⟨false, false, true⟩, typed⟩

/-- two sessions, the second of which is switched into twice -/
def switchedTwice : CommandHistory :=
  [switchIn (some [⟨"x", 0⟩]), switchOut none, switchIn (some [⟨"y", 0⟩]), switchIn (some [⟨"z", 0⟩]), switchOut none]

/-- The second switch in a row begins the session that is repeated. -/
theorem repeats_last_unless_open_twice :
    ¬switchedTwice.IsOpen ∧ switchedTwice.Completes 2 4 ∧
      (∃ i j, switchedTwice.IsLast i j ∧
        switchedTwice.repeatInsert abcEditor none = switchedTwice.replay Editor.execute i j abcEditor none) ∧
      (switchedTwice.repeatInsert abcEditor none).1.state.text = "abzc" := by
  have hopen : ¬switchedTwice.IsOpen := (session?_eq_some_iff.1 (by decide : switchedTwice.session? = some (3, 4))).2
  have hcompletes : switchedTwice.Completes 2 4 := by decide
  obtain ⟨-, -, hrepeat⟩ := repeats_last_unless_open Editor.execute switchedTwice abcEditor none
  exact ⟨hopen, hcompletes, hrepeat hopen 2 4 hcompletes, by decide⟩

/-- a complete session, and then another switch to insert mode -/
def switchedInAgain : CommandHistory := [switchIn (some [⟨"x", 0⟩]), switchOut none, switchIn none]

/-- A complete session is not repeated once insert mode was switched to again. -/
theorem not_always_repeats_last :
    ¬∀ (h : CommandHistory) (e : Editor) (count : Option Int),
      ((h.repeatInsert e count).2 = .ok false → ∀ i j, ¬h.Completes i j) ∧
        ∀ i j, h.IsLast i j → h.repeatInsert e count = h.replay Editor.execute i j e count := by
  intro hclaim
  have hfalse : (switchedInAgain.repeatInsert abcEditor none).2 = .ok false := by decide
  exact (hclaim switchedInAgain abcEditor none).1 hfalse 0 1 (by decide)

end CommandHistory

end CursorSpec
