/-
Line numbers.

Reading only carries the numbers of lines along. Lines that get other numbers are cut into the same entries, with the
other numbers (`ReadingStage.entries?_renumber`), and an entry whose lines get other numbers says what it said before,
on the other lines (`RawEntry.read_renumber`).
-/
import CursorSpec.Proofs.Spec.Entry
import CursorSpec.Proofs.Spec.Layout

namespace CursorSpec

/-! ## Other numbers -/

def NumberedLine.renumber (f : Nat → Nat) (l : NumberedLine) : NumberedLine := { l with number := f l.number }

def RawEntry.renumber (f : Nat → Nat) (e : RawEntry) : RawEntry :=
  { e with line := f e.line, body := e.body.map (.renumber f) }

def ReadingStage.renumber (f : Nat → Nat) : ReadingStage → ReadingStage
  | .prose => .prose
  | .headed e => .headed (e.renumber f)
  | .body e => .body (e.renumber f)
  | .block e => .block (e.renumber f)

def Operation.renumber (g : Int → Int) (o : Operation) : Operation := { o with line := o.line.map g }

def InitialState.renumber (g : Int → Int) (s : InitialState) : InitialState := { s with line := s.line.map g }

def Transition.renumber (g : Int → Int) (t : Transition) : Transition :=
  { t with line := t.line.map g, operations := t.operations.map (.renumber g) }

def Entry.renumber (g : Int → Int) : Entry → Entry
  | .initial s => .initial (s.renumber g)
  | .transition t => .transition (t.renumber g)

def Spec.renumber (g : Int → Int) (s : Spec) : Spec where
  initial := s.initial.map (.renumber g)
  transitions := s.transitions.map (.renumber g)
  headerCount := s.headerCount

theorem map_renumber_numberFrom {f : Nat → Nat} {n m : Nat} {ls : List Text}
    (h : ∀ i < ls.length, f (n + i) = m + i) : (numberFrom n ls).map (.renumber f) = numberFrom m ls := by
  induction ls generalizing n m with
  | nil => rfl
  | cons l ls ih =>
    have hfirst : f n = m := h 0 (Nat.succ_pos _)
    rw [numberFrom, List.map_cons, numberFrom, NumberedLine.renumber, hfirst, ih]
    intro i hi
    have hi' := h (i + 1) (Nat.succ_lt_succ hi)
    rwa [← Nat.add_assoc, ← Nat.add_assoc, Nat.add_right_comm n, Nat.add_right_comm m] at hi'

theorem Spec.renumber_ofEntries (g : Int → Int) (xs : List Entry) (n : Nat) :
    (ofEntries xs n).renumber g = ofEntries (xs.map (.renumber g)) n := by
  induction xs with
  | nil => rfl
  | cons x xs ih =>
    simp only [ofEntries, renumber, Spec.mk.injEq, and_true] at ih ⊢
    cases x with
    | initial i => exact ⟨congrArg (i.renumber g :: ·) ih.1, ih.2⟩
    | transition tr => exact ⟨ih.1, congrArg (tr.renumber g :: ·) ih.2⟩

/-! ## Cutting -/

namespace ReadingStage

variable (f : Nat → Nat)

/-- One line read: the same entry is closed, and reading goes on at the same stage. -/
theorem step_renumber (stage : ReadingStage) (l : NumberedLine) :
    (stage.renumber f).step (l.renumber f) =
      ((stage.step l).1.map (RawEntry.renumber f), (stage.step l).2.renumber f) := by
  have hbody (e : RawEntry) : (e.renumber f).bodyLine (l.renumber f) = (e.bodyLine l).renumber f := by
    unfold RawEntry.bodyLine
    rw [NumberedLine.renumber]
    split
    · rfl
    · simp only [renumber, RawEntry.renumber, List.map_append, List.map_cons, List.map_nil, NumberedLine.renumber]
  cases stage with
  | prose =>
    simp only [renumber, step, NumberedLine.renumber]
    cases Line.header? l.text <;> rfl
  | headed e =>
    simp only [renumber, step, hbody]
    simp only [NumberedLine.renumber]
    cases Line.reference? l.text <;> rfl
  | body e =>
    simp only [renumber, step, hbody]
    rfl
  | block e =>
    simp only [renumber, step, NumberedLine.renumber]
    split <;> rfl

/-- **Lines with other numbers are cut into the same entries**, with the other numbers. -/
theorem entries?_renumber (stage : ReadingStage) (ls : List NumberedLine) :
    entries? (stage.renumber f) (ls.map (.renumber f)) = (entries? stage ls).map (List.map (RawEntry.renumber f)) := by
  induction ls generalizing stage with
  | nil => cases stage <;> rfl
  | cons l ls ih =>
    rw [List.map_cons, entries?, entries?, step_renumber]
    rcases stage.step l with ⟨_ | e, stage'⟩
    · exact ih stage'
    · simp only [Option.map_some, ih, Option.map_map, Function.comp_def, List.map_cons]

end ReadingStage

/-! ## Meaning -/

namespace RawEntry

variable {f : Nat → Nat} {g : Int → Int} {title : Text} {ls : List NumberedLine}

theorem readFlags_renumber (f : Nat → Nat) (title : Text) {fs : List Flag} (h : readFlags title ls = .ok fs) :
    readFlags title (ls.map (.renumber f)) = .ok fs := by
  induction ls generalizing fs with
  | nil => exact h
  | cons l ls ih =>
    rw [readFlags] at h
    simp only [List.map_cons, readFlags, NumberedLine.renumber]
    split at h
    · exact ih h
    · split at h
      · cases h
      · obtain ⟨fs', hfs, h⟩ := bind_eq_ok_iff.1 h
        cases h
        exact bind_eq_ok_iff.2 ⟨fs', ih hfs, rfl⟩

variable (agrees : ∀ n : Nat, g n = f n)

include agrees

theorem readTyping_renumber {l : NumberedLine} {command : Text} {args : Option Text} {o : Operation}
    (h : readTyping title l command args = .ok o) :
    readTyping title (l.renumber f) command args = .ok (o.renumber g) := by
  unfold readTyping at h ⊢
  dsimp only at h ⊢
  split at h
  · cases h
  · next hlength =>
    split at h
    · cases h
    · next hargs =>
      cases h
      rw [if_neg hlength, if_neg hargs, Operation.renumber, Option.map_some, agrees]
      rfl

theorem readCommand_renumber {l : NumberedLine} {command : Text} {args : Option Text} {o : Operation}
    (h : readCommand title l command args = .ok o) :
    readCommand title (l.renumber f) command args = .ok (o.renumber g) := by
  unfold readCommand at h ⊢
  split at h
  · cases h
  · next hzero =>
    split at h
    · next hargs =>
      cases h
      rw [if_neg hzero, if_pos hargs, Operation.renumber, Option.map_some, agrees]
      rfl
    · cases h

theorem readOperations_renumber {os : List Operation} (h : readOperations title ls = .ok os) :
    readOperations title (ls.map (.renumber f)) = .ok (os.map (.renumber g)) := by
  induction ls generalizing os with
  | nil =>
    cases h
    rfl
  | cons l ls ih =>
    rw [readOperations] at h
    have htext : (l.renumber f).text = l.text := rfl
    rw [List.map_cons, readOperations, htext]
    cases hop : Line.operation? l.text with
    | none =>
      rw [hop] at h
      exact ih h
    | some r =>
      obtain ⟨command, args⟩ := r
      rw [hop] at h
      obtain ⟨o, ho, h⟩ := bind_eq_ok_iff.1 h
      obtain ⟨os', hos, h⟩ := bind_eq_ok_iff.1 h
      cases h
      refine bind_eq_ok_iff.2 ⟨o.renumber g, ?_, bind_eq_ok_iff.2 ⟨os'.map (.renumber g), ih hos, rfl⟩⟩
      by_cases typing : Text.startsWith command Line.typingStart = true
      · rw [if_pos typing] at ho ⊢
        exact readTyping_renumber agrees ho
      · rw [if_neg typing] at ho ⊢
        exact readCommand_renumber agrees ho

/-- **An entry says the same with other line numbers**, on the other lines. -/
theorem read_renumber {e : RawEntry} {x : Entry} (h : e.read = .ok x) :
    (e.renumber f).read = .ok (x.renumber g) := by
  cases x with
  | initial s =>
    obtain ⟨flags, hflags, h⟩ := bind_eq_ok_iff.1 h
    cases hafter : e.comesAfter with
    | none =>
      rw [hafter] at h
      cases h
      have hafter' : (e.renumber f).comesAfter = none := hafter
      refine bind_eq_ok_iff.2 ⟨flags, readFlags_renumber f e.title hflags, ?_⟩
      rw [hafter', Entry.renumber, InitialState.renumber, Option.map_some, agrees]
      rfl
    | some target =>
      simp only [hafter] at h
      split at h
      · cases h
      · obtain ⟨operations, -, h⟩ := bind_eq_ok_iff.1 h
        cases h
  | transition tr =>
    obtain ⟨target, flags, operations, hafter, hflags, htyping, hoperations, rfl⟩ := read_eq_transition_iff.1 h
    refine read_eq_transition_iff.2 ⟨target, flags, operations.map (.renumber g), hafter,
      readFlags_renumber f e.title hflags, ?_, readOperations_renumber agrees hoperations, ?_⟩
    · intro l hl
      obtain ⟨m, hm, rfl⟩ := List.mem_map.1 hl
      exact htyping m hm
    · rw [Transition.renumber, Option.map_some, agrees]
      rfl

/-- The same for all entries of a source. -/
theorem mapM_read_renumber {es : List RawEntry} {xs : List Entry} (h : es.mapM RawEntry.read = .ok xs) :
    (es.map (.renumber f)).mapM RawEntry.read = .ok (xs.map (.renumber g)) := by
  induction es generalizing xs with
  | nil =>
    cases h
    rfl
  | cons e es ih =>
    obtain ⟨x, xs, hx, hxs, rfl⟩ := mapM_cons_eq_ok_iff.1 h
    exact mapM_cons_eq_ok_iff.2 ⟨_, _, read_renumber agrees hx, ih hxs, rfl⟩

end RawEntry

end CursorSpec
