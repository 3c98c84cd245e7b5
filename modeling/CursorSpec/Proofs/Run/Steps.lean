/-
What the steps of a test depend on.

A call reads the document and the table of commands, never the history or the behaviors that were set before. So two
editors with one document and one table answer alike, and stay alike: `keeps_alike` says so for one call, and
`performAll_related` carries any such relation between two editors through the steps of a test. `performAll_alike` is
the case that matters to a suite: what earlier tests left behind besides the document makes no difference.
-/
import CursorSpec.Run.Test
import Mathlib.Tactic

namespace CursorSpec

/-! ## Calls -/

namespace Handler

/-- two answers of one call on two editors: the same fault, or the same reply and the same document -/
def Agree (a b : Editor) (x y : Except EditorFault (Editor × Reply)) : Prop :=
  (∃ f, x = .error f ∧ y = .error f) ∨
    ∃ s r v w, x = .ok ({ a with state := s, behaviors := v }, r) ∧ y = .ok ({ b with state := s, behaviors := w }, r)

variable {a b : Editor}

/-- Editors that get the same document, or the same fault in its place, agree. -/
theorem agree_of_document (x : Except EditorFault DocState) :
    Agree a b (do return ({ a with state := ← x }, .value .null))
      (do return ({ b with state := ← x }, .value .null)) := by
  cases x with
  | error f => exact Or.inl ⟨f, rfl, rfl⟩
  | ok s => exact Or.inr ⟨s, .value .null, a.behaviors, b.behaviors, rfl, rfl⟩

/-- Editors that first compute the same value, or fail alike, agree if they agree from there on. -/
theorem agree_bind {α : Type} (x : Except EditorFault α) {f g : α → Except EditorFault (Editor × Reply)}
    (h : ∀ v, Agree a b (f v) (g v)) : Agree a b (x >>= f) (x >>= g) := by
  cases x with
  | error e => exact Or.inl ⟨e, rfl, rfl⟩
  | ok v => exact h v

theorem agree_reply (h : a.state = b.state) (r : Reply) : Agree a b (.ok (a, r)) (.ok (b, r)) :=
  Or.inr ⟨b.state, r, a.behaviors, b.behaviors, by rw [← h], rfl⟩

theorem agree_error (f : EditorFault) : Agree a b (.error f) (.error f) := Or.inl ⟨f, rfl, rfl⟩

/-- **A call depends on the document alone.** -/
theorem call_agree (h : Handler) (args : List Value) (hab : a.state = b.state) :
    Agree a b (h.call a args) (h.call b args) := by
  cases h with
  | type =>
    simp only [call, hab]
    exact agree_bind _ fun v => agree_bind _ fun v => agree_of_document _
  | lineStart => simp only [call, hab]; exact agree_of_document _
  | lineEnd => simp only [call, hab]; exact agree_of_document _
  | right => simp only [call, hab]; exact agree_bind _ fun v => agree_of_document _
  | insertBefore => simp only [call, hab]; exact agree_of_document _
  | setBehavior =>
    refine agree_bind _ fun v => agree_bind _ fun mode => agree_bind _ fun behavior => ?_
    split
    · exact Or.inr ⟨b.state, .value .null, _, _, by rw [← hab]; rfl, rfl⟩
    · exact agree_error _
  | insertMark => simp only [call, hab]; exact agree_of_document _
  | insertText => simp only [call, hab]; exact agree_bind _ fun v => agree_of_document _
  | noop => exact agree_reply hab _
  | fail => exact agree_error _
  | waitInput =>
    simp only [call]
    split
    · exact agree_reply hab _
    · exact agree_error _
  | first => exact agree_reply hab _
  | count => simp only [call, hab]; exact agree_of_document _

end Handler

/-! ## Steps -/

namespace Editor

/-- whether two editors answer every call alike and are related again afterwards -/
def Keeps (R : Editor → Editor → Prop) : Prop :=
  ∀ a b c, R a b → (a.start c).2 = (b.start c).2 ∧ R (a.start c).1 (b.start c).1

variable {R : Editor → Editor → Prop} {a b : Editor}

theorem startAll_cons (e : Editor) (i : Nat) (c : Call) (cs : List (Nat × Call)) :
    e.startAll ((i, c) :: cs) =
      (((e.start c).1.startAll cs).1, (i, (e.start c).2) :: ((e.start c).1.startAll cs).2) :=
  rfl

theorem startAll_related (keeps : Keeps R) (hab : R a b) (cs : List (Nat × Call)) :
    (a.startAll cs).2 = (b.startAll cs).2 ∧ R (a.startAll cs).1 (b.startAll cs).1 := by
  induction cs generalizing a b with
  | nil => exact ⟨rfl, hab⟩
  | cons ic cs ih =>
    obtain ⟨i, c⟩ := ic
    obtain ⟨hr, hR⟩ := keeps a b c hab
    obtain ⟨hrs, hRs⟩ := ih hR
    rw [startAll_cons, startAll_cons, hr, hrs]
    exact ⟨rfl, hRs⟩

theorem awaitAll_related (keeps : Keeps R) (hab : R a b) (calls : List (Option Int × Call)) :
    (a.awaitAll calls).2 = (b.awaitAll calls).2 ∧ R (a.awaitAll calls).1 (b.awaitAll calls).1 := by
  obtain ⟨hrs, hR⟩ := startAll_related keeps hab
    ((Group.starts (calls.mapIdx fun i c => (c.1, (i, c.2)))).map (·.act))
  refine ⟨?_, hR⟩
  simp only [awaitAll, hrs]

theorem perform_related (keeps : Keeps R) (hab : R a b) (names : CommandNames) (s : TestStep) :
    (a.perform names s).2 = (b.perform names s).2 ∧ R (a.perform names s).1 (b.perform names s).1 := by
  cases s with
  | configure f =>
    obtain ⟨hr, hR⟩ := keeps a b ⟨names.selectionBehavior, [f.argument]⟩ hab
    exact ⟨by simp only [perform, hr], hR⟩
  | invoke i is =>
    simp only [perform]
    split
    · exact ⟨rfl, hab⟩
    · next calls _ =>
      obtain ⟨hr, hR⟩ := awaitAll_related keeps hab calls
      exact ⟨by simp only [hr], hR⟩

/-- the steps after one that succeeded -/
theorem performAll_cons (names : CommandNames) (e : Editor) (s : TestStep) (ss : List TestStep) :
    e.performAll names (s :: ss) = match (e.perform names s).2 with
      | .ok _ => (e.perform names s).1.performAll names ss
      | .error f => ((e.perform names s).1, .error f) := by
  rw [performAll]
  split
  · next h => rw [h]
  · next h => rw [h]

/-- **Steps keep every relation that calls keep.** -/
theorem performAll_related (keeps : Keeps R) (hab : R a b) (names : CommandNames) (ss : List TestStep) :
    (a.performAll names ss).2 = (b.performAll names ss).2 ∧
      R (a.performAll names ss).1 (b.performAll names ss).1 := by
  induction ss generalizing a b with
  | nil => exact ⟨rfl, hab⟩
  | cons s ss ih =>
    obtain ⟨hr, hR⟩ := perform_related keeps hab names s
    rw [performAll_cons, performAll_cons, ← hr]
    split
    · exact ih hR
    · exact ⟨rfl, hR⟩

/-! ## What steps depend on -/

/-- editors with one document and the same commands, whose histories have gone on alike from `p` and from `q` -/
structure Alike (commands : List (Text × Handler)) (p q : List Call) (a b : Editor) : Prop where
  state : a.state = b.state
  left : a.commands = commands
  right : b.commands = commands
  calls : ∃ cs, a.history = p ++ cs ∧ b.history = q ++ cs

theorem keeps_alike (commands : List (Text × Handler)) (p q : List Call) : Keeps (Alike commands p q) := by
  intro a b c h
  obtain ⟨hstate, hleft, hright, cs, hp, hq⟩ := h
  have hhandler : a.handler? c.command = b.handler? c.command := by rw [handler?, handler?, hleft, hright]
  simp only [start, hhandler]
  cases b.handler? c.command with
  | none => exact ⟨rfl, hstate, hleft, hright, cs, hp, hq⟩
  | some h =>
    have hcalls : a.history ++ [c] = p ++ (cs ++ [c]) ∧ b.history ++ [c] = q ++ (cs ++ [c]) := by
      rw [hp, hq, List.append_assoc, List.append_assoc]
      exact ⟨rfl, rfl⟩
    rcases h.call_agree c.args (a := { a with history := a.history ++ [c] })
      (b := { b with history := b.history ++ [c] }) hstate with ⟨f, ha, hb⟩ | ⟨s, r, v, w, ha, hb⟩
    · simp only [ha, hb]
      exact ⟨trivial, hstate, hleft, hright, cs ++ [c], hcalls⟩
    · simp only [ha, hb]
      exact ⟨trivial, rfl, hleft, hright, cs ++ [c], hcalls⟩

/-- **Steps depend on the document and the commands alone.** -/
theorem performAll_alike (hstate : a.state = b.state) (hcommands : a.commands = b.commands) (names : CommandNames)
    (ss : List TestStep) :
    (a.performAll names ss).2 = (b.performAll names ss).2 ∧
      Alike b.commands a.history b.history (a.performAll names ss).1 (b.performAll names ss).1 :=
  performAll_related (keeps_alike _ _ _) ⟨hstate, hcommands, rfl, [], by simp, by simp⟩ names ss

theorem commands_performAll (names : CommandNames) (e : Editor) (ss : List TestStep) :
    (e.performAll names ss).1.commands = e.commands :=
  (performAll_alike rfl rfl names ss).2.left

/-! ## How steps fail -/

/-- a fault of a call or of its arguments -/
def IsStepFault (f : TestFault) : Prop := (∃ x, f = .evaluation x) ∨ ∃ x, f = .editor x

theorem isStepFault_of_mapError {x : Except EditorFault Unit} {f : TestFault}
    (h : x.mapError TestFault.editor = .error f) : IsStepFault f := by
  cases x with
  | ok u => cases h
  | error e => cases h; exact Or.inr ⟨e, rfl⟩

theorem isStepFault_of_perform {names : CommandNames} {e : Editor} {s : TestStep} {f : TestFault}
    (h : (e.perform names s).2 = .error f) : IsStepFault f := by
  cases s with
  | configure g => exact isStepFault_of_mapError h
  | invoke i is =>
    simp only [perform] at h
    split at h
    · next x _ => cases h; exact Or.inl ⟨x, rfl⟩
    · exact isStepFault_of_mapError h

theorem isStepFault_of_performAll {names : CommandNames} {e : Editor} {ss : List TestStep} {f : TestFault}
    (h : (e.performAll names ss).2 = .error f) : IsStepFault f := by
  induction ss generalizing e with
  | nil => cases h
  | cons s ss ih =>
    rw [performAll_cons] at h
    split at h
    · exact ih h
    · next hs => cases h; exact isStepFault_of_perform hs

end Editor

end CursorSpec
