/-
Which problems a spec can have.

Compiling ends with a suite or with a problem of a documented kind (`IsDocumented`), with one exception: the problem of
an operation whose arguments have a zero character is of none of these kinds. `fails_documented_or_at_zero` says that
this is the only exception, and exactly which texts run into it; a text without that character never does.
-/
import CursorSpec.Proofs.Spec.Zero
import CursorSpec.Suite.Basic

namespace CursorSpec

/-- the kinds of problems that compiling may end with, by its documentation -/
def ProblemKind.documented : List ProblemKind :=
  [.parse, .marker, .duplicateTitle, .unknownDependency, .unrecognizedFlag, .invalidOperation]

namespace Problem

def IsDocumented (p : Problem) : Prop := p.cause.kind ∈ ProblemKind.documented

instance (p : Problem) : Decidable p.IsDocumented :=
  inferInstanceAs (Decidable (p.cause.kind ∈ ProblemKind.documented))

theorem isDocumented_iff {p : Problem} : p.IsDocumented ↔ p.cause.kind ≠ .internal := by
  rw [IsDocumented]
  cases p.cause.kind <;> decide

end Problem

/-! ## Behind the reading -/

namespace Spec

variable {p : Problem}

theorem documented_of_declareInitial {known : List Text} {ss : List InitialState}
    (h : declareInitial known ss = .error p) : p.IsDocumented := by
  induction ss generalizing known with
  | nil => cases h
  | cons s ss ih =>
    rw [declareInitial] at h
    split at h
    · cases h
      exact Problem.isDocumented_iff.2 nofun
    · exact ih h

theorem documented_of_declareTransitions {titles known : List Text} {ts : List Transition}
    (h : declareTransitions titles known ts = .error p) : p.IsDocumented := by
  induction ts generalizing known with
  | nil => cases h
  | cons t ts ih =>
    rw [declareTransitions] at h
    split at h
    · cases h
      exact Problem.isDocumented_iff.2 nofun
    · split at h
      · cases h
        exact Problem.isDocumented_iff.2 nofun
      · exact ih h

theorem documented_of_resolve {s : Spec} (h : s.resolve = .error p) : p.IsDocumented := by
  rcases bind_eq_error_iff.1 h with h | ⟨known, -, h⟩
  · exact documented_of_declareInitial h
  · rcases bind_eq_error_iff.1 h with h | ⟨known', -, h⟩
    · exact documented_of_declareTransitions h
    · cases h

end Spec

theorem Entry.documented_of_document {e : Entry} {p : Problem} (h : e.document = .error p) : p.IsDocumented := by
  unfold document at h
  cases hdecode : Document.decode e.content with
  | error m =>
    rw [hdecode] at h
    cases h
    exact Problem.isDocumented_iff.2 nofun
  | ok d =>
    rw [hdecode] at h
    cases h

namespace Transition

variable {names : CommandNames} {stagger : Int} {p : Problem}

theorem documented_of_invokeSteps {title : Text} {os : List Operation}
    (h : invokeSteps names stagger title os = .error p) : p.IsDocumented := by
  induction os using invokeSteps.induct names stagger with
  | case1 =>
    rw [invokeSteps] at h
    cases h
  | case2 o os typing =>
    rw [invokeSteps, if_pos typing] at h
    cases h
    exact Problem.isDocumented_iff.2 nofun
  | case3 o os typing ih =>
    rw [invokeSteps, if_neg typing] at h
    rcases bind_eq_error_iff.1 h with h | ⟨steps, -, h⟩
    · exact ih h
    · cases h

theorem documented_of_steps {t : Transition} (h : t.steps names stagger = .error p) : p.IsDocumented := by
  rcases bind_eq_error_iff.1 h with h | ⟨steps, -, h⟩
  · exact documented_of_invokeSteps h
  · cases h

end Transition

namespace Suite

variable {p : Problem}

theorem documented_of_seedsOf {ss : List InitialState} (h : seedsOf ss = .error p) : p.IsDocumented := by
  induction ss with
  | nil => cases h
  | cons s ss ih =>
    rw [seedsOf] at h
    rcases bind_eq_error_iff.1 h with h | ⟨d, -, h⟩
    · exact Entry.documented_of_document h
    · rcases bind_eq_error_iff.1 h with h | ⟨seeds, -, h⟩
      · exact ih h
      · cases h

theorem documented_of_testsOf {settings : Settings} {used : List Text} {ts : List Transition}
    (h : testsOf settings used ts = .error p) : p.IsDocumented := by
  induction ts generalizing used with
  | nil => cases h
  | cons t ts ih =>
    rw [testsOf] at h
    rcases bind_eq_error_iff.1 h with h | ⟨steps, -, h⟩
    · exact Transition.documented_of_steps h
    · rcases bind_eq_error_iff.1 h with h | ⟨d, -, h⟩
      · exact Entry.documented_of_document h
      · rcases bind_eq_error_iff.1 h with h | ⟨tests, -, h⟩
        · exact ih h
        · cases h

theorem documented_of_ofResolved {settings : Settings} {name : Text} {r : ResolvedSpec}
    (h : ofResolved settings name r = .error p) : p.IsDocumented := by
  rcases bind_eq_error_iff.1 h with h | ⟨seeds, -, h⟩
  · exact documented_of_seedsOf h
  · rcases bind_eq_error_iff.1 h with h | ⟨tests, -, h⟩
    · exact documented_of_testsOf h
    · cases h

/-! ## Compiling -/

/-- Nothing behind the reading has a problem of an undocumented kind. -/
theorem compile_eq_internal_iff {settings : Settings} {name text : Text} :
    compile settings name text = .error p ∧ p.cause.kind = .internal ↔
      Spec.read text = .error p ∧ p.cause.kind = .internal := by
  constructor
  · rintro ⟨h, hkind⟩
    rcases bind_eq_error_iff.1 h with h | ⟨spec, -, h⟩
    · exact ⟨h, hkind⟩
    · rcases bind_eq_error_iff.1 h with h | ⟨r, -, h⟩
      · exact absurd hkind (Problem.isDocumented_iff.1 (Spec.documented_of_resolve h))
      · exact absurd hkind (Problem.isDocumented_iff.1 (documented_of_ofResolved h))
  · rintro ⟨h, hkind⟩
    exact ⟨bind_eq_error_iff.2 (Or.inl h), hkind⟩

/-- **Compiling ends with a suite or a documented problem, unless it stops at a zero character.** A text without that
character never stops so. One that does has it among the arguments of an operation, and nothing wrong before it; the
problem names the operation, and it is of none of the documented kinds. -/
theorem fails_documented_or_at_zero (settings : Settings) (name text : Text) :
    (Text.zero ∉ text → ∀ p, compile settings name text = .error p → p.IsDocumented) ∧
      (∀ p, compile settings name text = .error p → p.IsDocumented ∨
        ∃ e l command args, Spec.StopsAtZero text e l command args ∧
          p = RawEntry.problemAt l (.nulArguments command e.title)) ∧
      (∀ e l command args, Spec.StopsAtZero text e l command args →
        compile settings name text = .error (RawEntry.problemAt l (.nulArguments command e.title)) ∧
          ¬(RawEntry.problemAt l (.nulArguments command e.title)).IsDocumented) := by
  have hcases : ∀ p, compile settings name text = .error p → p.IsDocumented ∨
      ∃ e l command args, Spec.StopsAtZero text e l command args ∧
        p = RawEntry.problemAt l (.nulArguments command e.title) := by
    intro p hp
    by_cases hkind : p.cause.kind = .internal
    · exact Or.inr (Spec.read_eq_internal_iff.1 (compile_eq_internal_iff.1 ⟨hp, hkind⟩))
    · exact Or.inl (Problem.isDocumented_iff.2 hkind)
  refine ⟨fun hzero p hp => ?_, hcases, fun e l command args stops => ?_⟩
  · rcases hcases p hp with h | ⟨e, l, command, args, stops, -⟩
    · exact h
    · exact absurd stops.zero_mem hzero
  · obtain ⟨hcompile, hkind⟩ :=
      compile_eq_internal_iff.2 (Spec.read_eq_internal_iff.2 ⟨e, l, command, args, stops, rfl⟩)
    exact ⟨hcompile, fun h => Problem.isDocumented_iff.1 h hkind⟩

/-- a spec that calls a command with some arguments -/
def noopText (args : Text) : Text :=
  let fence : Text := "\x60\x60\x60"
  Text.unlines ["# A", fence, "|a", fence, "# B", "[x](#A)", "- dance.noop " ++ args, fence, "|a", fence, []]

theorem compile_noop_zero :
    compile .default "s" (noopText [Text.zero]) = .error ⟨.nulArguments "dance.noop" "B", some 7⟩ := by decide +kernel

/-- Arguments of a zero character are stopped at; others may be wrong, and that is a documented problem. -/
theorem fails_documented_or_at_zero_noop :
    (∃ e l command args, Spec.StopsAtZero (noopText [Text.zero]) e l command args ∧
      compile .default "s" (noopText [Text.zero]) = .error (RawEntry.problemAt l (.nulArguments command e.title))) ∧
      (⟨.badArguments "dance.noop" "B", some 7⟩ : Problem).IsDocumented := by
  constructor
  · rcases (fails_documented_or_at_zero .default "s" (noopText [Text.zero])).2.1 _ compile_noop_zero with
      h | ⟨e, l, command, args, stops, -⟩
    · exact absurd h (by decide)
    · exact ⟨e, l, command, args, stops, ((fails_documented_or_at_zero _ _ _).2.2 e l command args stops).1⟩
  · exact (fails_documented_or_at_zero .default "s" (noopText "(")).1 (by decide +kernel) _ (by decide +kernel)

/-- What compiling fails with is not always documented. -/
theorem not_always_documented :
    ¬∀ settings name text p, compile settings name text = .error p → p.IsDocumented := by
  intro h
  exact absurd (h .default "s" (noopText [Text.zero]) _ compile_noop_zero) (by decide)

end Suite

end CursorSpec
