/-
The steps of a compiled test.

The steps of a transition are its flags and then its operations: the calls of its steps, put one after another, are
those of its operations in the order of the text (`callees_of_invokeSteps`). In each step the calls start in that order
too, none before the one it was written after, as long as characters are not typed into the past (`IsAscending`).
-/
import CursorSpec.Proofs.Suite.Loading
import Mathlib.Data.List.TakeWhile

namespace CursorSpec

namespace Operation

/-- the command that an operation calls, and the arguments as they are written -/
def callee (names : CommandNames) (o : Operation) : Text × Option Text :=
  if o.isTyping then (names.typing, some o.typingArguments) else (o.fullCommand names, o.args)

end Operation

namespace Invocation

/-- the command of a call, and the arguments as they are written -/
def callee (i : Invocation) : Text × Option Text := (i.command, i.args)

end Invocation

namespace TestStep

/-- whether the calls of a step start in the order in which they are written -/
def IsAscending (s : TestStep) : Prop := (0 :: s.invocations.map (·.delay)).Pairwise (· ≤ ·)

/-- whether a step calls commands, and sets no behavior by itself -/
def IsInvoking (s : TestStep) : Prop := ∃ i is, s = .invoke i is

end TestStep

namespace Transition

variable {names : CommandNames} {stagger : Int}

theorem callees_of_typed (names : CommandNames) (stagger : Int) {os : List Operation}
    (typing : ∀ o ∈ os, o.isTyping = true) :
    (os.mapIdx fun k t => t.typingInvocation names stagger (k + 1)).map Invocation.callee =
      os.map (Operation.callee names) := by
  refine List.ext_getElem (by simp) fun k hk hk' => ?_
  have hlt : k < os.length := by simpa using hk'
  have htyping := typing os[k] (List.getElem_mem hlt)
  simp [Operation.typingInvocation, Invocation.callee, Operation.callee, htyping]

theorem ascending_of_typed (names : CommandNames) (nonneg : 0 ≤ stagger) (os : List Operation) :
    (0 :: (os.mapIdx fun k t => t.typingInvocation names stagger (k + 1)).map (·.delay)).Pairwise (· ≤ ·) := by
  have hdelays : (os.mapIdx fun k t => t.typingInvocation names stagger (k + 1)).map (·.delay) =
      (List.range os.length).map fun k : Nat => ((k + 1 : Nat) : Int) * stagger :=
    List.ext_getElem (by simp) (by simp [Operation.typingInvocation])
  rw [hdelays, List.pairwise_cons, List.pairwise_map]
  constructor
  · intro x hx
    obtain ⟨k, -, rfl⟩ := List.mem_map.1 hx
    exact Int.mul_nonneg (Int.natCast_nonneg _) nonneg
  · refine List.pairwise_lt_range.imp fun hab => ?_
    exact Int.mul_le_mul_of_nonneg_right (by omega) nonneg

/-- **The calls of steps are those of the operations**, in their order. -/
theorem callees_of_invokeSteps {title : Text} {os : List Operation} {ss : List TestStep}
    (h : invokeSteps names stagger title os = .ok ss) :
    (ss.flatMap TestStep.invocations).map Invocation.callee = os.map (Operation.callee names) ∧
      ∀ s ∈ ss, s.IsInvoking ∧ (0 ≤ stagger → s.IsAscending) := by
  induction os using invokeSteps.induct names stagger generalizing ss with
  | case1 =>
    rw [invokeSteps] at h
    cases h
    exact ⟨rfl, nofun⟩
  | case2 o os typing =>
    rw [invokeSteps, if_pos typing] at h
    cases h
  | case3 o os typing ih =>
    rw [invokeSteps, if_neg typing] at h
    obtain ⟨steps, hsteps, h⟩ := bind_eq_ok_iff.1 h
    cases h
    obtain ⟨hcallees, hshape⟩ := ih hsteps
    have hjoin : (o.invocation names).callee = o.callee names := by
      rw [Operation.callee, if_neg typing]
      rfl
    have typed : ∀ x ∈ os.takeWhile Operation.isTyping, x.isTyping = true := fun x hx => List.mem_takeWhile_imp hx
    have htyped := callees_of_typed names stagger typed
    constructor
    · rw [List.flatMap_cons, TestStep.invocations, List.cons_append, List.map_cons, List.map_append, htyped, hcallees,
        hjoin, ← List.map_append, List.takeWhile_append_dropWhile, List.map_cons]
    · intro s hs
      rcases List.mem_cons.1 hs with rfl | hs
      · refine ⟨⟨_, _, rfl⟩, fun nonneg => ?_⟩
        have hdelays := ascending_of_typed names nonneg (os.takeWhile Operation.isTyping)
        refine List.pairwise_cons.2 ⟨fun x hx => ?_, hdelays⟩
        rcases List.mem_cons.1 hx with rfl | hx
        · exact le_rfl
        · exact (List.pairwise_cons.1 hdelays).1 x hx
      · exact hshape s hs

end Transition

namespace SuiteTest

/-- whether a test performs what a transition asks for: its flags, and then its operations -/
structure IsPerforming (t : SuiteTest) (names : CommandNames) (tr : Transition) : Prop where
  isOf : t.IsOf tr
  steps : ∃ invoking, t.steps = tr.flags.map .configure ++ invoking ∧ ∀ s ∈ invoking, s.IsInvoking
  callees : (t.steps.flatMap TestStep.invocations).map Invocation.callee = tr.operations.map (Operation.callee names)

variable {t : SuiteTest} {names : CommandNames} {stagger : Int} {tr : Transition}

theorem performing_of_steps (isOf : t.IsOf tr) (h : tr.steps names stagger = .ok t.steps) :
    t.IsPerforming names tr ∧ (0 ≤ stagger → ∀ s ∈ t.steps, s.IsAscending) := by
  obtain ⟨invoking, hinvoking, h⟩ := bind_eq_ok_iff.1 h
  obtain ⟨hcallees, hshape⟩ := Transition.callees_of_invokeSteps hinvoking
  have hsteps : t.steps = tr.flags.map .configure ++ invoking := (Except.ok.inj h).symm
  have hflags : (tr.flags.map TestStep.configure).flatMap TestStep.invocations = [] := by
    rw [List.flatMap_map, List.flatMap_eq_nil_iff]
    exact fun _ _ => rfl
  refine ⟨⟨isOf, ⟨invoking, hsteps, fun s hs => (hshape s hs).1⟩, ?_⟩, fun nonneg s hs => ?_⟩
  · rw [hsteps, List.flatMap_append, hflags, List.nil_append, hcallees]
  · rw [hsteps, List.mem_append] at hs
    rcases hs with hs | hs
    · obtain ⟨f, -, rfl⟩ := List.mem_map.1 hs
      exact List.pairwise_singleton _ _
    · exact (hshape s hs).2 nonneg

end SuiteTest

namespace Suite

/-- **A compiled test performs a transition of its text**: the flags and then the operations in the order in which they
are written, and in each group no call starts before the one it was written after. -/
theorem performing_of_compile {settings : Settings} {name text : Text} {s : Suite}
    (h : compile settings name text = .ok s) {t : SuiteTest} (ht : t ∈ s.tests) :
    (∃ spec r tr, Spec.read text = .ok spec ∧ spec.resolve = .ok r ∧ tr ∈ r.tests ∧
      t.IsPerforming settings.commands tr) ∧
      (0 ≤ settings.generator.typeStagger → ∀ step ∈ t.steps, step.IsAscending) := by
  obtain ⟨spec, hspec, h⟩ := bind_eq_ok_iff.1 h
  obtain ⟨r, hr, h⟩ := bind_eq_ok_iff.1 h
  obtain ⟨seeds, -, h⟩ := bind_eq_ok_iff.1 h
  obtain ⟨tests, htests, h⟩ := bind_eq_ok_iff.1 h
  cases h
  obtain ⟨i, hi⟩ := List.getElem?_of_mem ht
  obtain ⟨tr, htr, isOf, hsteps⟩ := getElem?_of_forall₂ (forall₂_of_testsOf htests) hi
  obtain ⟨hperforming, hascending⟩ := SuiteTest.performing_of_steps isOf hsteps
  exact ⟨⟨spec, r, tr, hspec, hr, List.mem_of_getElem? htr, hperforming⟩, hascending⟩

end Suite

end CursorSpec
