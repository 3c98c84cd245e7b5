/-
Operations are cut into groups.

A group is a command and what is typed right behind it, as far as that goes (`Operation.AreGroups`). The steps of a
transition are its flags, one each, and then its groups: the step of a group has one call for each of its operations,
each later than the one before by the same time (`TestStep.Runs`). What a call types is read back from its arguments,
whatever it is. `steps_partition`: only operations that begin by typing are no groups, and that is the one thing which
a transition can fail at.
-/
import CursorSpec.Proofs.Expr.Mapping
import CursorSpec.Proofs.Suite.Checking
import CursorSpec.Proofs.Suite.Steps
import CursorSpec.Run.Test
import Mathlib.Data.List.Forall2

namespace CursorSpec

/-! ## Calls -/

/-- What a mapping of one text to another stands for. -/
theorem Invocation.values_of_mapping {i : Invocation} {k v : Text} (h : i.args = some (Expr.mappingText k v)) :
    i.values = .ok [.dict [(.str k, .str v)]] := by
  simp only [values, h, Arguments.read?_mapping]
  rfl

namespace Operation

/-- whether a call does what an operation asks for, in a place of its group: it starts later by as many times the
stagger; a command has its full name and keeps its arguments, and a text is typed by the command for it -/
structure IsRunBy (names : CommandNames) (stagger : Int) (k : Nat) (o : Operation) (i : Invocation) : Prop where
  delay : i.delay = k * stagger
  command : o.isTyping = false → i.command = if o.kind = .namespaced then names.scope ++ o.command else o.command
  args : o.isTyping = false → i.args = o.args
  typing : o.isTyping = true → i.command = names.typing
  typed : o.isTyping = true → ∀ t, o.text = some t → i.values = .ok [.dict [(.str "text", .str t)]]

theorem typingArguments_of_text {o : Operation} {t : Text} (h : o.text = some t) :
    o.typingArguments = Expr.mappingText "text" t := by
  have hopening : "\x7b\"text\": ".toList = '\x7b' :: (Text.quote "text" ++ [':', ' ']) := by decide +kernel
  have hclosing : "\x7d".toList = ['\x7d'] := by decide +kernel
  unfold typingArguments Expr.mappingText
  rw [h, hopening, hclosing]
  simp only [List.cons_append, List.append_assoc, List.nil_append]

variable (names : CommandNames) (stagger : Int) {o : Operation}

theorem isRunBy_invocation (command : o.isTyping = false) : o.IsRunBy names stagger 0 (o.invocation names) where
  delay := (Int.zero_mul stagger).symm
  command _ := rfl
  args _ := rfl
  typing h := nomatch command.symm.trans h
  typed h := nomatch command.symm.trans h

theorem isRunBy_typingInvocation (types : o.isTyping = true) (k : Nat) :
    o.IsRunBy names stagger k (o.typingInvocation names stagger k) where
  delay := rfl
  command h := nomatch types.symm.trans h
  args h := nomatch types.symm.trans h
  typing _ := rfl
  typed _ t ht := by
    exact Invocation.values_of_mapping (congrArg some (typingArguments_of_text ht))

end Operation

/-! ## Groups -/

/-- operations that run together: a command, and what is typed behind it -/
abbrev OperationGroup := Operation × List Operation

namespace OperationGroup

def operations (g : OperationGroup) : List Operation := g.1 :: g.2

end OperationGroup

namespace Operation

/-- whether operations are cut into groups, each of them as long as can be -/
inductive AreGroups : List Operation → List OperationGroup → Prop where
  | nil : AreGroups [] []
  | cons {o : Operation} {typed rest : List Operation} {groups : List OperationGroup} (command : o.isTyping = false)
    (types : ∀ p ∈ typed, p.isTyping = true) (maximal : ∀ p ∈ rest.head?, p.isTyping = false)
    (more : AreGroups rest groups) : AreGroups (o :: (typed ++ rest)) ((o, typed) :: groups)

/-- **Groups leave out nothing**, and keep the order. -/
theorem AreGroups.flatMap_operations {os : List Operation} {groups : List OperationGroup} (h : AreGroups os groups) :
    groups.flatMap OperationGroup.operations = os := by
  induction h with
  | nil => rfl
  | cons _ _ _ _ ih => rw [List.flatMap_cons, ih]; rfl

end Operation

namespace TestStep

/-- whether a step runs a group: it has one call for each operation, in their order -/
structure Runs (names : CommandNames) (stagger : Int) (g : OperationGroup) (s : TestStep) : Prop where
  invoking : s.IsInvoking
  length : s.invocations.length = g.operations.length
  members : ∀ (k : Nat) (o : Operation) (i : Invocation), g.operations[k]? = some o → s.invocations[k]? = some i →
    o.IsRunBy names stagger k i

variable {names : CommandNames} {stagger : Int}

theorem runs_invoke {o : Operation} {typed : List Operation} (command : o.isTyping = false)
    (types : ∀ p ∈ typed, p.isTyping = true) :
    (TestStep.invoke (o.invocation names)
      (typed.mapIdx fun k t => t.typingInvocation names stagger (k + 1))).Runs names stagger (o, typed) := by
  refine ⟨⟨_, _, rfl⟩, ?_, ?_⟩
  · rw [invocations, OperationGroup.operations, List.length_cons, List.length_cons, List.length_mapIdx]
  · intro k p i hp hi
    cases k with
    | zero =>
      cases hp
      cases hi
      exact Operation.isRunBy_invocation names stagger command
    | succ k =>
      have hp : typed[k]? = some p := hp
      have hi : (typed.mapIdx fun k t => t.typingInvocation names stagger (k + 1))[k]? = some i := hi
      rw [List.getElem?_mapIdx, hp] at hi
      cases hi
      exact Operation.isRunBy_typingInvocation names stagger (types p (List.mem_of_getElem? hp)) (k + 1)

theorem Runs.forall₂ {g : OperationGroup} {s : TestStep} (h : s.Runs names stagger g) :
    List.Forall₂ (fun o i => ∃ k, o.IsRunBy names stagger k i) g.operations s.invocations := by
  refine List.forall₂_iff_get.2 ⟨h.length.symm, fun k hk hk' => ⟨k, h.members k _ _ ?_ ?_⟩⟩
  · exact List.getElem?_eq_getElem hk
  · exact List.getElem?_eq_getElem hk'

/-- The calls of steps, one after another, are those of their groups. -/
theorem forall₂_flatMap {groups : List OperationGroup} {ss : List TestStep}
    (h : List.Forall₂ (Runs names stagger) groups ss) :
    List.Forall₂ (fun o i => ∃ k, o.IsRunBy names stagger k i) (groups.flatMap OperationGroup.operations)
      (ss.flatMap invocations) := by
  induction h with
  | nil => exact .nil
  | cons h _ ih =>
    rw [List.flatMap_cons, List.flatMap_cons]
    exact List.rel_append h.forall₂ ih

end TestStep

namespace Transition

variable {names : CommandNames} {stagger : Int}

/-- **The steps of operations are those of their groups.** -/
theorem exists_groups {title : Text} {os : List Operation} {ss : List TestStep}
    (h : invokeSteps names stagger title os = .ok ss) :
    ∃ groups, Operation.AreGroups os groups ∧ List.Forall₂ (TestStep.Runs names stagger) groups ss := by
  induction os using invokeSteps.induct names stagger generalizing ss with
  | case1 =>
    rw [invokeSteps] at h
    cases h
    exact ⟨[], .nil, .nil⟩
  | case2 o os typing =>
    rw [invokeSteps, if_pos typing] at h
    cases h
  | case3 o os typing ih =>
    rw [invokeSteps, if_neg typing] at h
    obtain ⟨steps, hsteps, h⟩ := bind_eq_ok_iff.1 h
    cases h
    obtain ⟨groups, hgroups, hruns⟩ := ih hsteps
    have command : o.isTyping = false := Bool.eq_false_iff.2 typing
    have types : ∀ p ∈ os.takeWhile Operation.isTyping, p.isTyping = true := fun p hp => List.mem_takeWhile_imp hp
    refine ⟨(o, os.takeWhile Operation.isTyping) :: groups, ?_, .cons (TestStep.runs_invoke command types) hruns⟩
    have hcons := hgroups.cons command types fun p hp => not_isTyping_of_head?_dropWhile hp
    rwa [List.takeWhile_append_dropWhile] at hcons

/-- **Sequencing partitions the operations.** It fails exactly if the first operation types, and with the line of that
operation. Otherwise the steps are the flags, one each, and then one step for each group of operations. The groups are
the operations in their order, each group a command with all that is typed behind it, and its step runs it: the calls
are one for each operation, they start later by the stagger one after another, commands keep their arguments and get
their scope where they are written without it, and what is typed is read back from the arguments. -/
theorem steps_partition (t : Transition) (names : CommandNames) (stagger : Int) :
    (∀ p, t.steps names stagger = .error p ↔
      ∃ o, t.operations.head? = some o ∧ o.isTyping = true ∧ p = ⟨.nothingToJoin o.command t.title, o.line⟩) ∧
      (t.BeginsWithCommand → ∃ groups invoking,
        t.steps names stagger = .ok (t.flags.map .configure ++ invoking) ∧ Operation.AreGroups t.operations groups ∧
          groups.flatMap OperationGroup.operations = t.operations ∧
          List.Forall₂ (TestStep.Runs names stagger) groups invoking ∧
          List.Forall₂ (fun o i => ∃ k, o.IsRunBy names stagger k i) t.operations
            (invoking.flatMap TestStep.invocations)) := by
  refine ⟨fun p => steps_eq_error_iff, fun begins => ?_⟩
  obtain ⟨invoking, hinvoking⟩ : ∃ ss, invokeSteps names stagger t.title t.operations = .ok ss :=
    exists_invokeSteps begins
  obtain ⟨groups, hgroups, hruns⟩ := exists_groups hinvoking
  have hoperations := hgroups.flatMap_operations
  refine ⟨groups, invoking, ?_, hgroups, hoperations, hruns, hoperations ▸ TestStep.forall₂_flatMap hruns⟩
  rw [steps, hinvoking]
  rfl

/-- a transition with a flag, that moves, types a quote and a backslash, and selects -/
def quoting : Transition where
  title := "B"
  comesAfter := "A"
  operations := [⟨.command, "editor.move", some "1", none, some 4⟩, ⟨.typing, "type:\"", none, some "\"", some 5⟩,
    ⟨.typing, "type:\\", none, some "\\", some 6⟩, ⟨.namespaced, ".select", none, none, some 7⟩]
  flags := [⟨.insert, .caret⟩]
  content := "|"
  line := some 1

/-- the same without its first operation, so that it begins by typing -/
def quotingOn : Transition := { quoting with operations := quoting.operations.tail }

/-- The one is cut into groups, and the other fails at the line of the first quote. -/
theorem steps_partition_quoting :
    (∃ groups invoking, quoting.steps .default 20 = .ok ([.configure ⟨.insert, .caret⟩] ++ invoking) ∧
      Operation.AreGroups quoting.operations groups ∧ List.Forall₂ (TestStep.Runs .default 20) groups invoking) ∧
      quotingOn.steps .default 20 = .error ⟨.nothingToJoin "type:\"" "B", some 5⟩ := by
  constructor
  · have begins : quoting.BeginsWithCommand := by
      rintro o ⟨⟩
      rfl
    obtain ⟨groups, invoking, hsteps, hgroups, -, hruns, -⟩ := (steps_partition quoting .default 20).2 begins
    exact ⟨groups, invoking, hsteps, hgroups, hruns⟩
  · exact ((steps_partition quotingOn .default 20).1 _).2 ⟨_, rfl, rfl, rfl⟩

end Transition

end CursorSpec
