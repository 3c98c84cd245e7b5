/-
The steps of a transition: its flags, one step each, and then its operations.

A command begins a step, and the characters typed right after it join the step, each a little later than the one
before. A transition whose first operation types has no step for it to join.
-/
import CursorSpec.Problem
import CursorSpec.Settings.Basic
import CursorSpec.Text.Quoted

namespace CursorSpec

/-- a call of an editor command, started some milliseconds after its group -/
structure Invocation where
  command : Text
  /-- the arguments, as an expression -/
  args : Option Text
  delay : Int
  deriving DecidableEq, Inhabited

inductive TestStep where
  | configure (flag : Flag)
  /-- a command and what is typed while it runs, awaited together -/
  | invoke (first : Invocation) (typed : List Invocation)
  deriving DecidableEq, Inhabited

namespace TestStep

/-- the calls of a step that are awaited together -/
def invocations : TestStep → List Invocation
  | .configure _ => []
  | .invoke i is => i :: is

/-- whether several calls run together -/
def isGroup : TestStep → Bool
  | .configure _ => false
  | .invoke _ is => !is.isEmpty

end TestStep

namespace Operation

def isTyping (o : Operation) : Bool := o.kind = .typing

def fullCommand (names : CommandNames) (o : Operation) : Text :=
  if o.kind = .namespaced then names.scope ++ o.command else o.command

/-- the arguments of a call that types a character -/
def typingArguments (o : Operation) : Text :=
  "\x7b\"text\": " ++ (match o.text with
    | some t => Text.quote t
    | none => "null") ++ "\x7d"

/-- the call that begins a step -/
def invocation (names : CommandNames) (o : Operation) : Invocation := ⟨o.fullCommand names, o.args, 0⟩

/-- the call that types a character, as the `k`-th call of its step -/
def typingInvocation (names : CommandNames) (stagger : Int) (k : Nat) (o : Operation) : Invocation :=
  ⟨names.typing, some o.typingArguments, k * stagger⟩

end Operation

namespace Transition

def invokeSteps (names : CommandNames) (stagger : Int) (title : Text) :
    List Operation → Except Problem (List TestStep)
  | [] => .ok []
  | o :: os =>
    if o.isTyping then .error ⟨.nothingToJoin o.command title, o.line⟩
    else do
      let typed := (os.takeWhile Operation.isTyping).mapIdx fun k t => t.typingInvocation names stagger (k + 1)
      let steps ← invokeSteps names stagger title (os.dropWhile Operation.isTyping)
      return .invoke (o.invocation names) typed :: steps
termination_by os => os.length
decreasing_by exact Nat.lt_succ_of_le (List.dropWhile_suffix _).length_le

def steps (t : Transition) (names : CommandNames) (stagger : Int) : Except Problem (List TestStep) := do
  return t.flags.map .configure ++ (← invokeSteps names stagger t.title t.operations)

end Transition

end CursorSpec
