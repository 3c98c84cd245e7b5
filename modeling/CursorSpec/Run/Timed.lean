/-
Steps of a test on a loop, with commands that take time.

A command changes the document when it begins, and then it may be busy for as long as it likes; what it answers in the
end may depend on the document of that moment. The members of a group wait for each other only at the end of their step.

Like the loop itself this is what the steps of a test stand for, and nothing is computed with it.
-/
import CursorSpec.Run.Loop
import CursorSpec.Run.Test

namespace CursorSpec

namespace Reply

/-- the value of a reply, once the document is the one that the editor has then -/
def valueIn (e : Editor) : Reply → Value
  | .value v => v
  | .textLater => .str e.state.text

end Reply

/-- a call of a group, with its place there and the time that its command takes -/
structure TimedCall where
  place : Nat
  delay : Option Int
  call : Call
  takes : Option Int

namespace TimedCall

/-- calls of commands on a loop that shares the editor -/
def conduct : Conduct TimedCall Editor (Except EditorFault Reply) (Except EditorFault Value) where
  delay := TimedCall.delay
  takes := TimedCall.takes
  start m _ e := e.start m.call
  stop _ _ r e := (e, r.map (Reply.valueIn e))

end TimedCall

namespace Editor

/-- calls by themselves, each to its end before the next, whether they fail or not -/
def executeAll (e : Editor) : List Call → Editor × List (Except EditorFault Value)
  | [] => (e, [])
  | c :: cs =>
    let (e, r) := e.execute c
    let (e, rs) := executeAll e cs
    (e, r :: rs)

/-- calls with the times that their commands take, by their places -/
def timed (calls : List (Option Int × Call)) (takes : Nat → Option Int) : List TimedCall :=
  calls.mapIdx fun i c => ⟨i, c.1, c.2, takes i⟩

/-- what may become of calls that are awaited together on a loop -/
def Awaits (e : Editor) (takes : Nat → Option Int) (calls : List (Option Int × Call)) (e' : Editor)
    (r : Except EditorFault Unit) : Prop :=
  ∃ l values, Loop.Runs TimedCall.conduct (Loop.opening TimedCall.conduct e (timed calls takes)) l ∧
    l.joined? = some values ∧ l.shared = e' ∧ (values.map fun _ => ()) = r

/-- what may become of a step on a loop -/
def Performs (names : CommandNames) (takes : Nat → Option Int) (e : Editor) (s : TestStep) (e' : Editor)
    (r : Except TestFault Unit) : Prop :=
  match s with
  | .configure f =>
    ∃ r', e.Awaits takes [(none, ⟨names.selectionBehavior, [f.argument]⟩)] e' r' ∧ r = r'.mapError .editor
  | .invoke i is =>
    match (i :: is).mapM fun j => j.call.map fun c => (j.delay?, c) with
    | .error f => e' = e ∧ r = .error (.evaluation f)
    | .ok calls => ∃ r', e.Awaits takes calls e' r' ∧ r = r'.mapError .editor

/-- what may become of steps, each performed on a loop when the one before it has succeeded; commands take times by their
step and their place in it -/
inductive PerformsAll (names : CommandNames) :
    (Nat → Nat → Option Int) → Editor → List TestStep → Editor → Except TestFault Unit → Prop
  | done {takes : Nat → Nat → Option Int} {e : Editor} : PerformsAll names takes e [] e (.ok ())
  | goesOn {takes : Nat → Nat → Option Int} {e e' e'' : Editor} {s : TestStep} {ss : List TestStep}
      {r : Except TestFault Unit} (succeeds : Performs names (takes 0) e s e' (.ok ()))
      (rest : PerformsAll names (fun k => takes (k + 1)) e' ss e'' r) : PerformsAll names takes e (s :: ss) e'' r
  | fails {takes : Nat → Nat → Option Int} {e e' : Editor} {s : TestStep} {ss : List TestStep} {f : TestFault}
      (fault : Performs names (takes 0) e s e' (.error f)) : PerformsAll names takes e (s :: ss) e' (.error f)

end Editor

end CursorSpec
