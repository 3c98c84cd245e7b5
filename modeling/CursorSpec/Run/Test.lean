/-
Running one test of a suite.

A test waits for the entry it comes after, puts that entry's document into the editor, performs its steps and compares
the document. Whatever happens it settles its own node, and no other one: `runTest` has one exit for each way a test
can end. Only a wait that never ends leaves the node pending.
-/
import CursorSpec.Editor.Basic
import CursorSpec.Graph.Waiting
import CursorSpec.Run.Group
import CursorSpec.Suite.Basic

namespace CursorSpec

/-- what a test shares with the other tests of its suite -/
structure Session where
  graph : Graph
  editor : Editor
  deriving DecidableEq, Inhabited

/-- why a test does not pass -/
inductive TestFault where
  /-- the entry it comes after has no document -/
  | skipped
  /-- the wait for that entry never ends -/
  | stalled
  | graph (f : GraphFault)
  | evaluation (f : Expr.Fault)
  | editor (f : EditorFault)
  | mismatch (message : Text)
  deriving DecidableEq, Inhabited

inductive Outcome where
  | passed
  | failed
  | skipped
  | error
  deriving DecidableEq, Inhabited

namespace Outcome

def text : Outcome → Text
  | .passed => "passed"
  | .failed => "failed"
  | .skipped => "skipped"
  | .error => "error"

def of : Except TestFault Unit → Outcome
  | .ok _ => .passed
  | .error .skipped => .skipped
  | .error (.mismatch _) => .failed
  | .error _ => .error

end Outcome

/-! ## Steps -/

namespace Invocation

def values (i : Invocation) : Except Expr.Fault (List Value) :=
  match i.args with
  | none => .ok []
  | some t =>
    match Arguments.read? t with
    | some a => a.values
    | none => .error .name

/-- a call with its arguments evaluated -/
def call (i : Invocation) : Except Expr.Fault Call := i.values.map fun vs => ⟨i.command, vs⟩

/-- how much later than its group a call starts, if it does -/
def delay? (i : Invocation) : Option Int := if i.delay = 0 then none else some i.delay

end Invocation

namespace Flag

/-- the argument of the command that sets a behavior -/
def argument (f : Flag) : Value := .dict [(.str "mode", .str f.mode.text), (.str "value", .str f.behavior.text)]

end Flag

namespace Editor

/-- calls begun in order, each with its place in its group; the answers are kept with the places -/
def startAll (e : Editor) : List (Nat × Call) → Editor × List (Nat × Except EditorFault Reply)
  | [] => (e, [])
  | (i, c) :: cs =>
    let (e, r) := e.start c
    let (e, rs) := startAll e cs
    (e, (i, r) :: rs)

/-- calls awaited together -/
def awaitAll (e : Editor) (calls : List (Option Int × Call)) : Editor × Except EditorFault Unit :=
  let events := Group.starts (calls.mapIdx fun i c => (c.1, (i, c.2)))
  let (e, rs) := e.startAll (events.map (·.act))
  let results := (sortBy (fun a b => decide (a.1 ≤ b.1)) rs).map (·.2)
  (e, (Group.joined results).map fun _ => ())

/-- a step performed; no call begins before all arguments are evaluated -/
def perform (names : CommandNames) (e : Editor) (s : TestStep) : Editor × Except TestFault Unit :=
  match s with
  | .configure f =>
    let (e, r) := e.start ⟨names.selectionBehavior, [f.argument]⟩
    (e, (r.map fun _ => ()).mapError .editor)
  | .invoke i is =>
    match (i :: is).mapM fun j => j.call.map fun c => (j.delay?, c) with
    | .error f => (e, .error (.evaluation f))
    | .ok calls =>
      let (e, r) := e.awaitAll calls
      (e, r.mapError .editor)

/-- steps performed until one fails -/
def performAll (names : CommandNames) (e : Editor) : List TestStep → Editor × Except TestFault Unit
  | [] => (e, .ok ())
  | s :: ss =>
    match e.perform names s with
    | (e, .ok _) => performAll names e ss
    | (e, .error f) => (e, .error f)

end Editor

/-! ## Tests -/

namespace Session

/-- a test that ends with a fault fails its node; a node that had settled before is a fault of its own -/
def failing (s : Session) (title : Text) (fault : TestFault) : Session × Except TestFault Unit :=
  match s.graph.fail title with
  | .ok g => ({ s with graph := g }, .error fault)
  | .error f => (s, .error (.graph f))

/-- a test with nothing to start from skips its node -/
def skipping (s : Session) (title : Text) : Session × Except TestFault Unit :=
  match s.graph.skip title with
  | .ok g => ({ s with graph := g }, .error .skipped)
  | .error f => (s, .error (.graph f))

/-- a test that reached its document resolves its node -/
def resolving (s : Session) (t : SuiteTest) : Session × Except TestFault Unit :=
  match s.graph.resolve t.title t.expected with
  | .ok g => ({ s with graph := g }, .ok ())
  | .error f => (s, .error (.graph f))

/-- a test with a document to start from -/
def runFrom (names : CommandNames) (s : Session) (t : SuiteTest) (before : DocState) :
    Session × Except TestFault Unit :=
  let (e, r) := { s.editor with state := before }.performAll names t.steps
  let s := { s with editor := e }
  match r with
  | .error f => s.failing t.title f
  | .ok _ =>
    match t.expected.mismatch? e.state with
    | some m => s.failing t.title (.mismatch m)
    | none => s.resolving t

def runTest (settings : Settings) (s : Session) (t : SuiteTest) : Session × Except TestFault Unit :=
  let limit := settings.generator.waitTimeout
  match s.graph.waitAlone t.comesAfter limit with
  | .stalled => (s, .error .stalled)
  | .ended (.error f) => if limit.isSome then s.failing t.title (.graph f) else (s, .error (.graph f))
  | .ended (.ok none) => s.skipping t.title
  | .ended (.ok (some before)) => s.runFrom settings.commands t before

end Session

end CursorSpec
