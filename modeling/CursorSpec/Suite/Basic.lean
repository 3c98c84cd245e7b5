/-
Compiling a spec into a suite of tests.

The documents of the initial states are decoded first. Then each transition gets the name of its function, its steps
and the document it must reach, in this order, so the first of them that fails decides the problem.
-/
import CursorSpec.Document.Marker
import CursorSpec.Spec.Reader
import CursorSpec.Spec.Resolved
import CursorSpec.Spec.Steps
import CursorSpec.Suite.Name

namespace CursorSpec

/-- an initial state with its document -/
structure Seed where
  title : Text
  state : DocState
  deriving DecidableEq, Inhabited

/-- a test: what it starts from, what it does and what it must reach -/
structure SuiteTest where
  /-- name of its function -/
  function : Text
  title : Text
  comesAfter : Text
  steps : List TestStep
  expected : DocState
  deriving DecidableEq, Inhabited

/-- the tests of a spec -/
structure Suite where
  name : Text
  seeds : List Seed
  tests : List SuiteTest
  settings : Settings
  deriving DecidableEq, Inhabited

namespace SuiteTest

/-- what a test is shown as -/
def label (t : SuiteTest) : Text := t.comesAfter ++ " > " ++ t.title

end SuiteTest

namespace Entry

def document (e : Entry) : Except Problem DocState :=
  (Document.decode e.content).mapError fun p => ⟨.entryMarker e.title p, e.line⟩

end Entry

namespace Suite

/-- the initial states with their documents -/
def seedsOf : List InitialState → Except Problem (List Seed)
  | [] => .ok []
  | s :: ss => do
    let state ← (Entry.initial s).document
    return ⟨s.title, state⟩ :: (← seedsOf ss)

/-- the tests of transitions, with names not among the used ones -/
def testsOf (settings : Settings) (used : List Text) : List Transition → Except Problem (List SuiteTest)
  | [] => .ok []
  | t :: ts => do
    let function := unique used (baseName t.comesAfter t.title)
    let steps ← t.steps settings.commands settings.generator.typeStagger
    let expected ← (Entry.transition t).document
    return ⟨function, t.title, t.comesAfter, steps, expected⟩ :: (← testsOf settings (used ++ [function]) ts)

def ofResolved (settings : Settings) (name : Text) (r : ResolvedSpec) : Except Problem Suite := do
  let seeds ← seedsOf r.setups
  let tests ← testsOf settings [] r.tests
  return ⟨name, seeds, tests, settings⟩

def compile (settings : Settings) (name text : Text) : Except Problem Suite := do
  ofResolved settings name (← (← Spec.read text).resolve)

/-- whether some step awaits several calls together -/
def usesGroups (s : Suite) : Bool := s.tests.any fun t => t.steps.any TestStep.isGroup

/-- whether some document has a selection -/
def usesSelections (s : Suite) : Bool :=
  (s.seeds.map (·.state) ++ s.tests.map (·.expected)).any fun d => !d.selections.isEmpty

end Suite

end CursorSpec
