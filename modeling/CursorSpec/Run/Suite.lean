/-
Running a suite: its module is loaded, and its tests run one after another on one editor.

A module does not load if a text stands in it with a zero character, or if a line of it that takes more than texts in
quotes is not what it should be. There are two kinds of such lines: the one that names the fixture as a parameter
(`isFunctionHead`) and the statements that execute commands, with their arguments as they were written
(`TestStep.isLoadable`). Both are read from their texts. All other lines are fixed but for quoted texts and for numbers.

Reading a statement is not all that is done with it. The compiler also refuses some that are read, such as one with a
function that has two parameters of one name, or one that yields from another generator. `loadWith` takes what the
compiler says about a statement as a parameter; nothing is said against literals. `load` is for a compiler that takes
whatever is read.
-/
import CursorSpec.Expr.Arguments
import CursorSpec.Run.Test
import CursorSpec.Suite.Module

namespace CursorSpec

/-- why a module does not load -/
inductive LoadFault where
  | zeroCharacter
  | malformed
  | graph (f : GraphFault)
  deriving DecidableEq, Inhabited

/-- what came of one test -/
structure TestReport where
  function : Text
  result : Except TestFault Unit
  /-- how the test's node stands after it -/
  status : Option NodeStatus
  /-- the calls that the test made -/
  calls : List Call
  /-- the document after the test, rendered -/
  document : Text

structure RunReport where
  reports : List TestReport
  nodes : List Node

namespace Suite

/-- the characters that are read as letters of `__debug__` where they stand in a name -/
def debugForms : List (Char × List Nat) :=
  [ ('b', [0x1d47, 0xff42, 0x1d41b, 0x1d44f, 0x1d483, 0x1d4b7, 0x1d4eb, 0x1d51f, 0x1d553, 0x1d587, 0x1d5bb, 0x1d5ef,
      0x1d623, 0x1d657, 0x1d68b]),
    ('d', [0x1d48, 0x2146, 0x217e, 0xff44, 0x1d41d, 0x1d451, 0x1d485, 0x1d4b9, 0x1d4ed, 0x1d521, 0x1d555, 0x1d589,
      0x1d5bd, 0x1d5f1, 0x1d625, 0x1d659, 0x1d68d]),
    ('e', [0x1d49, 0x2091, 0x212f, 0x2147, 0xff45, 0x1d41e, 0x1d452, 0x1d486, 0x1d4ee, 0x1d522, 0x1d556, 0x1d58a,
      0x1d5be, 0x1d5f2, 0x1d626, 0x1d65a, 0x1d68e]),
    ('g', [0x1d4d, 0x210a, 0xff47, 0x1d420, 0x1d454, 0x1d488, 0x1d4f0, 0x1d524, 0x1d558, 0x1d58c, 0x1d5c0, 0x1d5f4,
      0x1d628, 0x1d65c, 0x1d690]),
    ('u', [0x1d58, 0x1d64, 0xff55, 0x1d42e, 0x1d462, 0x1d496, 0x1d4ca, 0x1d4fe, 0x1d532, 0x1d566, 0x1d59a, 0x1d5ce,
      0x1d602, 0x1d636, 0x1d66a, 0x1d69e]),
    ('_', [0xfe33, 0xfe34, 0xfe4d, 0xfe4e, 0xfe4f, 0xff3f]) ]

/-- the letter of `__debug__` that a character is read as, if it is one of them -/
def plainForm (c : Char) : Char := ((debugForms.find? fun f => f.2.contains c.toNat).map (·.1)).getD c

/-- whether a name is read as `__debug__`, which nothing can be assigned to -/
def isDebug (name : Text) : Bool := name.map plainForm = "__debug__".toList

/-- the parameter of a function that begins with these lexemes -/
def parameter? : List Expr.Lexeme → Option Text
  | [.word async, .word define, .name _, .sign opening, .name parameter, .sign closing, .sign colon] =>
    if async = "async".toList && define = "def".toList && opening = ['('] && closing = [')'] && colon = [':'] then
      some parameter
    else none
  | _ => none

/-- whether a line begins a function with one parameter -/
def isFunctionHead (line : Text) : Bool :=
  (Expr.lex line).any fun l => (parameter? l.lexemes).any fun name => !isDebug name

end Suite

/-- whether the statement of a step is an expression that the compiler takes -/
def TestStep.isLoadable (compiles : Text → Bool) (names : CommandNames) (x : TestStep) : Bool :=
  let statement := Text.unlines (x.statements names)
  Expr.isExpression statement && compiles statement

namespace Suite

/-- whether the lines with more than quoted texts in them are what they should be -/
def isLoadable (compiles : Text → Bool) (s : Suite) : Bool :=
  isFunctionHead s.fixtureLine && s.tests.all fun t => t.steps.all (·.isLoadable compiles s.settings.commands)

/-- the graph before any test: initial states resolved, transitions pending -/
def initialGraph (s : Suite) : Except GraphFault Graph := do
  let g ← s.seeds.foldlM (fun g x => g.seed x.title x.state) Graph.empty
  s.tests.foldlM (fun g t => g.declare t.title t.comesAfter) g

/-- the module loaded, with a fresh editor, given what the compiler says about statements that are read -/
def loadWith (compiles : Text → Bool) (s : Suite) : Except LoadFault Session :=
  if s.source.contains Text.zero then .error .zeroCharacter
  else if !s.isLoadable compiles then .error .malformed
  else do
    let g ← s.initialGraph.mapError .graph
    return ⟨g, Host.standard.openEditor.1⟩

/-- the module loaded by a compiler that takes whatever is read -/
def load (s : Suite) : Except LoadFault Session := s.loadWith fun _ => true

end Suite

namespace Session

def report (settings : Settings) (s : Session) (t : SuiteTest) : Session × TestReport :=
  let (s', r) := s.runTest settings t
  (s', ⟨t.function, r, (s'.graph.find? t.title).map (·.status), s'.editor.history.drop s.editor.history.length,
    s'.editor.state.render⟩)

def reportAll (settings : Settings) (s : Session) : List SuiteTest → Session × List TestReport
  | [] => (s, [])
  | t :: ts =>
    let (s, r) := s.report settings t
    let (s, rs) := reportAll settings s ts
    (s, r :: rs)

end Session

namespace Suite

/-- the suite run, its tests in the given order -/
def run (s : Suite) (order : List Nat) : Except LoadFault RunReport := do
  let session ← s.load
  let (session, reports) := session.reportAll s.settings (order.filterMap fun i => s.tests[i]?)
  return ⟨reports, session.graph.nodes⟩

end Suite

end CursorSpec
