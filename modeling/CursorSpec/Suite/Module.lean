/-
The text of a suite's test module.

A module opens one editor, seeds the graph of states with the initial ones, declares a node for every transition and
has one test function for each. Texts go into it in quotes, arguments as they were written.

Simplified: an integer is written out whatever its length, where printing may be limited to 4300 digits. Only settings
can ask for so long a delay or time limit.
-/
import CursorSpec.Document.Source
import CursorSpec.Suite.Basic

namespace CursorSpec

/-- lines moved right, blank ones too -/
def Text.indented (n : Nat) (ls : List Text) : List Text := ls.map (Text.spaces n ++ ·)

namespace Flag

/-- the arguments of the command that sets a behavior -/
def arguments (f : Flag) : Text :=
  "\x7b\"mode\": " ++ Text.quote f.mode.text ++ ", \"value\": " ++ Text.quote f.behavior.text ++ "\x7d"

/-- the statement that sets a behavior -/
def statement (names : CommandNames) (f : Flag) : Text :=
  "await editor.execute_command(" ++ Text.quote names.selectionBehavior ++ ", " ++ f.arguments ++ ")"

end Flag

namespace Invocation

/-- the expression that starts a call -/
def source (i : Invocation) : Text :=
  let args := Text.join ", " (Text.quote i.command :: i.args.toList)
  if i.delay = 0 then "editor.execute_command(" ++ args ++ ")"
  else "staggered(" ++ Text.ofInt i.delay ++ ", editor.execute_command, " ++ args ++ ")"

end Invocation

namespace TestStep

/-- the statements of a step -/
def statements (names : CommandNames) : TestStep → List Text
  | .configure f => [f.statement names]
  | .invoke i [] => ["await " ++ i.source]
  | .invoke i is =>
    let opening : Text := "await joined("
    opening :: (Text.indented 4 ((i :: is).map fun j => j.source ++ [',']) ++ [[')']])

end TestStep

namespace SuiteTest

/-- waiting for the entry that a test comes after -/
def waitLines (t : SuiteTest) (timeout : Option Int) : List Text :=
  match timeout with
  | none => ["    before = await states.wait(" ++ Text.quote t.comesAfter ++ ")"]
  | some ms =>
    ["    try:",
      "        before = await states.wait(" ++ Text.quote t.comesAfter ++ ", timeout_ms=" ++ Text.ofInt ms ++ ")",
      "    except BaseException:",
      "        states.fail(" ++ Text.quote t.title ++ ")",
      "        raise"]

/-- performing the steps, if there are any -/
def stepLines (t : SuiteTest) (names : CommandNames) : List Text :=
  if t.steps.isEmpty then []
  else
    let heading : Text := "        # Perform all operations."
    heading :: (Text.indented 8 (t.steps.flatMap (TestStep.statements names)) ++ [[]])

/-- the head of a test's function -/
def openingLines (t : SuiteTest) : List Text :=
  [ "async def " ++ t.function ++ "(editor):",
    "    \"\"\"transition " ++ Text.escapeInner t.label ++ "\"\"\"" ]

/-- skipping the test if there is nothing to start from, and putting the document in place -/
def setupLines (t : SuiteTest) : List Text :=
  [ [],
    "    if before is None:",
    "        states.skip(" ++ Text.quote t.title ++ ")",
    "        pytest.skip(" ++ Text.quote (t.comesAfter ++ " did not pass") ++ ")",
    [],
    "    after = " ++ t.expected.source 4,
    [],
    "    try:",
    "        # Set up document to be in expected initial state.",
    "        await before.apply(editor)",
    [] ]

/-- comparing the document, and settling the node either way -/
def closingLines (t : SuiteTest) : List Text :=
  [ "        # Ensure document is as expected.",
    "        after.assert_equals(editor)",
    "    except BaseException:",
    "        states.fail(" ++ Text.quote t.title ++ ")",
    "        raise",
    [],
    "    # Test passed, allow dependent tests to run.",
    "    states.resolve(" ++ Text.quote t.title ++ ", after)" ]

def sourceLines (t : SuiteTest) (settings : Settings) : List Text :=
  t.openingLines ++ t.waitLines settings.generator.waitTimeout ++ t.setupLines ++ t.stepLines settings.commands ++
    t.closingLines

end SuiteTest

namespace Seed

def sourceLines (s : Seed) : List Text :=
  ["states.seed(", "    " ++ Text.quote s.title ++ ",", "    " ++ s.state.source 4 ++ ",", ")"]

end Seed

namespace Suite

/-- the line that gives the fixture its name -/
def fixtureLine (s : Suite) : Text := "async def editor(" ++ s.settings.generator.hostFixture ++ "):"

/-- the lines before the graph is filled -/
def headLines (s : Suite) : List Text :=
  let g := s.settings.generator
  let documents : Text := if s.usesSelections then "DocumentState, Selection" else "DocumentState"
  let runtime : Text := if s.usesGroups then "StateGraph, joined, staggered" else "StateGraph"
  [ "\"\"\"Transition tests generated from " ++ Text.escapeInner s.name ++ " by statebook.",
    [],
    "Do not edit: regenerate with \x60statebook build\x60.",
    "\"\"\"",
    [],
    "import pytest",
    "import pytest_asyncio",
    [],
    "from statebook.document import " ++ documents,
    "from statebook.runtime import " ++ runtime,
    [],
    "pytestmark = pytest.mark.asyncio(loop_scope=\"module\")",
    [],
    "SUITE = " ++ Text.quote s.name,
    [],
    [],
    "@pytest_asyncio.fixture(scope=\"module\", loop_scope=\"module\")",
    s.fixtureLine,
    "    # Set up document.",
    "    editor = await " ++ g.hostFixture ++ ".open_editor()",
    "    " ++ g.defaultFlag.statement s.settings.commands,
    [],
    "    yield editor",
    [],
    "    await editor.close()",
    [],
    [],
    "# Each test sets up using the document of the test it comes after, and",
    "# settles its own state once done. This ensures that tests are executed in",
    "# the right order, and that we skip tests whose dependencies failed.",
    "states = StateGraph()" ]

/-- the line that declares the node of a test -/
def declaration (t : SuiteTest) : Text :=
  "states.declare(" ++ Text.quote t.title ++ ", after=" ++ Text.quote t.comesAfter ++ ")"

def sourceLines (s : Suite) : List Text :=
  s.headLines ++ s.seeds.flatMap Seed.sourceLines ++ s.tests.map declaration ++
    s.tests.flatMap fun t => [[], []] ++ t.sourceLines s.settings

def source (s : Suite) : Text := Text.unlines s.sourceLines ++ ['\n']

end Suite

end CursorSpec
