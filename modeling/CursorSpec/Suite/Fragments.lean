/-
The text of a suite's test module, cut at its literals.

The lines are those of the module. Where texts of the suite are put into literals, a line is the fragments around and
between them, and every other line is one fragment of code. What is typed is inside the arguments of a call, and is
found there (`Invocation.typedText?`); documents, and the arguments that a spec spells itself, are code.
-/
import CursorSpec.Expr.Grammar
import CursorSpec.Suite.Module

namespace CursorSpec

inductive Fragment where
  | code (t : Text)
  /-- a text in quotes -/
  | quoted (t : Text)
  /-- a text in triple quotes, as what a function says of itself -/
  | documentation (t : Text)
  deriving DecidableEq, Inhabited

namespace Fragment

/-- how a fragment stands in the module -/
def text : Fragment → Text
  | .code t => t
  | .quoted t => Text.quote t
  | .documentation t => '\"' :: '\"' :: '\"' :: (Text.escapeInner t ++ ['\"', '\"', '\"'])

/-- the text that a literal stands for -/
def literal? : Fragment → Option Text
  | .code _ => none
  | .quoted t => some t
  | .documentation t => some t

def isLiteral (f : Fragment) : Bool := f.literal?.isSome

/-- lines without literals -/
def plain (ls : List Text) : List (List Fragment) := ls.map fun l => [.code l]

/-- lines moved right -/
def indented (n : Nat) (ls : List (List Fragment)) : List (List Fragment) := ls.map (.code (Text.spaces n) :: ·)

end Fragment

namespace Flag

/-- the statement that sets a behavior -/
def fragments (names : CommandNames) (f : Flag) : List Fragment :=
  [.code "await editor.execute_command(", .quoted names.selectionBehavior, .code ", ", .code "\x7b\"mode\": ",
    .quoted f.mode.text, .code ", \"value\": ", .quoted f.behavior.text, .code "\x7d", .code ")"]

end Flag

namespace Invocation

/-- the arguments of a call that types a text -/
def typing (x : Text) : Text := "\x7b\"text\": " ++ Text.quote x ++ "\x7d"

/-- the text that a call types, if its arguments say so -/
def typedText? (i : Invocation) : Option Text := do
  let t ← Text.afterStart? "\x7b\"text\": " (← i.args)
  let (l, _) ← Expr.takeLexeme t
  match l with
  | .quotation q => (Expr.quotationText q).filter fun x => i.args = some (typing x)
  | _ => none

/-- the expression that starts a call with these arguments behind the command -/
def fragmentsWith (i : Invocation) (args : List Fragment) : List Fragment :=
  let opening : Text :=
    if i.delay = 0 then "editor.execute_command("
    else "staggered(" ++ Text.ofInt i.delay ++ ", editor.execute_command, "
  .code opening :: .quoted i.command :: (args ++ [.code ")"])

/-- the expression that starts a call -/
def fragments (i : Invocation) : List Fragment := i.fragmentsWith (i.args.toList.map fun a => .code (", " ++ a))

/-- the expression that starts a call which types a text -/
def typingFragments (i : Invocation) : List Fragment :=
  match i.typedText? with
  | some x => i.fragmentsWith [.code ", ", .code "\x7b\"text\": ", .quoted x, .code "\x7d"]
  | none => i.fragments

end Invocation

namespace TestStep

def fragmentLines (names : CommandNames) : TestStep → List (List Fragment)
  | .configure f => [f.fragments names]
  | .invoke i [] => [.code "await " :: i.fragments]
  | .invoke i is =>
    [.code "await joined("] ::
      (Fragment.indented 4 ((i.fragments :: is.map Invocation.typingFragments).map (· ++ [.code [',']])) ++
        [[.code [')']]])

end TestStep

namespace SuiteTest

/-- waiting for the entry that a test comes after -/
def waitFragments (t : SuiteTest) (timeout : Option Int) : List (List Fragment) :=
  let lines := Fragment.plain (t.waitLines timeout)
  match timeout with
  | none => lines.set 0 [.code "    before = await states.wait(", .quoted t.comesAfter, .code ")"]
  | some ms =>
    (lines.set 1 [.code "        before = await states.wait(", .quoted t.comesAfter,
      .code (", timeout_ms=" ++ Text.ofInt ms ++ ")")]).set 3 [.code "        states.fail(", .quoted t.title, .code ")"]

/-- performing the steps, if there are any -/
def stepFragments (t : SuiteTest) (names : CommandNames) : List (List Fragment) :=
  if t.steps.isEmpty then []
  else
    [.code "        # Perform all operations."] ::
      (Fragment.indented 8 (t.steps.flatMap (TestStep.fragmentLines names)) ++ [[]])

/-- the head of a test's function -/
def openingFragments (t : SuiteTest) : List (List Fragment) :=
  (Fragment.plain t.openingLines).set 1 [.code "    ", .documentation ("transition " ++ t.label)]

/-- skipping the test if there is nothing to start from, and putting the document in place -/
def setupFragments (t : SuiteTest) : List (List Fragment) :=
  ((Fragment.plain t.setupLines).set 2 [.code "        states.skip(", .quoted t.title, .code ")"]).set 3
    [.code "        pytest.skip(", .quoted (t.comesAfter ++ " did not pass"), .code ")"]

/-- comparing the document, and settling the node either way -/
def closingFragments (t : SuiteTest) : List (List Fragment) :=
  ((Fragment.plain t.closingLines).set 3 [.code "        states.fail(", .quoted t.title, .code ")"]).set 7
    [.code "    states.resolve(", .quoted t.title, .code ", after)"]

def fragmentLines (t : SuiteTest) (settings : Settings) : List (List Fragment) :=
  t.openingFragments ++ t.waitFragments settings.generator.waitTimeout ++ t.setupFragments ++
    t.stepFragments settings.commands ++ t.closingFragments

end SuiteTest

namespace Seed

def fragmentLines (s : Seed) : List (List Fragment) :=
  (Fragment.plain s.sourceLines).set 1 [.code "    ", .quoted s.title, .code ","]

end Seed

namespace Suite

/-- the lines before the graph is filled -/
def headFragments (s : Suite) : List (List Fragment) :=
  ((Fragment.plain s.headLines).set 13 [.code "SUITE = ", .quoted s.name]).set 20
    (.code "    " :: s.settings.generator.defaultFlag.fragments s.settings.commands)

/-- the line that declares the node of a test -/
def declarationFragments (t : SuiteTest) : List Fragment :=
  [.code "states.declare(", .quoted t.title, .code ", after=", .quoted t.comesAfter, .code ")"]

def fragmentLines (s : Suite) : List (List Fragment) :=
  s.headFragments ++ s.seeds.flatMap Seed.fragmentLines ++ s.tests.map declarationFragments ++
    s.tests.flatMap fun t => [[], []] ++ t.fragmentLines s.settings

def fragments (s : Suite) : List Fragment := s.fragmentLines.flatMap (· ++ [.code ['\n']])

end Suite

end CursorSpec
