/-
Specs as plain values, for output.
-/
import CursorSpec.Spec.Resolved
import CursorSpec.Value.Json

namespace CursorSpec

namespace Value

/-- a mapping with texts as its keys -/
def object (entries : List (Text × Value)) : Value := .dict (entries.map fun e => (.str e.1, e.2))

def optional {α : Type} (f : α → Value) : Option α → Value
  | none => .null
  | some a => f a

end Value

namespace Flag

def toValue (f : Flag) : Value := .object [("mode", .str f.mode.text), ("behavior", .str f.behavior.text)]

end Flag

namespace OperationKind

def text : OperationKind → Text
  | .command => "command"
  | .namespaced => "namespaced"
  | .typing => "type"

end OperationKind

namespace Operation

def toValue (o : Operation) : Value :=
  .object [("kind", .str o.kind.text), ("command", .str o.command), ("args", .optional .str o.args),
    ("text", .optional .str o.text), ("line", .optional .int o.line)]

end Operation

namespace InitialState

def toValue (s : InitialState) : Value :=
  .object [("title", .str s.title), ("flags", .list (s.flags.map Flag.toValue)), ("content", .str s.content),
    ("line", .optional .int s.line)]

end InitialState

namespace Transition

def toValue (t : Transition) : Value :=
  .object [("title", .str t.title), ("comes_after", .str t.comesAfter),
    ("operations", .list (t.operations.map Operation.toValue)), ("flags", .list (t.flags.map Flag.toValue)),
    ("content", .str t.content), ("line", .optional .int t.line)]

end Transition

namespace ResolvedSpec

def toValue (r : ResolvedSpec) : Value :=
  .object [("setups", .list (r.setups.map InitialState.toValue)), ("tests", .list (r.tests.map Transition.toValue))]

end ResolvedSpec

end CursorSpec
