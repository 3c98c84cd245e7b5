/-
Calls on a graph on a clock, one after another.

A call that fails keeps what it changed before, so a fault comes with the graph that it leaves. Waits in the background
end as soon as a call settles their node.
-/
import CursorSpec.Graph.Waiting

namespace CursorSpec

inductive GraphCall where
  | seed (title : Text) (state : DocState)
  | declare (title after : Text)
  | resolve (title : Text) (state : DocState)
  | fail (title : Text)
  | skip (title : Text)
  | status (title : Text)
  | node (title : Text)
  | dependents (title : Text)
  | wait (title : Text) (limit : Option Int)
  /-- a wait in the background, under a name -/
  | spawn (name title : Text) (limit : Option Int)
  | sleep (milliseconds : Int)
  deriving DecidableEq

inductive GraphReply where
  | done
  | node (n : Node)
  | status (s : NodeStatus)
  | titles (ts : List Text)
  /-- the outcome of a wait that ended -/
  | document (d : Option DocState)
  /-- a wait that never ends -/
  | stalled
  deriving DecidableEq

namespace Waited

def reply : Waited → Except GraphFault GraphReply
  | .ended o => o.map .document
  | .stalled => .ok .stalled

end Waited

namespace TimedGraph

/-- the answer of a call that added a node, and what the call left -/
def added (t : TimedGraph) (title : Text) (a : Graph × Except GraphFault Unit) :
    TimedGraph × Except GraphFault GraphReply :=
  (t.withGraph a.1, a.2.bind fun _ => (a.1.node title).map .node)

/-- the answer of a call that settled a node, and what the call left -/
def marked (t : TimedGraph) (a : Graph × Except GraphFault Unit) : TimedGraph × Except GraphFault GraphReply :=
  (t.withGraph a.1, a.2.map fun _ => .done)

/-- a call: what it leaves, and what it answers -/
def perform (t : TimedGraph) : GraphCall → TimedGraph × Except GraphFault GraphReply
  | .seed title state => t.added title (t.graph.insertSettled title state)
  | .declare title after => t.added title (t.graph.insertAfter title after)
  | .resolve title state => t.marked (t.graph.mark title .resolved (some state))
  | .fail title => t.marked (t.graph.mark title .failed none)
  | .skip title => t.marked (t.graph.mark title .skipped none)
  | .status title => (t, (t.graph.node title).map fun n => .status n.status)
  | .node title => (t, (t.graph.node title).map .node)
  | .dependents title => (t, .ok (.titles (t.graph.dependents title)))
  | .wait title limit => ((t.wait title limit).2, (t.wait title limit).1.reply)
  | .spawn name title limit => (t.spawn name title limit, .ok .done)
  | .sleep milliseconds => (t.sleep milliseconds, .ok .done)

/-- what calls leave, made one after another whether they fail or not -/
def performAll (t : TimedGraph) (calls : List GraphCall) : TimedGraph := calls.foldl (fun t c => (t.perform c).1) t

end TimedGraph

end CursorSpec
