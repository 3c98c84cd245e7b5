/-
Waiting for nodes to settle, on a clock that only moves when something sleeps or waits.

A wait with a limit must see its node settle before the deadline; at the deadline it is too late. A wait without a
limit for a node that nobody settles stalls: all other waits run out first, and then nothing is left to happen.

Simplified: times are exact milliseconds of any size. A clock that counts in floating-point seconds refuses limits that
are too large for it.
-/
import CursorSpec.Graph.Basic

namespace CursorSpec

/-- the outcome of a wait: the document of a resolved node, nothing for one that failed or was skipped, or a fault -/
abbrev WaitOutcome := Except GraphFault (Option DocState)

inductive WaitStatus where
  /-- until an instant, if it has a limit of some milliseconds -/
  | waiting (limit : Option (Int × Int))
  | ended (outcome : WaitOutcome)

/-- a wait in the background -/
structure Waiter where
  name : Text
  title : Text
  status : WaitStatus

/-- a graph on a clock, with the waits in the background -/
structure TimedGraph where
  graph : Graph
  /-- milliseconds since the beginning -/
  now : Int
  waiters : List Waiter

/-- what comes of a wait in the foreground -/
inductive Waited where
  | ended (outcome : WaitOutcome)
  | stalled

namespace Waiter

/-- a wait whose deadline has come -/
def atTime (now : Int) (w : Waiter) : Waiter :=
  match w.status with
  | .waiting (some (deadline, ms)) =>
    if deadline ≤ now then { w with status := .ended (.error (.timeout w.title ms)) } else w
  | _ => w

/-- a wait whose node may have settled -/
def onGraph (g : Graph) (w : Waiter) : Waiter :=
  match w.status, g.find? w.title with
  | .waiting _, some n => if n.settled then { w with status := .ended (.ok n.yielded) } else w
  | _, _ => w

def deadline? (w : Waiter) : Option Int :=
  match w.status with
  | .waiting limit => limit.map (·.1)
  | .ended _ => none

end Waiter

namespace Graph

/-- how a wait begins; one without any time to wait has run out, whatever its node -/
def beginWait (g : Graph) (now : Int) (title : Text) (limit : Option Int) : WaitStatus :=
  match g.node title with
  | .error f => .ended (.error f)
  | .ok n =>
    if limit.any fun ms => ms ≤ 0 then .ended (.error (.timeout title (limit.getD 0)))
    else if n.settled then .ended (.ok n.yielded)
    else .waiting (limit.map fun ms => (now + ms, ms))

/-- what a wait comes to while nothing else happens -/
def waitAlone (g : Graph) (title : Text) (limit : Option Int) : Waited :=
  match g.beginWait 0 title limit with
  | .ended o => .ended o
  | .waiting (some (_, ms)) => .ended (.error (.timeout title ms))
  | .waiting none => .stalled

end Graph

namespace TimedGraph

def empty : TimedGraph := ⟨.empty, 0, []⟩

/-- the clock moved on -/
def advance (t : TimedGraph) (now : Int) : TimedGraph :=
  { t with now := now, waiters := t.waiters.map (Waiter.atTime now) }

/-- nothing done for some milliseconds -/
def sleep (t : TimedGraph) (ms : Int) : TimedGraph := t.advance (t.now + max ms 0)

/-- another graph in place, for which some waits may be over -/
def withGraph (t : TimedGraph) (g : Graph) : TimedGraph :=
  { t with graph := g, waiters := t.waiters.map (Waiter.onGraph g) }

/-- a wait in the background; it replaces one of the same name -/
def spawn (t : TimedGraph) (name title : Text) (limit : Option Int) : TimedGraph :=
  let others := t.waiters.filter fun w => w.name ≠ name
  { t with waiters := others ++ [⟨name, title, t.graph.beginWait t.now title limit⟩] }

def poll? (t : TimedGraph) (name : Text) : Option WaitStatus :=
  (t.waiters.find? fun w => w.name = name).map (·.status)

/-- the last deadline of all waits in the background -/
def lastDeadline (t : TimedGraph) : Int := (t.waiters.filterMap Waiter.deadline?).foldl max t.now

/-- a wait in the foreground -/
def wait (t : TimedGraph) (title : Text) (limit : Option Int) : Waited × TimedGraph :=
  let after := match t.graph.beginWait t.now title limit with
    | .ended _ => t
    | .waiting (some (deadline, _)) => t.advance deadline
    | .waiting none => t.advance t.lastDeadline
  (t.graph.waitAlone title limit, after)

end TimedGraph

end CursorSpec
