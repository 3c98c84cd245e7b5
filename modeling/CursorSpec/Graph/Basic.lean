/-
The graph of states: every entry of a spec is a node, and every node settles once.

Initial states are resolved when they are added. The node of a transition is pending until its own test resolves it
with the document it reached, fails it or skips it; after that nothing changes it. Titles name nodes, and a node
comes after one that was there before, so the nodes form a forest.

A call changes the graph in steps, and what it changed before it fails stays changed: `insert`, `insertSettled`,
`insertAfter` and `mark` give the graph as they leave it beside what they come to. Those who go on only after a call
that succeeds use `seed`, `declare` and `settle`.
-/
import CursorSpec.Document.Basic

namespace CursorSpec

/-- how a node stands -/
inductive NodeStatus where
  | pending
  | resolved
  | failed
  | skipped
  deriving DecidableEq, Inhabited

namespace NodeStatus

def text : NodeStatus → Text
  | .pending => "pending"
  | .resolved => "resolved"
  | .failed => "failed"
  | .skipped => "skipped"

end NodeStatus

/-- an entry as a node -/
structure Node where
  title : Text
  after : Option Text
  status : NodeStatus
  /-- the document that the entry reached, of a resolved node -/
  state : Option DocState
  /-- whether those who wait for the node are let on -/
  settled : Bool
  deriving DecidableEq, Inhabited

namespace Node

/-- a node as it is added -/
def fresh (title : Text) (after : Option Text) : Node := ⟨title, after, .pending, none, false⟩

/-- a node that stands otherwise from now on -/
def settledAs (n : Node) (status : NodeStatus) (state : Option DocState) : Node :=
  { n with status := status, state := state, settled := true }

/-- what waiting for a settled node yields: its document if it is resolved -/
def yielded (n : Node) : Option DocState := if n.status = .resolved then n.state else none

@[simp]
theorem title_fresh (title : Text) (after : Option Text) : (fresh title after).title = title := rfl

section

variable (n : Node) (status : NodeStatus) (state : Option DocState)

@[simp]
theorem title_settledAs : (n.settledAs status state).title = n.title := rfl

@[simp]
theorem after_settledAs : (n.settledAs status state).after = n.after := rfl

@[simp]
theorem status_settledAs : (n.settledAs status state).status = status := rfl

@[simp]
theorem state_settledAs : (n.settledAs status state).state = state := rfl

end

end Node

inductive GraphFault where
  | unknown (title : Text)
  | unknownAfter (title after : Text)
  | declaredTwice (title : Text)
  | alreadySettled (title : Text) (status : NodeStatus)
  | timeout (title : Text) (milliseconds : Int)
  deriving DecidableEq, Inhabited

namespace GraphFault

/-- a title between double quotes -/
def named (t : Text) : Text := '\"' :: (t ++ ['\"'])

def message : GraphFault → Text
  | .unknown t => "unknown state " ++ named t
  | .unknownAfter t after => named t ++ " comes after unknown state " ++ named after
  | .declaredTwice t => "state " ++ named t ++ " is declared twice"
  | .alreadySettled t s => "state " ++ named t ++ " is already " ++ s.text
  | .timeout t ms => "state " ++ named t ++ " did not settle within " ++ Text.ofInt ms ++ "ms"

end GraphFault

/-- nodes in the order they were added -/
structure Graph where
  nodes : List Node
  deriving DecidableEq, Inhabited

namespace Graph

def empty : Graph := ⟨[]⟩

def find? (g : Graph) (title : Text) : Option Node := g.nodes.find? fun n => n.title = title

def contains (g : Graph) (title : Text) : Bool := (g.find? title).isSome

/-- the node of a title, which must be there -/
def node (g : Graph) (title : Text) : Except GraphFault Node :=
  match g.find? title with
  | some n => .ok n
  | none => .error (.unknown title)

/-! ## Calls, with the graph as they leave it -/

/-- a fresh node at the end, unless its title is taken -/
def insert (g : Graph) (title : Text) (after : Option Text) : Graph × Except GraphFault Unit :=
  if g.contains title then (g, .error (.declaredTwice title)) else (⟨g.nodes ++ [.fresh title after]⟩, .ok ())

/-- the graph in which the node of a title stands otherwise -/
def put (g : Graph) (title : Text) (status : NodeStatus) (state : Option DocState) : Graph :=
  ⟨g.nodes.map fun m => if m.title = title then m.settledAs status state else m⟩

/-- a node settled, unless it is settled already -/
def mark (g : Graph) (title : Text) (status : NodeStatus) (state : Option DocState) : Graph × Except GraphFault Unit :=
  match g.node title with
  | .error f => (g, .error f)
  | .ok n =>
    if n.status = .pending then (g.put title status state, .ok ())
    else (g, .error (.alreadySettled title n.status))

/-- a fresh node that comes after nothing, settled right away -/
def insertSettled (g : Graph) (title : Text) (state : DocState) : Graph × Except GraphFault Unit :=
  match g.insert title none with
  | (g, .ok _) => g.mark title .resolved (some state)
  | (g, .error f) => (g, .error f)

/-- a fresh node that comes after one that is there -/
def insertAfter (g : Graph) (title after : Text) : Graph × Except GraphFault Unit :=
  if g.contains after then g.insert title (some after) else (g, .error (.unknownAfter title after))

/-! ## Calls that have to succeed -/

/-- the graph that a call leaves, if it succeeds -/
def ifDone (a : Graph × Except GraphFault Unit) : Except GraphFault Graph := a.2.map fun _ => a.1

/-- an initial state -/
def seed (g : Graph) (title : Text) (state : DocState) : Except GraphFault Graph := ifDone (g.insertSettled title state)

/-- a transition that comes after a node -/
def declare (g : Graph) (title after : Text) : Except GraphFault Graph := ifDone (g.insertAfter title after)

def settle (g : Graph) (title : Text) (status : NodeStatus) (state : Option DocState) : Except GraphFault Graph :=
  ifDone (g.mark title status state)

def resolve (g : Graph) (title : Text) (state : DocState) : Except GraphFault Graph :=
  g.settle title .resolved (some state)

def fail (g : Graph) (title : Text) : Except GraphFault Graph := g.settle title .failed none

def skip (g : Graph) (title : Text) : Except GraphFault Graph := g.settle title .skipped none

/-- the titles of the nodes that come right after a title -/
def dependents (g : Graph) (title : Text) : List Text :=
  (g.nodes.filter fun n => n.after = some title).map (·.title)

end Graph

end CursorSpec
