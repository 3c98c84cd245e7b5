/-
Specs: entries that say which document states a test starts from and which it must reach.

An initial state stands by itself. A transition comes after another entry and reaches its own state by operations,
some of which type a character while the one before them still runs.
-/
import CursorSpec.Text.Basic

namespace CursorSpec

/-- editor modes that a selection behavior applies to -/
inductive Mode where
  | normal
  | insert
  deriving DecidableEq, Inhabited

namespace Mode

def text : Mode → Text
  | .normal => "normal"
  | .insert => "insert"

def all : List Mode := [.normal, .insert]

def ofText? (t : Text) : Option Mode := all.find? fun m => m.text = t

end Mode

/-- how selections behave in a mode: between characters, or on the character under the cursor -/
inductive Behavior where
  | caret
  | character
  deriving DecidableEq, Inhabited

namespace Behavior

def text : Behavior → Text
  | .caret => "caret"
  | .character => "character"

def all : List Behavior := [.caret, .character]

def ofText? (t : Text) : Option Behavior := all.find? fun b => b.text = t

end Behavior

/-- a demand that a mode's selections behave in a way -/
structure Flag where
  mode : Mode
  behavior : Behavior
  deriving DecidableEq, Inhabited

/-- what an operation line asks for -/
inductive OperationKind where
  /-- a command by its full name -/
  | command
  /-- a command by its name inside the configured namespace -/
  | namespaced
  /-- a character typed while the operation before it runs -/
  | typing
  deriving DecidableEq, Inhabited

structure Operation where
  kind : OperationKind
  command : Text
  args : Option Text
  /-- the character that a typing operation types -/
  text : Option Text
  line : Option Int
  deriving DecidableEq, Inhabited

/-- an entry that comes after nothing -/
structure InitialState where
  title : Text
  flags : List Flag
  /-- the fenced block, markers included -/
  content : Text
  line : Option Int
  deriving DecidableEq, Inhabited

/-- an entry that is reached from another one -/
structure Transition where
  title : Text
  comesAfter : Text
  operations : List Operation
  flags : List Flag
  content : Text
  line : Option Int
  deriving DecidableEq, Inhabited

inductive Entry where
  | initial (s : InitialState)
  | transition (t : Transition)
  deriving DecidableEq, Inhabited

namespace Entry

def title : Entry → Text
  | .initial s => s.title
  | .transition t => t.title

def content : Entry → Text
  | .initial s => s.content
  | .transition t => t.content

def line : Entry → Option Int
  | .initial s => s.line
  | .transition t => t.line

end Entry

/-- the entries of a spec, each kind in the order they were declared -/
structure Spec where
  initial : List InitialState
  transitions : List Transition
  /-- how many lines of the source look like headers -/
  headerCount : Nat
  deriving DecidableEq, Inhabited

namespace Spec

/-- the titles of all entries, initial states first -/
def titles (s : Spec) : List Text := s.initial.map (·.title) ++ s.transitions.map (·.title)

end Spec

end CursorSpec
