/-
Groups: calls that are awaited together.

A member may be started later than its group, and may take some time. Sleeping for no time still lets every other
member that is ready go first; an instant counts such turns. The first failure in the order of the members is the
failure of the group, and no member is left running.
-/
import CursorSpec.Text.Basic

namespace CursorSpec

/-- a moment: milliseconds, and turns within one millisecond -/
structure Instant where
  time : Int
  turn : Nat
  deriving DecidableEq, Inhabited

namespace Instant

def zero : Instant := ⟨0, 0⟩

/-- the moment after sleeping -/
def after (i : Instant) (ms : Int) : Instant := if ms ≤ 0 then ⟨i.time, i.turn + 1⟩ else ⟨i.time + ms, 0⟩

/-- the moment after sleeping, if there is any sleep -/
def afterSome (i : Instant) (ms : Option Int) : Instant := (ms.map i.after).getD i

def le (i j : Instant) : Bool := i.time < j.time || (i.time = j.time && i.turn ≤ j.turn)

end Instant

namespace Group

/-- something a member does, at a moment it has waited for since another -/
structure Event (α : Type) where
  moment : Instant
  since : Instant
  act : α

/-- the order of events: by moment, and then by how long they were awaited -/
def Event.le {α : Type} (e f : Event α) : Bool :=
  if e.moment = f.moment then e.since.le f.since else e.moment.le f.moment

/-- what all members do, in order; members that act at one moment do so in the order of the group -/
def inOrder {α : Type} (events : List (Event α)) : List (Event α) := sortBy Event.le events

/-- the starts of members that are started after some delay, if any -/
def starts {α : Type} (members : List (Option Int × α)) : List (Event α) :=
  inOrder (members.map fun m => ⟨Instant.zero.afterSome m.1, .zero, m.2⟩)

/-- results in the order of the members: the first failure, or all of them -/
def joined {ε α : Type} : List (Except ε α) → Except ε (List α)
  | [] => .ok []
  | r :: rs => do
    let a ← r
    return a :: (← joined rs)

end Group

/-- a member that logs when it starts and ends -/
structure Member (ε α : Type) where
  name : Text
  delay : Option Int
  takes : Option Int
  result : Except ε α

structure LogLine where
  time : Int
  name : Text
  what : Text
  deriving DecidableEq, Inhabited

namespace Member

variable {ε α : Type}

def start (m : Member ε α) : Instant := Instant.zero.afterSome m.delay

def stop (m : Member ε α) : Instant := m.start.afterSome m.takes

def line (m : Member ε α) (what : Text) (i : Instant) : LogLine := ⟨i.time, m.name, what⟩

/-- what a member logs; without any time taken it ends where it starts -/
def events (m : Member ε α) : List (Group.Event (List LogLine)) :=
  let first := m.line "start" m.start
  let last := m.line "end" m.stop
  if m.takes.isSome then [⟨m.start, .zero, [first]⟩, ⟨m.stop, m.start, [last]⟩]
  else [⟨m.start, .zero, [first, last]⟩]

end Member

namespace Group

variable {ε α : Type}

def log (ms : List (Member ε α)) : List LogLine := (inOrder (ms.flatMap Member.events)).flatMap (·.act)

/-- when a group is over -/
def ended (ms : List (Member ε α)) : Int := (ms.map fun m => m.stop.time).foldl max 0

end Group

end CursorSpec
