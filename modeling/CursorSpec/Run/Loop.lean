/-
The loop on which the calls of a group run.

A member of a group is asleep until it starts, busy until it ends, and then it has ended. The loop goes on with the
member whose turn comes first, lets it act until it waits again, and puts the clock to that moment. The group counts
the members that end, and it answers once it has counted all of them.

Nothing is computed with the loop: the log of a group and the answers of calls that are awaited together are put in
order right away. The loop says what that order stands for.
-/
import CursorSpec.Run.Group
import Mathlib.Logic.Relation

namespace CursorSpec

/-- how the members of a group behave: when each starts, how long it is busy, and what it does to what they share -/
structure Conduct (μ σ ρ υ : Type) where
  delay : μ → Option Int
  takes : μ → Option Int
  /-- what a member does when it starts, and what it goes on with -/
  start : μ → Int → σ → σ × ρ
  /-- what a member does when it ends, and what it answers -/
  stop : μ → Int → ρ → σ → σ × υ

/-- how far a member is -/
inductive Stage (ρ υ : Type) where
  | asleep (wake : Instant)
  | busy (wake since : Instant) (begun : ρ)
  | ended (answer : υ)

namespace Stage

variable {ρ υ : Type}

/-- what a member waits for, and since when -/
def waits? : Stage ρ υ → Option (Group.Event Unit)
  | .asleep wake => some ⟨wake, .zero, ()⟩
  | .busy wake since _ => some ⟨wake, since, ()⟩
  | .ended _ => none

def answer? : Stage ρ υ → Option υ
  | .ended a => some a
  | _ => none

end Stage

/-- a group on its loop -/
structure Loop (μ σ ρ υ : Type) where
  now : Instant
  /-- what the members share -/
  shared : σ
  members : List (μ × Stage ρ υ)
  /-- how many members were seen to end -/
  count : Nat

namespace Loop

variable {μ σ ρ υ : Type}

/-- a group before anything has happened -/
def opening (c : Conduct μ σ ρ υ) (s : σ) (ms : List μ) : Loop μ σ ρ υ :=
  ⟨.zero, s, ms.map fun m => (m, .asleep (Instant.zero.afterSome (c.delay m))), 0⟩

/-- whether a member comes next that stands between others: of those that wait for one moment equally long, the first -/
structure IsNext (before after : List (μ × Stage ρ υ)) (e : Group.Event Unit) : Prop where
  before : ∀ p ∈ before, ∀ f, p.2.waits? = some f → ¬f.le e = true
  after : ∀ p ∈ after, ∀ f, p.2.waits? = some f → e.le f = true

/-- one turn of the loop -/
inductive Step (c : Conduct μ σ ρ υ) : Loop μ σ ρ υ → Loop μ σ ρ υ → Prop
  /-- a member starts and stays busy -/
  | starts {now w : Instant} {s : σ} {n : Nat} {m : μ} {before after : List (μ × Stage ρ υ)} {ms : Int}
      (takes : c.takes m = some ms) (next : IsNext before after ⟨w, .zero, ()⟩) :
      Step c ⟨now, s, before ++ (m, .asleep w) :: after, n⟩
        ⟨w, (c.start m w.time s).1,
          before ++ (m, .busy (w.after ms) w (c.start m w.time s).2) :: after, n⟩
  /-- a member starts, and ends without waiting -/
  | passes {now w : Instant} {s : σ} {n : Nat} {m : μ} {before after : List (μ × Stage ρ υ)}
      (takes : c.takes m = none) (next : IsNext before after ⟨w, .zero, ()⟩) :
      Step c ⟨now, s, before ++ (m, .asleep w) :: after, n⟩
        ⟨w, (c.stop m w.time (c.start m w.time s).2 (c.start m w.time s).1).1,
          before ++ (m, .ended (c.stop m w.time (c.start m w.time s).2 (c.start m w.time s).1).2) :: after, n + 1⟩
  /-- a member that was busy ends -/
  | stops {now w since : Instant} {s : σ} {n : Nat} {m : μ} {before after : List (μ × Stage ρ υ)} {r : ρ}
      (next : IsNext before after ⟨w, since, ()⟩) :
      Step c ⟨now, s, before ++ (m, .busy w since r) :: after, n⟩
        ⟨w, (c.stop m w.time r s).1, before ++ (m, .ended (c.stop m w.time r s).2) :: after, n + 1⟩

/-- any number of turns -/
def Runs (c : Conduct μ σ ρ υ) : Loop μ σ ρ υ → Loop μ σ ρ υ → Prop := Relation.ReflTransGen (Step c)

/-- what a group answers, once it has counted all of its members -/
def joined? {ε α : Type} (l : Loop μ σ ρ (Except ε α)) : Option (Except ε (List α)) :=
  if l.count = l.members.length then some (Group.joined (l.members.filterMap (·.2.answer?))) else none

end Loop

namespace Member

/-- a member on a loop that shares the log -/
def conduct (ε α : Type) : Conduct (Member ε α) (List LogLine) Unit (Except ε α) where
  delay := Member.delay
  takes := Member.takes
  start m time log := (log ++ [⟨time, m.name, "start"⟩], ())
  stop m time _ log := (log ++ [⟨time, m.name, "end"⟩], m.result)

end Member

end CursorSpec
