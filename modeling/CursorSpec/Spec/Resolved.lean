/-
Resolving a spec: titles are unique, and every transition comes after an entry that was declared before it.

Nothing else is needed against cycles, since an entry that comes after a later one is refused.
-/
import CursorSpec.Diff.Closest
import CursorSpec.Problem
import CursorSpec.Spec.Basic

namespace CursorSpec

/-- entries in the order they run; every transition comes after a known entry -/
structure ResolvedSpec where
  setups : List InitialState
  tests : List Transition
  deriving DecidableEq, Inhabited

namespace Text

/-- the suggestion of the closest known title -/
def didYouMean? (missing : Text) (known : List Text) : Option Text :=
  (Diff.closest? missing known).map fun t => "Did you mean \"" ++ t ++ ['\"', '?']

end Text

namespace Spec

/-- the titles of initial states, each after those already known -/
def declareInitial (known : List Text) : List InitialState → Except Problem (List Text)
  | [] => .ok known
  | s :: ss =>
    if known.contains s.title then .error ⟨.duplicateInitial s.title, s.line⟩
    else declareInitial (known ++ [s.title]) ss

/-- what to do about a transition that comes after an entry not declared before it -/
def dependencySuggestion? (titles : List Text) (t : Transition) : Option Text :=
  if t.comesAfter = t.title then some "A transition cannot come after itself"
  else if titles.contains t.comesAfter then
    some ("Move " ++ Cause.named t.comesAfter ++ " before " ++ Cause.named t.title)
  else Text.didYouMean? t.comesAfter titles

/-- the titles of transitions, each after those already known and coming after one of them -/
def declareTransitions (titles known : List Text) : List Transition → Except Problem (List Text)
  | [] => .ok known
  | t :: ts =>
    if !known.contains t.comesAfter then
      .error ⟨.unknownDependency t.title t.comesAfter (dependencySuggestion? titles t), t.line⟩
    else if known.contains t.title then .error ⟨.duplicateTest t.title, t.line⟩
    else declareTransitions titles (known ++ [t.title]) ts

/-- the entries of a spec, checked and in the order they run -/
def resolve (s : Spec) : Except Problem ResolvedSpec := do
  let known ← declareInitial [] s.initial
  let _ ← declareTransitions s.titles known s.transitions
  return ⟨s.initial, s.transitions⟩

end Spec

namespace ResolvedSpec

def entry? (r : ResolvedSpec) (title : Text) : Option Entry :=
  ((r.setups.find? fun s => s.title = title).map .initial) <|>
    (r.tests.find? fun t => t.title = title).map .transition

def predecessor? (r : ResolvedSpec) (t : Transition) : Option Entry := r.entry? t.comesAfter

end ResolvedSpec

end CursorSpec
