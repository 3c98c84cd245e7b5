/-
Repeating the last insert session.

Commands are recorded with the text changes that came right after them. A session begins with the last command that
switches to insert mode and ends with the first one after it that switches back. Repeating it runs the command that
began it again and then applies all its changes as often as asked for. Nothing else is asked of an editor than to run
that one command, so repeating is defined for every way of running commands (`repeatBy`).
-/
import CursorSpec.Editor.Basic

namespace CursorSpec

/-- what a recorded command does to the editor -/
structure CommandFlags where
  edit : Bool
  toInsert : Bool
  toNormal : Bool
  deriving DecidableEq, Inhabited

/-- a command as it was run, with the changes after it, if there were any -/
structure RecordedCommand where
  call : Call
  flags : CommandFlags
  changes : Option (List TextChange)
  deriving DecidableEq, Inhabited

/-- recorded commands, oldest first -/
abbrev CommandHistory := List RecordedCommand

namespace CommandHistory

def record (h : CommandHistory) (call : Call) (flags : CommandFlags) : CommandHistory := h ++ [⟨call, flags, none⟩]

/-- a change added to the last command; it is lost if there is none -/
def recordChange : CommandHistory → TextChange → CommandHistory
  | [], _ => []
  | [r], c => [{ r with changes := some (r.changes.getD [] ++ [c]) }]
  | r :: rs, c => r :: recordChange rs c

/-- the first command from an index on with some flag -/
def firstFrom (p : CommandFlags → Bool) : (index : Nat) → CommandHistory → Option Nat
  | _, [] => none
  | i, r :: rs => if p r.flags then some i else firstFrom p (i + 1) rs

def lastWith (p : CommandFlags → Bool) : (index : Nat) → CommandHistory → Option Nat
  | _, [] => none
  | i, r :: rs => lastWith p (i + 1) rs <|> if p r.flags then some i else none

/-- the commands that begin and end the last insert session -/
def session? (h : CommandHistory) : Option (Nat × Nat) := do
  let start ← lastWith (·.toInsert) 0 h
  let stop ← firstFrom (·.toNormal) (start + 1) (h.drop (start + 1))
  return (start, stop)

/-- all changes after commands, in order -/
def collect (rs : List RecordedCommand) : List TextChange := rs.flatMap fun r => r.changes.getD []

/-- how often a session is applied: once if nothing or zero is asked for, never if less -/
def repetitions (count : Option Int) : Nat :=
  match count with
  | none => 1
  | some n => if n = 0 then 1 else n.toNat

/-- the changes of a session, given by the commands that begin and end it -/
def changesOf (h : CommandHistory) (start stop : Nat) : List TextChange := collect ((h.take (stop + 1)).drop start)

/-- changes applied in an editor as often as asked for -/
def reapply (e : Editor) (changes : List TextChange) (count : Option Int) : Editor × Except EditorFault Bool :=
  match e.state.applyChanges? (List.replicate (repetitions count) changes).flatten with
  | some s => ({ e with state := s }, .ok true)
  | none => (e, .error .index)

/-- what running a command does: the editor after it, and the answer -/
abbrev Execution := Editor → Call → Editor × Except EditorFault Value

/-- a session, given by the commands that begin and end it, repeated in an editor; whether there was one -/
def replay (execute : Execution) (h : CommandHistory) (start stop : Nat) (e : Editor) (count : Option Int) :
    Editor × Except EditorFault Bool :=
  match h[start]? with
  | none => (e, .ok false)
  | some opening =>
    match execute e opening.call with
    | (e, .error f) => (e, .error f)
    | (e, .ok _) => reapply e (h.changesOf start stop) count

/-- the last session repeated in an editor that runs commands in a given way; whether there was one -/
def repeatBy (execute : Execution) (h : CommandHistory) (e : Editor) (count : Option Int) :
    Editor × Except EditorFault Bool :=
  match h.session? with
  | none => (e, .ok false)
  | some (start, stop) => h.replay execute start stop e count

/-- the last session repeated in an editor; whether there was one -/
def repeatInsert (h : CommandHistory) (e : Editor) (count : Option Int) : Editor × Except EditorFault Bool :=
  h.repeatBy Editor.execute e count

end CommandHistory

end CursorSpec
