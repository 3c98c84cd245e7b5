/-
An editor: a document with cursors, and a table of commands.

Every call of a known command goes into the history, whether it succeeds or not. A call that fails leaves the document
as it was. Some commands take time: they act at once and stay busy, or they answer only after a while.
-/
import CursorSpec.Diff.Mismatch
import CursorSpec.Editor.Edit

namespace CursorSpec

inductive Handler where
  /-- replace selections by the text of a mapping -/
  | type
  /-- carets at the start of the line -/
  | lineStart
  /-- carets at the end of the line -/
  | lineEnd
  /-- carets moved right -/
  | right
  /-- carets at the start of selections; busy for a while -/
  | insertBefore
  /-- keep how selections behave in a mode -/
  | setBehavior
  /-- replace selections by one fixed text -/
  | insertMark
  /-- replace selections by the argument -/
  | insertText
  /-- answer with the arguments -/
  | noop
  | fail
  /-- answer with the text after a while -/
  | waitInput
  /-- answer with a fixed text -/
  | first
  /-- replace selections by the number of arguments -/
  | count
  deriving DecidableEq, Inhabited

structure Call where
  command : Text
  args : List Value
  deriving DecidableEq, Inhabited

structure Editor where
  state : DocState
  history : List Call
  /-- how selections behave in each mode, as far as it was set -/
  behaviors : List (Value × Value)
  commands : List (Text × Handler)
  closed : Bool
  deriving DecidableEq, Inhabited

inductive EditorFault where
  | unknownCommand (command : Text)
  /-- an entry that a mapping does not have -/
  | key (key : Text)
  /-- arguments of a wrong number or kind -/
  | type
  /-- something other than a mapping where one is asked for an entry -/
  | attribute
  /-- a line that does not exist -/
  | index
  | failed
  deriving DecidableEq, Inhabited

namespace EditorFault

/-- the message of a fault, where it has one -/
def message? : EditorFault → Option Text
  | .unknownCommand c => some ("command " ++ Text.display c ++ " is not registered")
  | .key k => some (Text.display k)
  | .failed => some "command failed"
  | .type | .attribute | .index => none

end EditorFault

/-- what a call answers: a value, or the text of the document after some milliseconds -/
inductive Reply where
  | value (v : Value)
  | textLater
  deriving DecidableEq, Inhabited

namespace Handler

/-! ## Documents after commands -/

/-- every selection moved, which may fail -/
def moved (s : DocState) (move : Selection → Except EditorFault Position) : Except EditorFault DocState := do
  return .make s.text ((← s.selections.mapM move).map .caret)

/-- the text of a command's selections, where they can be replaced -/
def replaced (s : DocState) (t : Text) : Except EditorFault DocState :=
  match s.replaceSelections? t with
  | some s => .ok s
  | none => .error .index

def lineEndOf (s : DocState) (x : Selection) : Except EditorFault Position :=
  match Text.at? (Text.lines s.text) x.active.line with
  | some l => .ok ⟨x.active.line, l.length⟩
  | none => .error .index

/-- an offset moved by a count, no further than the end; a number with a fraction is only good beyond the end -/
def movedOffset (length : Nat) (offset : Int) : Value → Except EditorFault Int
  | .bool b => .ok (min (offset + if b then 1 else 0) length)
  | .int n => .ok (min (offset + n) length)
  | .float (.infinite false) => .ok length
  | .float (.finite negative m e) =>
    let p := Binary64.powerRatio 2 e
    let x : Int := if negative then -(m * p.1 : Nat) else (m * p.1 : Nat)
    if (length - offset) * p.2 < x then .ok length else .error .type
  | _ => .error .type

/-- the place right of a selection -/
def rightOf (s : DocState) (count : Value) (x : Selection) : Except EditorFault Position :=
  match Document.offsetAt? s.text x.active with
  | none => .error .index
  | some o => do return Document.positionAt s.text (← movedOffset s.text.length o count)

def rightCount : List Value → Except EditorFault Value
  | [] => .ok (.int 1)
  | [v] =>
    if v.isEmpty then .ok (.int 1)
    else match v with
      | .dict es => .ok ((Value.lookup? (.str "count") es).getD (.int 1))
      | _ => .error .attribute
  | _ => .error .type

/-- an entry of an argument that must be a mapping -/
def entryOf (key : Text) : Value → Except EditorFault Value
  | .dict es =>
    match Value.lookup? (.str key) es with
    | some v => .ok v
    | none => .error (.key key)
  | _ => .error .type

/-- whether arguments are at most one number -/
def isWaitTime : List Value → Bool
  | [] => true
  | [v] => v.number?.isSome
  | _ => false

def onlyArgument : List Value → Except EditorFault Value
  | [v] => .ok v
  | _ => .error .type

/-- selections replaced by a value, which must be a text; without selections anything goes -/
def replacedByValue (s : DocState) : Value → Except EditorFault DocState
  | .str t => replaced s t
  | _ => do
    let r ← replaced s []
    if s.selections.isEmpty then return r else .error .type

/-- a call: the document and behaviors after it, and the answer -/
def call (h : Handler) (e : Editor) (args : List Value) : Except EditorFault (Editor × Reply) :=
  let withState (s : DocState) : Editor × Reply := ({ e with state := s }, .value .null)
  match h with
  | .type => do return withState (← replaced e.state (← entryOf "text" (← onlyArgument args)).plain)
  | .lineStart => do return withState (← moved e.state fun x => .ok ⟨x.active.line, 0⟩)
  | .lineEnd => do return withState (← moved e.state (lineEndOf e.state))
  | .right => do return withState (← moved e.state (rightOf e.state (← rightCount args)))
  | .insertBefore => do return withState (← moved e.state fun x => .ok x.start)
  | .setBehavior => do
    let v ← onlyArgument args
    let mode ← entryOf "mode" v
    let behavior ← entryOf "value" v
    if mode.isScalar then return ({ e with behaviors := Value.put mode behavior e.behaviors }, .value .null)
    else .error .type
  | .insertMark => do return withState (← replaced e.state "X")
  | .insertText => do return withState (← replacedByValue e.state (← onlyArgument args))
  | .noop => .ok (e, .value (.list args))
  | .fail => .error .failed
  | .waitInput => if isWaitTime args then .ok (e, .textLater) else .error .type
  | .first => .ok (e, .value (.str "first"))
  | .count => do return withState (← replaced e.state ('<' :: (Text.ofNat args.length ++ ['>'])))

end Handler

namespace Editor

/-- an editor on an empty document -/
def openWith (commands : List (Text × Handler)) : Editor := ⟨.plain [], [], [], commands, false⟩

def handler? (e : Editor) (command : Text) : Option Handler :=
  (e.commands.find? fun c => c.1 = command).map (·.2)

/-- a command added, or given another handler -/
def register (e : Editor) (command : Text) (h : Handler) : Editor :=
  if (e.handler? command).isSome then
    { e with commands := e.commands.map fun c => if c.1 = command then (command, h) else c }
  else { e with commands := e.commands ++ [(command, h)] }

/-- a call begun: the editor after it, and its answer -/
def start (e : Editor) (c : Call) : Editor × Except EditorFault Reply :=
  match e.handler? c.command with
  | none => (e, .error (.unknownCommand c.command))
  | some h =>
    let e := { e with history := e.history ++ [c] }
    match h.call e c.args with
    | .ok (e, r) => (e, .ok r)
    | .error f => (e, .error f)

/-- a call by itself, to its end -/
def execute (e : Editor) (c : Call) : Editor × Except EditorFault Value :=
  let (e, r) := e.start c
  (e, r.map fun
    | .value v => v
    | .textLater => .str e.state.text)

/-- the names of all commands, in order -/
def known (e : Editor) : List Text := sortBy Text.le (e.commands.map (·.1))

end Editor

/-! ## Hosts -/

/-- a host: the commands of the editors it opens, and how many it has opened -/
structure Host where
  commands : List (Text × Handler)
  opened : Nat
  deriving DecidableEq, Inhabited

namespace Host

/-- the command that every editor knows -/
def builtin : List (Text × Handler) := [("type", .type)]

/-- the commands of a small modal editor, and some that are good for tests -/
def modal : List (Text × Handler) :=
  [("dance.select.lineStart", .lineStart), ("dance.select.lineEnd", .lineEnd), ("dance.select.right", .right),
    ("dance.modes.insert.before", .insertBefore), ("dance.dev.setSelectionBehavior", .setBehavior),
    ("insert.a", .insertMark), ("insert.text", .insertText), ("dance.noop", .noop), ("fail.now", .fail),
    ("wait.input", .waitInput)]

/-- a host of modal editors -/
def standard : Host := ⟨modal, 0⟩

/-- a host of modal editors with one more command -/
def extended : Host := ⟨("my.command", .first) :: modal, 0⟩

def openEditor (h : Host) : Editor × Host := (.openWith (builtin ++ h.commands), { h with opened := h.opened + 1 })

end Host

namespace Editor

/-- the names that only one of two editors knows -/
def knownToOne (a b : Editor) : List Text :=
  sortBy Text.le ((a.known.filter fun n => !b.known.contains n) ++ b.known.filter fun n => !a.known.contains n)

end Editor

end CursorSpec
