/-
Reading a spec.

`Spec.entries?` cuts the numbered lines of a source into raw entries: prose up to a header, then perhaps a
reference, body lines up to a fence, and the block up to the next fence. Nothing in a body or a block begins an
entry, so a header there is lost; the count of header lines notices. `RawEntry.read` then gives the lines of a body
their meaning, and `Spec.read` does both.
-/
import CursorSpec.Expr.Arguments
import CursorSpec.Problem
import CursorSpec.Spec.Line

namespace CursorSpec

/-- a line and its number, counted from one -/
structure NumberedLine where
  number : Nat
  text : Text
  deriving DecidableEq, Inhabited

/-- an entry as its lines -/
structure RawEntry where
  title : Text
  /-- number of the header -/
  line : Nat
  comesAfter : Option Text
  body : List NumberedLine
  block : List Text
  deriving DecidableEq, Inhabited

/-! ## Cutting a source into entries -/

/-- where reading stands -/
inductive ReadingStage where
  | prose
  /-- right below a header -/
  | headed (e : RawEntry)
  | body (e : RawEntry)
  | block (e : RawEntry)
  deriving DecidableEq, Inhabited

namespace RawEntry

def empty (title : Text) (line : Nat) : RawEntry := ⟨title, line, none, [], []⟩

/-- a line of the body, or the fence that ends it -/
def bodyLine (e : RawEntry) (l : NumberedLine) : ReadingStage :=
  if Line.isFence l.text then .block e else .body { e with body := e.body ++ [l] }

/-- the fenced content, each line with its line feed -/
def content (e : RawEntry) : Text := e.block.flatMap (· ++ ['\n'])

end RawEntry

namespace ReadingStage

/-- one line read: the entry that it closes, if any, and where reading stands then -/
def step : ReadingStage → NumberedLine → Option RawEntry × ReadingStage
  | .prose, l =>
    match Line.header? l.text with
    | some title => (none, .headed (.empty title l.number))
    | none => (none, .prose)
  | .headed e, l =>
    match Line.reference? l.text with
    | some target => (none, .body { e with comesAfter := some target })
    | none => (none, e.bodyLine l)
  | .body e, l => (none, e.bodyLine l)
  | .block e, l =>
    if Line.isFence l.text then (some e, .prose) else (none, .block { e with block := e.block ++ [l.text] })

/-- the entries of lines; `none` if the lines end inside one -/
def entries? : ReadingStage → List NumberedLine → Option (List RawEntry)
  | .prose, [] => some []
  | _, [] => none
  | stage, l :: ls =>
    match stage.step l with
    | (none, stage) => entries? stage ls
    | (some e, stage) => (entries? stage ls).map (e :: ·)

/-- A line that is no fence goes to the body. -/
theorem entries?_body_cons (e : RawEntry) {l : NumberedLine} (h : Line.isFence l.text = false)
    (ls : List NumberedLine) :
    entries? (.body e) (l :: ls) = entries? (.body { e with body := e.body ++ [l] }) ls := by
  simp only [entries?, step, RawEntry.bodyLine, h, Bool.false_eq_true, if_false]

/-- A line that is no fence goes to the block. -/
theorem entries?_block_cons (e : RawEntry) {l : NumberedLine} (h : Line.isFence l.text = false)
    (ls : List NumberedLine) :
    entries? (.block e) (l :: ls) = entries? (.block { e with block := e.block ++ [l.text] }) ls := by
  simp only [entries?, step, h, Bool.false_eq_true, if_false]

end ReadingStage

/-! ## The meaning of body lines -/

namespace RawEntry

/-- a problem in a line of an entry -/
def problemAt (l : NumberedLine) (cause : Cause) : Problem := ⟨cause, some l.number⟩

/-- the flag that a text demands -/
def flagOf? (t : Text) : Option Flag :=
  (Mode.all.flatMap fun m => Behavior.all.map fun b => (⟨m, b⟩ : Flag)).find? fun f =>
    f.mode.text ++ ".behavior <- " ++ f.behavior.text = t

def readFlags (title : Text) : List NumberedLine → Except Problem (List Flag)
  | [] => .ok []
  | l :: ls =>
    match Line.flag? l.text with
    | none => readFlags title ls
    | some t =>
      match flagOf? t with
      | none => .error (problemAt l (.unrecognizedFlag t title))
      | some f => do return f :: (← readFlags title ls)

/-- whether a line sets out to type something and is no operation -/
def isUnreadableTyping (l : NumberedLine) : Bool :=
  Line.looksLikeTyping l.text && (Line.operation? l.text).isNone

/-- an operation that types: exactly one character, and no arguments -/
def readTyping (title : Text) (l : NumberedLine) (command : Text) (args : Option Text) : Except Problem Operation :=
  let text := command.drop Line.typingStart.length
  if text.length ≠ 1 then .error (problemAt l (.typingLength command title))
  else if args.isSome then .error (problemAt l (.typingArguments command title))
  else .ok ⟨.typing, command, none, some text, some l.number⟩

/-- an operation that runs a command: its arguments must be expressions -/
def readCommand (title : Text) (l : NumberedLine) (command : Text) (args : Option Text) : Except Problem Operation :=
  if args.any fun t => t.contains (Char.ofNat 0) then .error (problemAt l (.nulArguments command title))
  else if args.all fun t => (Arguments.read? t).isSome then
    .ok ⟨if command.head? = some '.' then .namespaced else .command, command, args, none, some l.number⟩
  else .error (problemAt l (.badArguments command title))

def readOperations (title : Text) : List NumberedLine → Except Problem (List Operation)
  | [] => .ok []
  | l :: ls =>
    match Line.operation? l.text with
    | none => readOperations title ls
    | some (command, args) => do
      let read := if Text.startsWith command Line.typingStart then readTyping else readCommand
      let o ← read title l command args
      return o :: (← readOperations title ls)

/-- the entry that its lines spell: flags are read first, then what is typed, then the operations -/
def read (e : RawEntry) : Except Problem Entry := do
  let flags ← readFlags e.title e.body
  match e.comesAfter with
  | none => return .initial ⟨e.title, flags, e.content, some e.line⟩
  | some target =>
    match e.body.find? isUnreadableTyping with
    | some l => .error (problemAt l (.unreadableTyping (Text.strip l.text) e.title))
    | none => return .transition ⟨e.title, target, ← readOperations e.title e.body, flags, e.content, some e.line⟩

end RawEntry

namespace Spec

/-! ## Sources -/

/-- single line feeds, and one at the end -/
def normalizeSource (t : Text) : Text :=
  let t := Text.replacePair '\r' '\n' '\n' t
  if t.isEmpty || t.getLast? = some '\n' then t else t ++ ['\n']

/-- the numbered lines of a source that ends with a line feed -/
def numberedLines (source : Text) : List NumberedLine := (Text.lines source).dropLast.mapIdx fun i l => ⟨i + 1, l⟩

/-- how many lines look like headers -/
def countHeaders (t : Text) : Nat := (Text.lines t).countP Line.looksLikeHeader

/-- the spec of entries in the order they stand -/
def ofEntries (entries : List Entry) (headerCount : Nat) : Spec where
  initial := entries.filterMap fun
    | .initial s => some s
    | .transition _ => none
  transitions := entries.filterMap fun
    | .initial _ => none
    | .transition t => some t
  headerCount := headerCount

def read (t : Text) : Except Problem Spec := do
  let source := normalizeSource t
  let ls := numberedLines source
  match ReadingStage.entries? .prose ls with
  | none => .error ⟨.unclosedEntry, some ls.length⟩
  | some raw =>
    let entries ← raw.mapM RawEntry.read
    let headers := countHeaders source
    if headers = entries.length then return ofEntries entries headers
    else .error ⟨.entryCount headers entries.length, none⟩

end Spec

end CursorSpec
