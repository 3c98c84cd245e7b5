/-
The marker convention: how a document state is written in one text.

    |        caret
    [abc|    forward selection, anchor at the bracket and active end at the bar
    |abc]    backward selection, active end at the bar and anchor at the bracket
    \| \[ \] \\   literal characters

`tokenize` cuts a written text into characters and markers and `write` spells tokens out again, with a backslash
only where one is needed. `decode` reads the markers into selections: a closing bracket belongs to the bar right
before it, with no other marker between.
-/
import CursorSpec.Document.Basic

namespace CursorSpec

inductive Mark where
  | bar
  | opening
  | closing
  deriving DecidableEq, Inhabited

namespace Mark

def char : Mark → Char
  | .bar => '|'
  | .opening => '['
  | .closing => ']'

def ofChar? : Char → Option Mark
  | '|' => some .bar
  | '[' => some .opening
  | ']' => some .closing
  | _ => none

theorem ofChar?_char (m : Mark) : ofChar? m.char = some m := by cases m <;> rfl

end Mark

/-- a piece of a written document: a character of the text or a marker -/
inductive Token where
  | char (c : Char)
  | mark (m : Mark)
  deriving DecidableEq, Inhabited

/-- what is wrong with the markers of a written document, and where in its text -/
inductive MarkerProblem where
  | nested (here previous : Position)
  | emptyForward (here : Position)
  | unopened (here : Position)
  | emptyBackward (here : Position)
  | unclosed (anchor : Position)
  deriving DecidableEq, Inhabited

namespace MarkerProblem

def message : MarkerProblem → Text
  | .nested here previous => "nested '[' at " ++ here.text ++ " (previous '[' at " ++ previous.text ++ ")"
  | .emptyForward here => "empty selection '[|' at " ++ here.text ++ ", write a single '|'"
  | .unopened here => "']' at " ++ here.text ++ " does not follow a '|'"
  | .emptyBackward here => "empty selection '|]' at " ++ here.text ++ ", write a single '|'"
  | .unclosed anchor => "'[' at " ++ anchor.text ++ " is never closed by a '|'"

end MarkerProblem

namespace Document

/-- characters that a backslash makes literal -/
def isSpecial (c : Char) : Bool := c = '\\' || c = '|' || c = '[' || c = ']'

/-! ## Tokens -/

/-- a character that no backslash precedes -/
def tokenOf (c : Char) : Token :=
  match Mark.ofChar? c with
  | some m => .mark m
  | none => .char c

def tokenize : Text → List Token
  | [] => []
  | [c] => [tokenOf c]
  | c :: d :: t => if c = '\\' && isSpecial d then .char d :: tokenize t else tokenOf c :: tokenize (d :: t)

/-- whether a backslash before these tokens would be read as an escape -/
def needsEscape : List Token → Bool
  | [] => false
  | .mark _ :: _ => true
  | .char c :: _ => isSpecial c

/-- the written form of tokens -/
def write : List Token → Text
  | [] => []
  | .mark m :: ts => m.char :: write ts
  | .char c :: ts =>
    if (Mark.ofChar? c).isSome then '\\' :: c :: write ts
    else if c = '\\' && needsEscape ts then '\\' :: '\\' :: write ts
    else c :: write ts

def characters (ts : List Token) : Text := ts.filterMap fun
  | .char c => some c
  | .mark _ => none

/-! ## Decoding -/

/-- the state of reading markers: where reading stands, the selections so far, the open bracket and the bar that a
closing bracket may still end -/
structure Reading where
  here : Position
  selections : List Selection
  anchor : Option Position
  bar : Option Position
  deriving DecidableEq, Inhabited

namespace Reading

def initial : Reading := ⟨⟨0, 0⟩, [], none, none⟩

/-- a waiting bar becomes a caret -/
def settle (r : Reading) : Reading :=
  match r.bar with
  | none => r
  | some p => { r with selections := r.selections ++ [.caret p], bar := none }

/-- one token read -/
def step (r : Reading) : Token → Except MarkerProblem Reading
  | .char c => .ok { r with here := r.here.after c }
  | .mark .opening =>
    let r := r.settle
    match r.anchor with
    | some previous => .error (.nested r.here previous)
    | none => .ok { r with anchor := some r.here }
  | .mark .bar =>
    let r := r.settle
    match r.anchor with
    | none => .ok { r with bar := some r.here }
    | some a =>
      if a = r.here then .error (.emptyForward r.here)
      else .ok { r with selections := r.selections ++ [⟨a, r.here⟩], anchor := none }
  | .mark .closing =>
    match r.bar with
    | none => .error (.unopened r.here)
    | some p =>
      if p = r.here then .error (.emptyBackward r.here)
      else .ok { r with selections := r.selections ++ [⟨r.here, p⟩], bar := none }

/-- the selections, once everything is read -/
def finish (r : Reading) : Except MarkerProblem (List Selection) :=
  match r.anchor with
  | some a => .error (.unclosed a)
  | none => .ok r.settle.selections

end Reading

def ofTokens (ts : List Token) : Except MarkerProblem DocState := do
  let r ← ts.foldlM Reading.step Reading.initial
  return .make (characters ts) (← r.finish)

/-- a final line feed belongs to the fence, not to the document -/
def withoutFinalLineFeed (raw : Text) : Text := if raw.getLast? = some '\n' then raw.dropLast else raw

/-- the document state that a fenced block spells -/
def decode (raw : Text) : Except MarkerProblem DocState := ofTokens (tokenize (withoutFinalLineFeed raw))

end Document

end CursorSpec
