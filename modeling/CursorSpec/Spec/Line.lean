/-
The lines that mean something in a spec.

    # Title                       header of an entry
    [text](#target)               reference to the entry it comes after, right below the header
    > mode.behavior <- caret      flag
    - command arguments           operation
    - type:x                      operation that types a character
    ```                           fence

Which of them a line can be depends on where it stands; the readers here look at one line only.
-/
import CursorSpec.Spec.Basic
import CursorSpec.Text.Blank
import CursorSpec.Text.Word

namespace CursorSpec.Line

def headerStart : Text := "# "

/-- whether a line looks like a header; one that is nothing else heads no entry -/
def looksLikeHeader (l : Text) : Bool := Text.startsWith l headerStart

/-- the title that a header gives, with its blanks made hyphens -/
def titleOf (t : Text) : Text := Text.hyphenate (Text.strip t)

def header? (l : Text) : Option Text := do
  let t ← Text.afterStart? headerStart l
  if t.isEmpty then none else some (titleOf t)

/-- whether a line opens or closes a block -/
def isFence (l : Text) : Bool := l = ['\x60', '\x60', '\x60']

/-- the target in what follows the opening bracket and one character: after the first `](#`, and up to a final `)` -/
def targetAfter? : Text → Option Text
  | [] => none
  | c :: t =>
    match Text.afterStart? "](#" (c :: t) with
    | some u => if 2 ≤ u.length && u.getLast? = some ')' then some u.dropLast else none
    | none => targetAfter? t

def reference? : Text → Option Text
  | '[' :: _ :: t => targetAfter? t
  | _ => none

def flag? : Text → Option Text
  | '>' :: c :: t => some (Text.strip (c :: t))
  | _ => none

def typingStart : Text := "type:"

/-- what follows the hyphen and its spaces in an operation line -/
def afterHyphen? : Text → Option Text
  | '-' :: t => some (t.dropWhile (· = ' '))
  | _ => none

/-- characters of command names -/
def isCommandChar (c : Char) : Bool := Text.isWord c || c = '.' || c = ':'

/-- what follows a command: nothing, or spaces and arguments, which may be blank -/
def argumentsAfter? : Text → Option (Option Text)
  | [] => some none
  | ' ' :: c :: t =>
    let args := Text.strip (c :: t)
    some (if args.isEmpty then none else some args)
  | _ => none

/-- a command and its arguments -/
def command? (t : Text) : Option (Text × Option Text) := do
  let name := t.takeWhile isCommandChar
  if name.isEmpty then none
  return (name, ← argumentsAfter? (t.drop name.length))

/-- a typed character and what follows it -/
def typed? (t : Text) : Option (Text × Option Text) := do
  match ← Text.afterStart? typingStart t with
  | c :: u => if Text.isBlank c then none else return (typingStart ++ [c], ← argumentsAfter? u)
  | [] => none

def operation? (l : Text) : Option (Text × Option Text) := do
  let t ← afterHyphen? l
  typed? t <|> command? t

/-- whether a line sets out to type something -/
def looksLikeTyping (l : Text) : Bool := (afterHyphen? l).any fun t => Text.startsWith t typingStart

end CursorSpec.Line
