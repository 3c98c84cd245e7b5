/-
What an expression builds that is made of literals, tuples and calls of the constructors of documents.

The readers go through the text of the expression from the left, and return what is built together with the text behind
it. Inside brackets a line may end anywhere between lexemes. Adjacent string literals are one, a bracketed expression is
a tuple if a comma stands in it, and integers are decimal, of any length. Every reader takes the number of calls that it
may still make and gives its callees one less. No three calls come after each other without a character between them
that was taken, so three times the length of a text is enough for it.
-/
import CursorSpec.Document.Basic
import CursorSpec.Expr.Grammar

namespace CursorSpec

/-- what an expression builds -/
inductive Built where
  | text (t : Text)
  | int (n : Int)
  | tuple (xs : List Built)
  | selection (x : Selection)
  | state (s : DocState)
  deriving Inhabited

/-- an argument: its name, if it has one, and what it builds -/
structure Built.Argument where
  name : Option Text
  value : Built
  deriving Inhabited

namespace Built

def selection? : Built → Option Selection
  | .selection x => some x
  | _ => none

/-- what an argument without a name builds -/
def Argument.unnamed? (a : Argument) : Option Built := if a.name.isNone then some a.value else none

/-- an empty selection, by its line and character -/
def caret? (xs : List Argument) : Option Built := do
  match ← xs.mapM Argument.unnamed? with
  | [.int l, .int c] => some (.selection (.caret ⟨l, c⟩))
  | _ => none

/-- a selection, by the line and the character of its anchor and of its active end -/
def span? (xs : List Argument) : Option Built := do
  match ← xs.mapM Argument.unnamed? with
  | [.int l, .int c, .int m, .int d] => some (.selection ⟨⟨l, c⟩, ⟨m, d⟩⟩)
  | _ => none

/-- a state, by its text and its selections, if it has any -/
def state? : List Argument → Option Built
  | [⟨some a, .text t⟩] => if a = "text".toList then some (.state (.make t [])) else none
  | [⟨some a, .text t⟩, ⟨some b, .tuple xs⟩] =>
    if a = "text".toList ∧ b = "selections".toList then (xs.mapM selection?).map fun ss => .state (.make t ss) else none
  | _ => none

def call? (path : List Text) (xs : List Argument) : Option Built :=
  if path = ["Selection".toList, "caret".toList] then caret? xs
  else if path = ["Selection".toList, "span".toList] then span? xs
  else if path = ["DocumentState".toList] then state? xs
  else none

end Built

namespace Expr.Construction

/-- whether a character is nothing between lexemes; inside brackets, line ends are -/
def isGap (inside : Bool) (c : Char) : Bool := isInlineBlank c || (inside && c = '\n')

/-- what follows the blanks at the head -/
def skip (inside : Bool) (t : Text) : Text := t.dropWhile (isGap inside)

/-- an integer literal: digits with no zero before them, and no fraction, exponent or letter behind them -/
def integer? (t : Text) : Option (Nat × Text) := do
  let (ds, t) ← takeDigits 10 t
  if ds.head? = some '0' && ds.any (· ≠ '0') then none
  else if t.head? = some '.' || !endsNumber t then none
  else some (digitsValue 10 ds, t)

/-- further literals behind a string literal -/
def literals (inside : Bool) : Nat → Text → List Quotation × Text
  | 0, t => ([], t)
  | n + 1, t =>
    match takeLexeme (skip inside t) with
    | some (.quotation q, u) => ((literals inside n u).1.cons q, (literals inside n u).2)
    | _ => ([], t)

/-- what adjacent literals stand for -/
def textOf? (qs : List Quotation) : Option Built :=
  match ofQuotations qs with
  | some (.value (.str t)) => some (.text t)
  | _ => none

/-- names behind dots -/
def attributes : Nat → Text → List Text × Text
  | n + 1, '.' :: t =>
    match takeLexeme t with
    | some (.name w, u) => ((attributes n u).1.cons w, (attributes n u).2)
    | _ => ([], '.' :: t)
  | _, t => ([], t)

/-- the name that an argument is given, if it is given one, and its expression -/
def named (t : Text) : Option Text × Text :=
  match takeLexeme t with
  | some (.name w, '=' :: u) => (some w, skip true u)
  | _ => (none, t)

mutual

/-- an expression; its first lexeme begins the text -/
def expression (inside : Bool) : Nat → Text → Option (Built × Text)
  | 0, _ => none
  | _, [] => none
  | n + 1, c :: t =>
    if c = '-' then
      match expression inside n (skip inside t) with
      | some (.int k, u) => some (.int (-k), u)
      | _ => none
    else if c = '(' then group n (skip true t)
    else if c.isDigit then (integer? (c :: t)).map fun r => (.int r.1, r.2)
    else match takeLexeme (c :: t) with
      | some (.quotation q, u) =>
        (textOf? (q :: (literals inside n u).1)).map fun x => (x, (literals inside n u).2)
      | some (.name w, u) => call n (w :: (attributes n u).1) (attributes n u).2
      | _ => none

/-- what follows the names of a call -/
def call : Nat → (path : List Text) → Text → Option (Built × Text)
  | n + 1, path, '(' :: t => do
    let r ← arguments n (skip true t)
    return (← Built.call? path r.1, r.2)
  | _, _, _ => none

/-- what follows an opening bracket: an expression, or a tuple of some -/
def group : Nat → Text → Option (Built × Text)
  | 0, _ => none
  | _, [] => none
  | n + 1, c :: t =>
    if c = ')' then some (.tuple [], t)
    else do
      let r ← expression true n (c :: t)
      match skip true r.2 with
      | ')' :: u => some (r.1, u)
      | ',' :: u => do
        let s ← arguments n (skip true u)
        return (.tuple (r.1 :: (← s.1.mapM Built.Argument.unnamed?)), s.2)
      | _ => none

/-- arguments with commas between, up to a closing bracket; a comma may stand before it -/
def arguments : Nat → Text → Option (List Built.Argument × Text)
  | 0, _ => none
  | _, [] => none
  | n + 1, c :: t =>
    if c = ')' then some ([], t)
    else do
      let r ← expression true n (named (c :: t)).2
      match skip true r.2 with
      | ')' :: u => some ([⟨(named (c :: t)).1, r.1⟩], u)
      | ',' :: u => do
        let s ← arguments n (skip true u)
        return (⟨(named (c :: t)).1, r.1⟩ :: s.1, s.2)
      | _ => none

end

/-- the expression at the head of a text, whatever its line ends are -/
def read? (t : Text) : Option (Built × Text) := expression false (3 * (t.length + 1)) (Text.lineFeeds t)

end Expr.Construction

end CursorSpec
