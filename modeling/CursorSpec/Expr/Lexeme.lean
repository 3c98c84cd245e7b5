/-
Cutting the text of arguments into lexemes.

Line ends count only inside brackets, where they are blank, and at the end, where nothing but blank lines and
comments may follow. The first lexeme must not be indented on a line of its own. A lexing remembers whether the text
ends in a comment, since what is written after such a text on the same line is lost.
-/
import CursorSpec.Expr.Number
import CursorSpec.Expr.Quotation
import CursorSpec.Text.Identifier

namespace CursorSpec.Expr

/-- a word, a literal, an operator or a bracket -/
inductive Lexeme where
  | name (t : Text)
  | word (t : Text)
  | number (n : Number)
  | quotation (q : Quotation)
  | sign (t : Text)
  deriving DecidableEq, Inhabited

structure Lexing where
  lexemes : List Lexeme
  endsInComment : Bool
  deriving DecidableEq, Inhabited

/-- words with a meaning of their own -/
def keywords : List Text :=
  ["False", "None", "True", "and", "as", "assert", "async", "await", "break", "class", "continue", "def", "del", "elif",
    "else", "except", "finally", "for", "from", "global", "if", "import", "in", "is", "lambda", "nonlocal", "not", "or",
    "pass", "raise", "return", "try", "while", "with", "yield"].map String.toList

/-- operators and brackets, longer ones first -/
def signs : List Text :=
  ["**=", "//=", ">>=", "<<=", "...",
    "**", "//", ">>", "<<", "<=", ">=", "==", "!=", "->", "+=", "-=", "*=", "/=", "%=", "&=", "|=", "^=", "@=", ":=",
    "<>",
    "(", ")", "[", "]", "\x7b", "\x7d", ",", ":", ".", ";", "@", "=", "+", "-", "*", "/", "%", "&", "|", "^", "~", "<",
    ">"].map String.toList

/-- a word; beyond ASCII it must be an identifier -/
def takeName (t : Text) : Option (Lexeme × Text) :=
  let w := t.takeWhile isNameChar
  if keywords.contains w then some (.word w, t.drop w.length)
  else if w.all (fun c => c.toNat < 128) || Text.isIdentifier w then some (.name w, t.drop w.length)
  else none

/-- the longest operator or bracket -/
def takeSign (t : Text) : Option (Lexeme × Text) :=
  (signs.find? (Text.startsWith t)).map fun s => (.sign s, t.drop s.length)

/-- the lexeme at the head of a text that begins with no blank and no comment -/
def takeLexeme (t : Text) : Option (Lexeme × Text) :=
  match quotationStart? t with
  | some (n, kind) => (takeQuoted kind (t.drop n)).map fun r => (.quotation r.1, r.2)
  | none =>
    match t with
    | [] => none
    | c :: u =>
      if c.isDigit then (takeNumber t).map fun r => (.number r.1, r.2)
      else if isNameChar c then takeName t
      else if c = '.' && u.head?.any Char.isDigit then (fractionLiteral [] u).map fun r => (.number r.1, r.2)
      else takeSign t

/-- no more brackets may be open than this -/
def maxDepth : Nat := 200

/-- the open brackets after a lexeme, innermost first -/
def nest (brackets : List Char) : Lexeme → Option (List Char)
  | .sign [c] =>
    if c = '(' || c = '[' || c = '\x7b' then (if maxDepth ≤ brackets.length then none else some (c :: brackets))
    else if c = ')' || c = ']' || c = '\x7d' then
      match brackets with
      | [] => none
      | o :: os => if closes o c then some os else none
    else some brackets
  | _ => some brackets

/-- blanks inside a line -/
def isInlineBlank (c : Char) : Bool := c = ' ' || c = '\t' || c.toNat = 12

/-- the end of a lexing: blank lines and comments only -/
def quietEnd (t : Text) : Option Lexing :=
  let ls := (Text.lines t).map fun l => l.dropWhile isInlineBlank
  if ls.all fun l => l.isEmpty || l.head? = some '#' then
    some ⟨[], ls.getLast?.any fun l => l.head? = some '#'⟩
  else none

/-- the lexemes from some place on; `begun` tells whether a lexeme came before and `indented` whether a blank did on
this line -/
def lexFrom : (fuel : Nat) → (brackets : List Char) → (begun indented : Bool) → Text → Option Lexing
  | 0, _, _, _, _ => none
  | _, brackets, _, _, [] => if brackets.isEmpty then some ⟨[], false⟩ else none
  | fuel + 1, brackets, begun, indented, c :: t =>
    if c = ' ' || c = '\t' then lexFrom fuel brackets begun true t
    else if c.toNat = 12 then lexFrom fuel brackets begun false t
    else if c = '\n' then
      if begun && brackets.isEmpty then quietEnd t else lexFrom fuel brackets begun false t
    else if c = '#' then
      match t.dropWhile (· ≠ '\n') with
      | [] => if brackets.isEmpty then some ⟨[], true⟩ else none
      | u => lexFrom fuel brackets begun indented u
    else if c = '\\' then
      match t with
      | '\n' :: d :: u => lexFrom fuel brackets begun indented (d :: u)
      | _ => none
    else if !begun && indented then none
    else do
      let (x, u) ← takeLexeme (c :: t)
      let brackets ← nest brackets x
      let more ← lexFrom fuel brackets true false u
      return ⟨x :: more.lexemes, more.endsInComment⟩

/-- the lexemes of a text; `none` if it has none or ends inside of one -/
def lex (t : Text) : Option Lexing := lexFrom (t.length + 1) [] false false (Text.lineFeeds t)

end CursorSpec.Expr
