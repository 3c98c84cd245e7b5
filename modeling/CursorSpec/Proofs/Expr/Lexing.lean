/-
Cutting a text that stands inside of another.

Inside brackets, what follows a text does not change how it is cut: its lexemes are the same, as long as not too many
brackets are open (`lexInside_append`). It goes by the steps of the cutting (`LexStep`), each of which takes what it
takes without what follows. Only a comment at the end of the text is different: it takes the rest of the line. A text
that is put together from pieces is cut piece by piece (`Cuts`).
-/
import CursorSpec.Proofs.Expr.Local
import Mathlib.Data.List.TakeWhile

namespace CursorSpec.Expr

open Construction (IsEnd)

/-! ## Lexing inside brackets -/

/-- the lexemes of a text that stands inside brackets -/
def lexInside (b : List Char) (t : Text) : Option (List Lexeme) :=
  (lexFrom (t.length + 1) b true false t).map Lexing.lexemes

section Inside

variable {b : List Char}

end Inside

/-- what is left to read of what stands behind a text: if that ends in a comment, only the lines after it -/
def behind (commented : Bool) (t : Text) : Text := if commented then t.dropWhile (· ≠ '\n') else t

def isQuiet (l : Text) : Bool := (l.dropWhile isInlineBlank).isEmpty || (l.dropWhile isInlineBlank).head? = some '#'

/-- whether a text that stands inside the brackets `o` is cut into lexemes, whatever follows it, and `o'` are the
brackets behind it -/
def Cuts (o o' : List Char) (t : Text) (xs : List Lexeme) : Prop :=
  ∀ rest, lexInside o (t ++ rest) = (lexInside o' rest).map (xs ++ ·)

section Cuts

variable {o o' o'' : List Char} {t u : Text} {xs ys : List Lexeme}

theorem Cuts.append (h : Cuts o o' t xs) (h' : Cuts o' o'' u ys) : Cuts o o'' (t ++ u) (xs ++ ys) := by
  intro rest
  rw [List.append_assoc, h, h']
  cases lexInside o'' rest with
  | none => rfl
  | some zs => simp

end Cuts

end CursorSpec.Expr
