/-
Quoted texts: double quotes around, a backslash before a quote or a backslash, short escapes for the common controls
and four hexadecimal digits for the other characters below the space. Everything else stands for itself.
-/
import CursorSpec.Text.Basic

namespace CursorSpec.Text

def hexDigit (n : Nat) : Char := Nat.digitChar n

/-- one character inside quotes -/
def escape (c : Char) : Text :=
  if c = '\"' ∨ c = '\\' then ['\\', c]
  else if c = '\n' then ['\\', 'n']
  else if c = '\r' then ['\\', 'r']
  else if c = '\t' then ['\\', 't']
  else if c.toNat = 0x0c then ['\\', 'f']
  else if c.toNat = 0x08 then ['\\', 'b']
  else if c.toNat < 0x20 then ['\\', 'u', '0', '0', hexDigit (c.toNat / 16), hexDigit (c.toNat % 16)]
  else [c]

/-- a text in double quotes -/
def quote (t : Text) : Text := '\"' :: (t.flatMap escape ++ ['\"'])

/-- a text inside a triple-quoted one: backslashes and double quotes are escaped -/
def escapeInner (t : Text) : Text := t.flatMap fun c => if c = '\"' ∨ c = '\\' then ['\\', c] else [c]

end CursorSpec.Text
