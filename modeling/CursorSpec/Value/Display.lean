/-
The display form of a value: what a mismatch message shows. Texts stand in quotes, single unless the text itself
holds single quotes and no double ones, and characters that are not printable are written as escapes.
-/
import CursorSpec.Number.Shortest
import CursorSpec.Text.Printable
import CursorSpec.Value.Basic

namespace CursorSpec

namespace Text

/-- hexadecimal digits, padded with zeros to a width -/
def hex (width n : Nat) : Text :=
  let d := Nat.toDigits 16 n
  List.replicate (width - d.length) '0' ++ d

/-- one character inside quotes -/
def displayChar (quote c : Char) : Text :=
  if c = quote ∨ c = '\\' then ['\\', c]
  else if c = '\n' then "\\n"
  else if c = '\r' then "\\r"
  else if c = '\t' then "\\t"
  else if isPrintable c then [c]
  else if c.toNat < 0x100 then "\\x" ++ hex 2 c.toNat
  else if c.toNat < 0x10000 then "\\u" ++ hex 4 c.toNat
  else "\\U" ++ hex 8 c.toNat

/-- the quote that a text is displayed in -/
def displayQuote (t : Text) : Char := if t.contains '\'' && !t.contains '\"' then '\"' else '\''

/-- a text in quotes -/
def display (t : Text) : Text :=
  let q := displayQuote t
  q :: (t.flatMap (displayChar q) ++ [q])

end Text

namespace Value

mutual
def display : Value → Text
  | .null => "None"
  | .bool true => "True"
  | .bool false => "False"
  | .int n => Text.ofInt n
  | .float x => x.text
  | .str t => Text.display t
  | .date t => t
  | .list vs => '[' :: (Text.join ", " (displayAll vs) ++ [']'])
  | .dict es => '\x7b' :: (Text.join ", " (displayEntries es) ++ ['\x7d'])

def displayAll : List Value → List Text
  | [] => []
  | v :: vs => display v :: displayAll vs

def displayEntries : List (Value × Value) → List Text
  | [] => []
  | e :: es => (display e.1 ++ ": " ++ display e.2) :: displayEntries es
end

/-- a value as plain text: a text as it is, anything else in its display form -/
def plain : Value → Text
  | .str t => t
  | v => v.display

end Value

end CursorSpec
