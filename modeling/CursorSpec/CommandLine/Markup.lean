/-
Markup: texts with styles in square brackets, and what is left of them without the styles.

A tag begins with a lower-case letter or one of `#`, `/` and `@`; a backslash before it makes it plain text. `escape`
puts backslashes before everything that would be a tag. A tag that closes must close one that is open.
-/
import CursorSpec.Text.Basic

namespace CursorSpec.Markup

def beginsTag (c : Char) : Bool := c.isLower || c = '#' || c = '/' || c = '@'

/-- the inside of a tag at the head of a text, and what follows it -/
def tag? : Text → Option (Text × Text)
  | '[' :: c :: t =>
    let body := t.takeWhile fun d => d ≠ ']' && d ≠ '['
    match t.drop body.length with
    | ']' :: rest => if beginsTag c then some (c :: body, rest) else none
    | _ => none
  | _ => none

def backslashes (n : Nat) : Text := List.replicate n '\\'

def escapeFrom : (fuel : Nat) → Text → Text
  | 0, _ => []
  | _, [] => []
  | fuel + 1, c :: t =>
    let k := ((c :: t).takeWhile (· = '\\')).length
    let rest := (c :: t).drop k
    match tag? rest with
    | some (body, after) => backslashes (2 * k + 1) ++ '[' :: body ++ ']' :: escapeFrom fuel after
    | none => if k = 0 then c :: escapeFrom fuel t else backslashes k ++ escapeFrom fuel rest

/-- a text that shows as itself -/
def escape (t : Text) : Text := escapeFrom t.length t

/-- the open tags after a tag; `none` if it closes what is not open -/
def afterTag (opened : List Text) (body : Text) : Option (List Text) :=
  let name := body.takeWhile (· ≠ '=')
  match name with
  | '/' :: closing =>
    let closing := Text.trim (· = ' ') closing
    if closing.isEmpty then (if opened.isEmpty then none else some (opened.drop 1))
    else if opened.contains closing then some (opened.erase closing) else none
  | _ => some (Text.trim (· = ' ') name :: opened)

/-- what is shown of a text from some place on -/
def renderFrom : (fuel : Nat) → (opened : List Text) → Text → Option Text
  | 0, _, _ => some []
  | _, _, [] => some []
  | fuel + 1, opened, c :: t => do
    let k := ((c :: t).takeWhile (· = '\\')).length
    let rest := (c :: t).drop k
    match tag? rest with
    | some (body, after) =>
      if k % 2 = 1 then return backslashes (k / 2) ++ '[' :: body ++ ']' :: (← renderFrom fuel opened after)
      else return backslashes (k / 2) ++ (← renderFrom fuel (← afterTag opened body) after)
    | none =>
      if k = 0 then return c :: (← renderFrom fuel opened t)
      else return backslashes (if rest.head? = some '[' then k - 1 else k) ++ (← renderFrom fuel opened rest)

/-- controls that are not shown -/
def isDropped (c : Char) : Bool := c.toNat = 7 || c.toNat = 8 || c.toNat = 11 || c.toNat = 12 || c.toNat = 13

/-- tabs as spaces up to the next multiple of eight columns -/
def expandTabs (column : Nat) : Text → Text
  | [] => []
  | c :: t => if c = '\t' then
      let n := 8 - column % 8
      Text.spaces n ++ expandTabs (column + n) t
    else c :: expandTabs (column + 1) t

/-- a text as a terminal shows it -/
def layout (t : Text) : Text := Text.unlines ((Text.lines (t.filter (!isDropped ·))).map (expandTabs 0))

/-- what is shown of a text with markup -/
def render? (t : Text) : Option Text := (renderFrom t.length [] t).map layout

end CursorSpec.Markup
