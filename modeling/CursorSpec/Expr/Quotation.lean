/-
String literals: quoted with single or double quotes, once or three times, after letters that make them raw, bytes or
formatted.

`takeQuoted` reads one from its opening quote on. `unescape` gives the text that escapes stand for and fails on
malformed ones; a backslash before any other character stands for itself. The fields of a formatted literal are read
by `formatFields`: the expressions between braces and the literal pieces around them.

Simplified: there is no table of character names. Every text that could be a name counts as one, and the character is
taken to be U+FFFD, as are halves of surrogate pairs.
-/
import CursorSpec.Text.Basic

namespace CursorSpec.Expr

/-- a string literal: how it is read and what stands between its quotes -/
structure Quotation where
  raw : Bool
  bytes : Bool
  format : Bool
  body : Text
  deriving DecidableEq, Inhabited

/-! ## Reading a literal -/

/-- the letters before a quote: each at most once, and only in the combinations that mean something -/
def quotationLetters (ls : Text) : Option Quotation :=
  let low := ls.map Char.toLower
  if low = [] ∨ low = ['u'] then some ⟨false, false, false, []⟩
  else if low = ['r'] then some ⟨true, false, false, []⟩
  else if low = ['b'] then some ⟨false, true, false, []⟩
  else if low = ['f'] then some ⟨false, false, true, []⟩
  else if low = ['b', 'r'] ∨ low = ['r', 'b'] then some ⟨true, true, false, []⟩
  else if low = ['f', 'r'] ∨ low = ['r', 'f'] then some ⟨true, false, true, []⟩
  else none

/-- the body up to a quote, and the rest; a line may not end inside -/
def takeBody (q : Char) : Text → Option (Text × Text)
  | [] => none
  | '\\' :: c :: t => (takeBody q t).map fun r => ('\\' :: c :: r.1, r.2)
  | c :: t =>
    if c = q then some ([], t)
    else if c = '\n' then none
    else (takeBody q t).map fun r => (c :: r.1, r.2)

/-- the body up to three quotes, and the rest -/
def takeLongBody (q : Char) : Text → Option (Text × Text)
  | [] => none
  | '\\' :: c :: t => (takeLongBody q t).map fun r => ('\\' :: c :: r.1, r.2)
  | c :: t =>
    if c = q && Text.startsWith t [q, q] then some ([], t.drop 2)
    else (takeLongBody q t).map fun r => (c :: r.1, r.2)

def isQuote (c : Char) : Bool := c = '\'' || c = '\"'

/-- the literal after its letters; `none` where it is not closed -/
def takeQuoted (kind : Quotation) : Text → Option (Quotation × Text)
  | q :: t =>
    if Text.startsWith t [q, q] then (takeLongBody q (t.drop 2)).map fun r => ({ kind with body := r.1 }, r.2)
    else (takeBody q t).map fun r => ({ kind with body := r.1 }, r.2)
  | [] => none

/-- how many letters stand before an opening quote, if a literal begins here -/
def quotationStart? (t : Text) : Option (Nat × Quotation) :=
  [0, 1, 2].findSome? fun n =>
    if (t.drop n).head?.any isQuote then (quotationLetters (t.take n)).map fun k => (n, k) else none

/-! ## Escapes -/

/-- the value of exactly `n` hexadecimal digits at the head of a text -/
def hexValue? (n : Nat) (t : Text) : Option Nat :=
  let ds := t.take n
  let value (c : Char) : Nat :=
    if c.isDigit then c.toNat - 48 else if c.toNat < 97 then c.toNat - 55 else c.toNat - 87
  let isHex (c : Char) : Bool := c.isDigit || ('a' ≤ c && c ≤ 'f') || ('A' ≤ c && c ≤ 'F')
  if ds.length = n && ds.all isHex then some (ds.foldl (fun v c => v * 16 + value c) 0) else none

/-- the character of a code point; a half of a pair shows as the replacement character -/
def charOf (n : Nat) : Char := if h : n.isValidChar then Char.ofNatAux n h else Char.ofNat 0xfffd

def isCharacterName (t : Text) : Bool :=
  !t.isEmpty && t.all fun c => c.isAlpha || c.isDigit || c = ' ' || c = '-'

def shortEscape? : Char → Option Char
  | '\\' => some '\\'
  | '\'' => some '\''
  | '\"' => some '\"'
  | 'a' => some (Char.ofNat 7)
  | 'b' => some (Char.ofNat 8)
  | 'f' => some (Char.ofNat 12)
  | 'n' => some '\n'
  | 'r' => some '\r'
  | 't' => some '\t'
  | 'v' => some (Char.ofNat 11)
  | _ => none

def isOctal (c : Char) : Bool := '0' ≤ c && c ≤ '7'

/-- what escapes stand for; `wide` allows the escapes of code points and names -/
def unescapeFrom (wide : Bool) : (fuel : Nat) → Text → Option Text
  | 0, _ => some []
  | _, [] => some []
  | _, ['\\'] => some ['\\']
  | fuel + 1, '\\' :: c :: t =>
    let hexEscape (n : Nat) : Option Text := do
      let v ← hexValue? n t
      if 0x110000 ≤ v then none else return charOf v :: (← unescapeFrom wide fuel (t.drop n))
    if c = '\n' then unescapeFrom wide fuel t
    else match shortEscape? c with
    | some d => (unescapeFrom wide fuel t).map (d :: ·)
    | none =>
      if isOctal c then
        let ds := (c :: t).take 3 |>.takeWhile isOctal
        let v := ds.foldl (fun v d => v * 8 + (d.toNat - 48)) 0
        (unescapeFrom wide fuel ((c :: t).drop ds.length)).map (charOf v :: ·)
      else if c = 'x' then hexEscape 2
      else if wide && c = 'u' then hexEscape 4
      else if wide && c = 'U' then hexEscape 8
      else if wide && c = 'N' then
        match t with
        | '\x7b' :: t => do
          let (name, t) ← Text.cutAt? '\x7d' t
          if isCharacterName name then return charOf 0xfffd :: (← unescapeFrom wide fuel t) else none
        | _ => none
      else (unescapeFrom wide fuel t).map fun r => '\\' :: c :: r
  | fuel + 1, c :: t => (unescapeFrom wide fuel t).map (c :: ·)

/-- what the escapes of a text stand for; `none` if one is malformed -/
def unescape (wide : Bool) (t : Text) : Option Text := unescapeFrom wide t.length t

/-! ## Formatted literals -/

/-- the pieces of a formatted literal: source texts of expressions, and literal pieces with their escapes -/
structure Fields where
  expressions : List Text
  literals : List Text
  deriving DecidableEq, Inhabited

/-- a literal piece up to a brace that stands alone, and the rest; at the top a doubled brace is a character, and a
closing brace must not stand alone -/
def takeLiteral (raw nested : Bool) : (fuel : Nat) → Text → Option (Text × Text)
  | 0, t => some ([], t)
  | _, [] => some ([], [])
  | fuel + 1, c :: t =>
    let brace (back : Text) (b : Char) (u : Text) : Option (Text × Text) :=
      if !nested && u.head? = some b then (takeLiteral raw nested fuel (u.drop 1)).map fun r => (back ++ b :: r.1, r.2)
      else if !nested && b = '\x7d' then none
      else some (back, b :: u)
    if !raw && c = '\\' then
      match t with
      | [] => some (['\\'], [])
      | d :: u =>
        if d = 'N' then
          match u with
          | [] => some (['\\', 'N'], [])
          | e :: v =>
            if e = '\x7b' then
              let name := v.takeWhile (· ≠ '\x7d')
              let rest := v.drop name.length
              (takeLiteral raw nested fuel (rest.drop 1)).map fun r =>
                ('\\' :: 'N' :: '\x7b' :: (name ++ rest.take 1 ++ r.1), r.2)
            else (takeLiteral raw nested fuel v).map fun r => ('\\' :: 'N' :: e :: r.1, r.2)
        else if d = '\x7b' || d = '\x7d' then brace ['\\'] d u
        else (takeLiteral raw nested fuel u).map fun r => ('\\' :: d :: r.1, r.2)
    else if c = '\x7b' || c = '\x7d' then brace [] c t
    else (takeLiteral raw nested fuel t).map fun r => (c :: r.1, r.2)

def closes (opening closing : Char) : Bool :=
  (opening = '(' && closing = ')') || (opening = '[' && closing = ']') || (opening = '\x7b' && closing = '\x7d')

/-- the expression of a field and what ends it: `opened` holds the brackets that are open, `quote` the quote of the
string it is inside of and whether that is a triple one -/
def takeExpression : (fuel : Nat) → (opened : List Char) → (quote : Option (Char × Bool)) → Text →
    Option (Text × Text)
  | 0, _, _, _ => none
  | _, _, _, [] => none
  | fuel + 1, opened, quote, c :: t =>
    let go (n : Nat) (opened : List Char) (quote : Option (Char × Bool)) : Option (Text × Text) :=
      (takeExpression fuel opened quote (t.drop n)).map fun r => (c :: (t.take n ++ r.1), r.2)
    if c = '\\' then none
    else match quote with
    | some (q, long) =>
      if c ≠ q then go 0 opened quote
      else if long then (if Text.startsWith t [q, q] then go 2 opened none else go 0 opened quote)
      else go 0 opened none
    | none =>
      if isQuote c then
        (if Text.startsWith t [c, c] then go 2 opened (some (c, true)) else go 0 opened (some (c, false)))
      else if c = '(' || c = '[' || c = '\x7b' then (if 200 ≤ opened.length then none else go 0 (c :: opened) none)
      else if c = '#' then none
      else if opened.isEmpty && (c = '!' || c = ':' || c = '\x7d' || c = '=' || c = '>' || c = '<') then
        if t.head? = some '=' && (c = '!' || c = '=' || c = '<' || c = '>') then go 1 opened none
        else if c = '>' || c = '<' then go 0 opened none
        else some ([], c :: t)
      else if c = ')' || c = ']' || c = '\x7d' then
        match opened with
        | [] => none
        | o :: os => if closes o c then go 0 os none else none
      else go 0 opened none

/-- what follows the expression of a field: an equals sign, a conversion; the rest begins the format or ends the field -/
def afterExpression (t : Text) : Option Text := do
  let t := match t with
    | '=' :: u => u.dropWhile fun c => c = ' ' || c = '\t' || c = '\n' || c.toNat = 11 || c.toNat = 12 || c = '\r'
    | u => u
  match t with
  | '!' :: c :: u => if c = 's' || c = 'r' || c = 'a' then some u else none
  | '!' :: [] => none
  | u => some u

/-- fields and pieces from some place on, inside `level` formats; the rest is empty or begins with a closing brace -/
def fieldsFrom (raw : Bool) : (fuel level : Nat) → Text → Option (Fields × Text)
  | 0, _, _ => none
  | fuel + 1, level, t => do
    let (lit, t) ← takeLiteral raw (0 < level) t.length t
    match t with
    | '\x7b' :: t =>
      if 2 ≤ level then none
      else
        let (e, t) ← takeExpression (t.length + 1) [] none t
        let t ← afterExpression t
        let (format, t) ← match t with
          | ':' :: t => if t.isEmpty then none else fieldsFrom raw fuel (level + 1) t
          | t => some (⟨[], []⟩, t)
        match t with
        | '\x7d' :: t =>
          let (more, t) ← fieldsFrom raw fuel level t
          return (⟨e :: (format.expressions ++ more.expressions), lit :: (format.literals ++ more.literals)⟩, t)
        | _ => none
    | t => some (⟨[], [lit]⟩, t)

/-- the fields of a formatted literal; `none` if its braces are malformed -/
def formatFields (raw : Bool) (body : Text) : Option Fields :=
  match fieldsFrom raw (body.length + 1) 0 body with
  | some (fields, []) => some fields
  | _ => none

end CursorSpec.Expr
