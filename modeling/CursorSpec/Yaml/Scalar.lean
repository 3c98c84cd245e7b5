/-
Scalars of YAML: the values of plain ones by their form, and the texts of quoted ones.

Numbers may have underscores and, with colons, be of base sixty. A plain scalar that has no other form is a text.
-/
import CursorSpec.Value.Basic

namespace CursorSpec.Yaml

/-- which step of loading fails -/
inductive Fault where
  /-- a character that may not occur -/
  | reader
  /-- characters that form no token -/
  | scanner
  /-- tokens that form no document -/
  | parser
  /-- more than one document -/
  | composer
  deriving DecidableEq, Inhabited

/-! ## Plain scalars -/

def isDigitOrUnderscore (c : Char) : Bool := c.isDigit || c = '_'

/-- a sign, and what follows it -/
def signed (t : Text) : Bool × Text :=
  match t with
  | '-' :: u => (true, u)
  | '+' :: u => (false, u)
  | u => (false, u)

def digit (c : Char) : Nat :=
  if c.isDigit then c.toNat - 48 else if 'a' ≤ c then c.toNat - 87 else c.toNat - 55

/-- the number that digits spell in a base, underscores left out -/
def digits (base : Nat) (t : Text) : Nat := (t.filter (· ≠ '_')).foldl (fun n c => n * base + digit c) 0

/-- whether a part after a colon is a number below sixty -/
def isSixtieth : Text → Bool
  | [c] => c.isDigit
  | [c, d] => '0' ≤ c && c ≤ '5' && d.isDigit
  | _ => false

/-- a number of base sixty, from its parts -/
def sixty (parts : List Text) : Nat := parts.foldl (fun n p => n * 60 + digits 10 p) 0

/-- the natural number that a text spells -/
def natural? (t : Text) : Option Nat :=
  match t with
  | '0' :: 'b' :: u => if !u.isEmpty && u.all (fun c => c = '0' || c = '1' || c = '_') then some (digits 2 u) else none
  | '0' :: 'x' :: u =>
    if !u.isEmpty && u.all (fun c => isDigitOrUnderscore c || ('a' ≤ c && c ≤ 'f') || ('A' ≤ c && c ≤ 'F')) then
      some (digits 16 u)
    else none
  | ['0'] => some 0
  | '0' :: u => if u.all (fun c => c = '_' || ('0' ≤ c && c ≤ '7')) then some (digits 8 u) else none
  | c :: _ =>
    if !c.isDigit then none
    else match Text.splitOn ':' t with
      | [w] => if w.all isDigitOrUnderscore then some (digits 10 w) else none
      | w :: ps => if w.all isDigitOrUnderscore && ps.all isSixtieth then some (sixty (w :: ps)) else none
      | [] => none
  | [] => none

/-- an exponent: a letter, a sign and digits -/
def exponent? : Text → Option Int
  | [] => some 0
  | e :: s :: ds =>
    if (e = 'e' || e = 'E') && (s = '+' || s = '-') && !ds.isEmpty && ds.all Char.isDigit then
      some (if s = '-' then -(digits 10 ds : Int) else digits 10 ds)
    else none
  | _ => none

/-- a number with a point -/
def decimal? (negative : Bool) (t : Text) : Option Binary64 := do
  let (whole, after) ← Text.cutAt? '.' t
  let fraction := after.takeWhile isDigitOrUnderscore
  let e ← exponent? (after.drop fraction.length)
  let ds := fraction.filter (· ≠ '_')
  let number := Binary64.ofDecimal negative (digits 10 (whole ++ ds)) (e - ds.length)
  match whole with
  | [] => if fraction.head?.any Char.isDigit then some number else none
  | c :: _ => if c.isDigit && whole.all isDigitOrUnderscore then some number else none

/-- an infinite number or none at all -/
def special? (negative hasSign : Bool) (t : Text) : Option Binary64 :=
  if t = ".inf" ∨ t = ".Inf" ∨ t = ".INF" then some (.infinite negative)
  else if !hasSign && (t = ".nan" ∨ t = ".NaN" ∨ t = ".NAN") then some .nan
  else none

/-- the number that a text spells, if it spells one -/
def number? (t : Text) : Option Value :=
  let (negative, u) := signed t
  let hasSign := u.length < t.length
  match natural? u with
  | some n => some (.int (if negative then -(n : Int) else n))
  | none =>
    match special? negative hasSign u with
    | some x => some (.float x)
    | none => if hasSign && u.head? = some '.' then none else (decimal? negative u).map .float

def isDate (t : Text) : Bool :=
  match Text.splitOn '-' (t.take 10) with
  | [y, m, d] => t.length = 10 && y.length = 4 && m.length = 2 && d.length = 2 && (y ++ m ++ d).all Char.isDigit
  | _ => false

def nulls : List Text := ["", "~", "null", "Null", "NULL"]

def truths : List Text := ["yes", "Yes", "YES", "true", "True", "TRUE", "on", "On", "ON"]

def falsehoods : List Text := ["no", "No", "NO", "false", "False", "FALSE", "off", "Off", "OFF"]

def plain (t : Text) : Value :=
  if nulls.contains t then .null
  else if truths.contains t then .bool true
  else if falsehoods.contains t then .bool false
  else match number? t with
    | some v => v
    | none => if isDate t then .date t else .str t

/-! ## Quoted scalars -/

def isSpacing (c : Char) : Bool := c = ' ' || c = '\t' || c = '\n'

/-- what stands for a run of spacing: one line end is a space, and every further one a line end -/
def foldedRun (run : Text) : Text :=
  match run.count '\n' with
  | 0 => run
  | 1 => [' ']
  | n + 2 => List.replicate (n + 1) '\n'

/-- the rest of a text in single quotes, and what follows; `none` where it is not closed -/
def singleQuoted : (fuel : Nat) → Text → Option (Text × Text)
  | 0, _ => none
  | _, [] => none
  | fuel + 1, '\'' :: '\'' :: t => (singleQuoted fuel t).map fun r => ('\'' :: r.1, r.2)
  | _, '\'' :: t => some ([], t)
  | fuel + 1, c :: t =>
    if isSpacing c then
      let run := (c :: t).takeWhile isSpacing
      (singleQuoted fuel ((c :: t).drop run.length)).map fun r => (foldedRun run ++ r.1, r.2)
    else (singleQuoted fuel t).map fun r => (c :: r.1, r.2)

/-- the escapes of one letter -/
def escape? : Char → Option Char
  | '0' => some (Char.ofNat 0)
  | 'a' => some (Char.ofNat 7)
  | 'b' => some (Char.ofNat 8)
  | 't' | '\t' => some '\t'
  | 'n' => some '\n'
  | 'v' => some (Char.ofNat 11)
  | 'f' => some (Char.ofNat 12)
  | 'r' => some '\r'
  | 'e' => some (Char.ofNat 27)
  | ' ' => some ' '
  | '\"' => some '\"'
  | '\\' => some '\\'
  | '/' => some '/'
  | 'N' => some (Char.ofNat 0x85)
  | '_' => some (Char.ofNat 0xa0)
  | 'L' => some (Char.ofNat 0x2028)
  | 'P' => some (Char.ofNat 0x2029)
  | _ => none

/-- how many hexadecimal digits follow a letter -/
def escapeWidth? : Char → Option Nat
  | 'x' => some 2
  | 'u' => some 4
  | 'U' => some 8
  | _ => none

/-- the rest of a text in double quotes, and what follows; `none` where it is not closed or an escape is wrong -/
def doubleQuoted : (fuel : Nat) → Text → Option (Text × Text)
  | 0, _ => none
  | _, [] => none
  | _, '\"' :: t => some ([], t)
  | fuel + 1, '\\' :: '\n' :: t =>
    let run := t.takeWhile isSpacing
    (doubleQuoted fuel (t.drop run.length)).map fun r => (List.replicate (run.count '\n') '\n' ++ r.1, r.2)
  | fuel + 1, '\\' :: c :: t =>
    match escape? c, escapeWidth? c with
    | some d, _ => (doubleQuoted fuel t).map fun r => (d :: r.1, r.2)
    | none, some n =>
      let ds := t.take n
      if ds.length = n && ds.all (fun c => c.isDigit || ('a' ≤ c && c ≤ 'f') || ('A' ≤ c && c ≤ 'F')) then
        (doubleQuoted fuel (t.drop n)).map fun r => (Char.ofNat (digits 16 ds) :: r.1, r.2)
      else none
    | none, none => none
  | fuel + 1, c :: t =>
    if isSpacing c then
      let run := (c :: t).takeWhile isSpacing
      (doubleQuoted fuel ((c :: t).drop run.length)).map fun r => (foldedRun run ++ r.1, r.2)
    else (doubleQuoted fuel t).map fun r => (c :: r.1, r.2)

end CursorSpec.Yaml
