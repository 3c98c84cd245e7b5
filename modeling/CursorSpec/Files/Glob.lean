/-
Patterns of file names: a star stands for any characters, a question mark for one, and brackets for one of a set, which
may have ranges and may be negated by an exclamation mark.

A pattern of paths has such patterns with slashes between (`components?`). Two stars alone between slashes stand for
directories at any depth; two stars next to each other in a longer name are refused.
-/
import CursorSpec.Files.Path

namespace CursorSpec.Glob

inductive Piece where
  | char (c : Char)
  | any
  | one
  | set (negated : Bool) (ranges : List (Char × Char))
  deriving DecidableEq, Inhabited

/-- the ranges of a set; a hyphen between two characters makes a range -/
def rangesOf : Text → List (Char × Char)
  | a :: '-' :: b :: t => (a, b) :: rangesOf t
  | a :: t => (a, a) :: rangesOf t
  | [] => []

/-- the set after an opening bracket, and what follows its closing one, which is not the first character -/
def takeSet (t : Text) : Option (Piece × Text) :=
  let (negated, u) := match t with
    | '!' :: u => (true, u)
    | u => (false, u)
  match u with
  | [] => none
  | c :: v =>
    (Text.cutAt? ']' v).map fun r => (.set negated (rangesOf (c :: r.1)), r.2)

def piecesFrom : (fuel : Nat) → Text → List Piece
  | 0, _ => []
  | _, [] => []
  | fuel + 1, c :: t =>
    if c = '*' then .any :: piecesFrom fuel t
    else if c = '?' then .one :: piecesFrom fuel t
    else if c = '[' then
      match takeSet t with
      | some (p, t) => p :: piecesFrom fuel t
      | none => .char c :: piecesFrom fuel t
    else .char c :: piecesFrom fuel t

def pieces (pattern : Text) : List Piece := piecesFrom pattern.length pattern

def Piece.accepts (p : Piece) (c : Char) : Bool :=
  match p with
  | .char d => c = d
  | .any | .one => true
  | .set negated rs => (rs.any fun r => r.1.toNat ≤ c.toNat && c.toNat ≤ r.2.toNat) != negated

/-- whether the pieces match all of a name -/
def matchPieces : List Piece → Text → Bool
  | [], t => t.isEmpty
  | .any :: ps, t => anySuffix (matchPieces ps) t
  | p :: ps, t =>
    match t with
    | [] => false
    | c :: t => p.accepts c && matchPieces ps t
where
  /-- whether some end of a text is accepted -/
  anySuffix (accepts : Text → Bool) : Text → Bool
    | [] => accepts []
    | c :: t => accepts (c :: t) || anySuffix accepts t

/-! ## Patterns of paths -/

/-- a step of a pattern of paths -/
inductive Component where
  /-- any number of directories down -/
  | below
  | matching (ps : List Piece)
  | named (name : Text)
  /-- a slash at the end, which only directories may have before it -/
  | slash
  deriving DecidableEq, Inhabited

def hasTwoStars : Text → Bool
  | '*' :: '*' :: _ => true
  | _ :: t => hasTwoStars t
  | [] => false

/-- whether a name in a pattern stands for itself -/
def isPlain (name : Text) : Bool := name.all fun c => c ≠ '*' && c ≠ '?' && c ≠ '['

def component? (name : Text) : Option Component :=
  if name = ['*', '*'] then some .below
  else if hasTwoStars name then none
  else some (if isPlain name then .named name else .matching (pieces name))

/-- the steps of a pattern of paths, unless it is refused -/
def components? (pattern : Text) : Option (List Component) := do
  let cs ← (Path.partsOf pattern).mapM component?
  return if pattern.getLast? = some '/' then cs ++ [.slash] else cs

end CursorSpec.Glob
