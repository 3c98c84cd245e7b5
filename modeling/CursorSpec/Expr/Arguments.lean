/-
The arguments of an operation: expressions with commas between.

`Arguments.read?` accepts exactly the texts that are such expressions: the lexemes, every string literal among them
and the grammar must be right. The fields of formatted literals are expressions of their own, and read the same way;
each is shorter than the literal it stands in, so the length of the text bounds the nesting.

`Arguments.values` evaluates literals. A name stands for nothing.

Simplified: a reader may take as much stack as it needs. Only brackets are counted, so thousands of signs before a
number are read, where a parser with a fixed stack gives up with an error of its own.
-/
import CursorSpec.Expr.Grammar

namespace CursorSpec

/-- arguments as written -/
structure Arguments where
  expressions : List Expr
  /-- whether anything written after the arguments on their line would belong to a comment -/
  endsInComment : Bool
  deriving Inhabited

namespace Expr

/-- blanks that an expression may consist of without being one -/
def isFieldBlank (c : Char) : Bool := isInlineBlank c || c = '\n'

/-- whether a string literal is well formed, given which texts are expressions -/
def isQuotationWith (accepts : Text → Bool) (q : Quotation) : Bool :=
  if q.format then
    match formatFields q.raw q.body with
    | none => false
    | some fields =>
      (fields.expressions.all fun e => !e.all isFieldBlank && accepts ('(' :: (e ++ [')']))) &&
        (q.raw || fields.literals.all fun l => (unescape true l).isSome)
  else (!q.bytes || q.body.all fun c => c.toNat < 128) && (q.raw || (unescape (!q.bytes) q.body).isSome)

/-- whether a lexeme is well formed, given which texts are expressions -/
def isLexemeWith (accepts : Text → Bool) : Lexeme → Bool
  | .quotation q => isQuotationWith accepts q
  | _ => true

/-- the arguments that a text spells, with literals nested at most `depth` deep -/
def readWithin : (depth : Nat) → Text → Option Arguments
  | 0, _ => none
  | depth + 1, t => do
    let l ← lex t
    if l.lexemes.all (isLexemeWith fun e => (readWithin depth e).isSome) then
      return ⟨← ofLexemes l.lexemes, l.endsInComment⟩
    else none

/-- why an expression has no value -/
inductive Fault where
  /-- it uses a name -/
  | name
  /-- it applies an operation to the wrong kind of value -/
  | type
  deriving DecidableEq, Inhabited

def negated : Value → Except Fault Value
  | .bool b => .ok (.int (if b then -1 else 0))
  | .int n => .ok (.int (-n))
  | .float (.finite s m e) => .ok (.float (.finite (!s) m e))
  | .float (.infinite s) => .ok (.float (.infinite (!s)))
  | .float .nan => .ok (.float .nan)
  | _ => .error .type

/-- a number as it is -/
def affirmed : Value → Except Fault Value
  | .bool b => .ok (.int (if b then 1 else 0))
  | .int n => .ok (.int n)
  | .float x => .ok (.float x)
  | _ => .error .type

/-- a mapping; a later entry replaces the value of an earlier one -/
def dictOf (entries : List (Value × Value)) : Except Fault Value :=
  if entries.all fun e => e.1.isScalar then .ok (.dict (entries.foldl (fun d e => Value.put e.1 e.2 d) []))
  else .error .type

mutual
/-- the value of a literal -/
def evaluate : Expr → Except Fault Value
  | .value v => .ok v
  | .negative e => do negated (← evaluate e)
  | .positive e => do affirmed (← evaluate e)
  | .list es | .tuple es => do return .list (← evaluateAll es)
  | .dict es => do dictOf (← evaluateEntries es)
  | .name _ | .starred _ | .place | .other => .error .name

def evaluateAll : List Expr → Except Fault (List Value)
  | [] => .ok []
  | e :: es => do
    let v ← evaluate e
    return v :: (← evaluateAll es)

def evaluateEntries : List (Expr × Expr) → Except Fault (List (Value × Value))
  | [] => .ok []
  | e :: es => do
    let k ← evaluate e.1
    let v ← evaluate e.2
    return (k, v) :: (← evaluateEntries es)
end

end Expr

namespace Arguments

def read? (t : Text) : Option Arguments := Expr.readWithin (t.length + 1) t

def values (a : Arguments) : Except Expr.Fault (List Value) := Expr.evaluateAll a.expressions

end Arguments

def Expr.isExpression (t : Text) : Bool := (Arguments.read? t).any fun a => a.expressions.length = 1

end CursorSpec
