/-
The grammar of expressions, over lexemes.

Every reader takes the number of calls it may still make and the lexemes, and returns what it read with the lexemes
that follow. Each call gives its callees one less, and no reader makes more than a few calls before it takes a
lexeme, so `callsFor` is enough for every list of lexemes.

What is kept of an expression is what its use needs: the shape of literals, so that they can be evaluated, and of
the things that can be assigned to.
-/
import CursorSpec.Expr.Lexeme
import CursorSpec.Value.Basic

namespace CursorSpec

/-- an expression, as far as it can be a literal or a target -/
inductive Expr where
  | name (t : Text)
  | value (v : Value)
  | negative (e : Expr)
  | positive (e : Expr)
  | list (es : List Expr)
  | tuple (es : List Expr)
  | dict (entries : List (Expr × Expr))
  | starred (e : Expr)
  /-- an attribute or an item of something -/
  | place
  | other
  deriving Inhabited

namespace Expr

mutual
def isTarget : Expr → Bool
  | .name _ | .place => true
  | .list es | .tuple es => areTargets es
  | .starred e => isTarget e
  | _ => false

def areTargets : List Expr → Bool
  | [] => true
  | e :: es => isTarget e && areTargets es
end

def isStarred : Expr → Bool
  | .starred _ => true
  | _ => false

/-! ## Single lexemes -/

/-- what follows a word -/
def word? (w : String) : List Lexeme → Option (List Lexeme)
  | .word x :: ts => if x = w.toList then some ts else none
  | _ => none

/-- what follows an operator or bracket -/
def sign? (s : String) : List Lexeme → Option (List Lexeme)
  | .sign x :: ts => if x = s.toList then some ts else none
  | _ => none

/-- what follows one of several operators -/
def anySign? (ss : List String) (ts : List Lexeme) : Option (List Lexeme) := ss.findSome? fun s => sign? s ts

/-- whether an assignment to a name comes next -/
def isAssignment (s : String) : List Lexeme → Bool
  | .name _ :: ts => (sign? s ts).isSome
  | _ => false

/-- what follows `and` or `or` -/
def logical? (ts : List Lexeme) : Option (List Lexeme) := word? "and" ts <|> word? "or" ts

/-- what follows a comparison -/
def comparison? (ts : List Lexeme) : Option (List Lexeme) :=
  anySign? ["==", "!=", "<", ">", "<=", ">="] ts <|> word? "in" ts <|> (word? "not" ts >>= word? "in") <|>
    (word? "is" ts).map fun ts => (word? "not" ts).getD ts

/-- what follows an operator between two operands -/
def binary? (ts : List Lexeme) : Option (List Lexeme) :=
  anySign? ["|", "^", "&", "<<", ">>", "+", "-", "*", "/", "//", "%", "@"] ts

/-- whether a comprehension clause comes next -/
def beginsClause (ts : List Lexeme) : Bool := (word? "for" ts).isSome || (word? "async" ts).isSome

/-! ## Literals -/

def ofNumber : Number → Expr
  | .int n => .value (.int n)
  | .float x => .value (.float x)
  | .imaginary => .other

/-- the string literals at the head, and what follows -/
def quotations : List Lexeme → List Quotation × List Lexeme
  | .quotation q :: ts => let r := quotations ts; (q :: r.1, r.2)
  | ts => ([], ts)

/-- the text of a literal without fields -/
def quotationText (q : Quotation) : Option Text := if q.raw then some q.body else unescape (!q.bytes) q.body

/-- adjacent string literals are one; bytes and texts do not mix -/
def ofQuotations (qs : List Quotation) : Option Expr :=
  if qs.all (·.bytes) then some .other
  else if qs.any (·.bytes) then none
  else if qs.any (·.format) then some .other
  else (qs.mapM quotationText).map fun ts => .value (.str ts.flatten)

/-! ## Parameters -/

/-- how far the parameters of a function have come -/
inductive Stage where
  /-- nothing read -/
  | first
  /-- parameters without defaults, before or after the slash -/
  | plain (slash : Bool)
  /-- parameters with defaults -/
  | defaults (slash : Bool)
  /-- a star without a name, which a parameter must follow -/
  | star
  /-- parameters that must be named -/
  | named
  deriving DecidableEq, Inhabited

namespace Stage

/-- the stage after a parameter -/
def parameter (hasDefault : Bool) : Stage → Option Stage
  | .first => some (if hasDefault then .defaults false else .plain false)
  | .plain s => some (if hasDefault then .defaults s else .plain s)
  | .defaults s => if hasDefault then some (.defaults s) else none
  | .star | .named => some .named

def slash : Stage → Option Stage
  | .plain false => some (.plain true)
  | .defaults false => some (.defaults true)
  | _ => none

def allowsStar : Stage → Bool
  | .star | .named => false
  | _ => true

end Stage

/-! ## Expressions -/

/-- a parameter ends with a comma, or before the colon -/
def parameterEnd (ts : List Lexeme) : Option (List Lexeme) :=
  match sign? "," ts with
  | some ts => some ts
  | none => if (sign? ":" ts).isSome then some ts else none

mutual

/-- a function, or operands with an optional condition -/
def expression : Nat → List Lexeme → Option (Expr × List Lexeme)
  | 0, _ => none
  | n + 1, ts =>
    match word? "lambda" ts with
    | some ts => do
      let ts ← parameters n .first ts
      let (_, ts) ← expression n ts
      return (.other, ts)
    | none => do
      let (e, ts) ← chain n true ts
      match word? "if" ts with
      | none => return (e, ts)
      | some ts => do
        let (_, ts) ← chain n true ts
        let (_, ts) ← expression n (← word? "else" ts)
        return (.other, ts)

/-- operands joined by operators of every precedence; `not` may stand first and after `and` and `or` -/
def chain : Nat → (negatable : Bool) → List Lexeme → Option (Expr × List Lexeme)
  | 0, _, _ => none
  | n + 1, negatable, ts =>
    match if negatable then word? "not" ts else none with
    | some ts => do return (.other, (← chain n true ts).2)
    | none => do
      let (e, ts) ← operand n ts
      match logical? ts with
      | some ts => return (.other, (← chain n true ts).2)
      | none =>
        match comparison? ts <|> binary? ts with
        | some ts => return (.other, (← chain n false ts).2)
        | none => return (e, ts)

/-- operands joined by arithmetic operators -/
def sum : Nat → List Lexeme → Option (Expr × List Lexeme)
  | 0, _ => none
  | n + 1, ts => do
    let (e, ts) ← operand n ts
    match binary? ts with
    | some ts => return (.other, (← sum n ts).2)
    | none => return (e, ts)

/-- an operand with its signs and exponent -/
def operand : Nat → List Lexeme → Option (Expr × List Lexeme)
  | 0, _ => none
  | n + 1, ts =>
    match sign? "-" ts with
    | some ts => do
      let (e, ts) ← operand n ts
      return (.negative e, ts)
    | none =>
      match sign? "+" ts with
      | some ts => do
        let (e, ts) ← operand n ts
        return (.positive e, ts)
      | none =>
        match sign? "~" ts with
        | some ts => do return (.other, (← operand n ts).2)
        | none => do
          let (e, ts) ← match word? "await" ts with
            | some ts => (primary n ts).map fun r => (Expr.other, r.2)
            | none => primary n ts
          match sign? "**" ts with
          | some ts => return (.other, (← operand n ts).2)
          | none => return (e, ts)

/-- an atom with its attributes, calls and items -/
def primary : Nat → List Lexeme → Option (Expr × List Lexeme)
  | 0, _ => none
  | n + 1, ts => do
    let (e, ts) ← atom n ts
    trailers n e ts

def trailers : Nat → Expr → List Lexeme → Option (Expr × List Lexeme)
  | 0, _, _ => none
  | n + 1, e, ts =>
    match sign? "." ts with
    | some (.name _ :: ts) => trailers n .place ts
    | some _ => none
    | none =>
      match sign? "(" ts with
      | some ts => do trailers n .other (← arguments n 0 true ts)
      | none =>
        match sign? "[" ts with
        | some ts => do trailers n .place (← items n ts)
        | none => some (e, ts)

def atom : Nat → List Lexeme → Option (Expr × List Lexeme)
  | 0, _ => none
  | _, [] => none
  | _ + 1, .name t :: ts => some (.name t, ts)
  | _ + 1, .number x :: ts => some (ofNumber x, ts)
  | _ + 1, .word w :: ts =>
    if w = "None".toList then some (.value .null, ts)
    else if w = "True".toList then some (.value (.bool true), ts)
    else if w = "False".toList then some (.value (.bool false), ts)
    else none
  | _ + 1, .quotation q :: ts => do
    let (qs, ts) := quotations ts
    return (← ofQuotations (q :: qs), ts)
  | n + 1, .sign s :: ts =>
    if s = "...".toList then some (.other, ts)
    else if s = "(".toList then parenthesised n ts
    else if s = "[".toList then bracketed n ts
    else if s = "\x7b".toList then braced n ts
    else none

/-- what stands in a display: an expression, a starred one or, where it may, an assignment -/
def element : Nat → (assignable : Bool) → List Lexeme → Option (Expr × List Lexeme)
  | 0, _, _ => none
  | n + 1, assignable, ts =>
    match sign? "*" ts with
    | some ts => do
      let (e, ts) ← sum n ts
      return (.starred e, ts)
    | none => if assignable then assignment n ts else expression n ts

/-- an expression, or an assignment to a name -/
def assignment : Nat → List Lexeme → Option (Expr × List Lexeme)
  | 0, _ => none
  | n + 1, ts =>
    if isAssignment ":=" ts then do return (.other, (← expression n (ts.drop 2)).2) else expression n ts

/-- elements with commas between, up to a closing bracket -/
def elements : Nat → (assignable : Bool) → (closing : String) → List Lexeme → Option (List Expr × List Lexeme)
  | 0, _, _, _ => none
  | n + 1, assignable, closing, ts =>
    match sign? closing ts with
    | some ts => some ([], ts)
    | none => do
      let (e, ts) ← element n assignable ts
      match sign? "," ts with
      | some ts => do
        let (es, ts) ← elements n assignable closing ts
        return (e :: es, ts)
      | none => return ([e], ← sign? closing ts)

/-- after a round bracket: a tuple, a group, a generator or a yield -/
def parenthesised : Nat → List Lexeme → Option (Expr × List Lexeme)
  | 0, _ => none
  | n + 1, ts =>
    match sign? ")" ts with
    | some ts => some (.tuple [], ts)
    | none =>
      match word? "yield" ts with
      | some ts =>
        match word? "from" ts with
        | some ts => do
          let (_, ts) ← expression n ts
          return (.other, ← sign? ")" ts)
        | none => do return (.other, (← elements n false ")" ts).2)
      | none => do
        let (e, ts) ← element n true ts
        match sign? "," ts with
        | some ts => do
          let (es, ts) ← elements n true ")" ts
          return (.tuple (e :: es), ts)
        | none =>
          if e.isStarred then none
          else if beginsClause ts then return (.other, ← sign? ")" (← clauses n ts))
          else return (e, ← sign? ")" ts)

/-- after a square bracket: a list or a comprehension -/
def bracketed : Nat → List Lexeme → Option (Expr × List Lexeme)
  | 0, _ => none
  | n + 1, ts =>
    match sign? "]" ts with
    | some ts => some (.list [], ts)
    | none => do
      let (e, ts) ← element n true ts
      match sign? "," ts with
      | some ts => do
        let (es, ts) ← elements n true "]" ts
        return (.list (e :: es), ts)
      | none =>
        if !e.isStarred && beginsClause ts then return (.other, ← sign? "]" (← clauses n ts))
        else return (.list [e], ← sign? "]" ts)

/-- after a curly bracket: a mapping, a set or a comprehension of either -/
def braced : Nat → List Lexeme → Option (Expr × List Lexeme)
  | 0, _ => none
  | n + 1, ts =>
    if (sign? "\x7d" ts).isSome || (sign? "**" ts).isSome then do
      let (es, ts) ← entries n ts
      return ((es.map Expr.dict).getD .other, ts)
    else do
      let assigned := isAssignment ":=" ts
      let (e, us) ← element n true ts
      if !assigned && !e.isStarred && (sign? ":" us).isSome then do
        let (_, vs) ← expression n (us.drop 1)
        if beginsClause vs then return (.other, ← sign? "\x7d" (← clauses n vs))
        else do
          let (es, ts) ← entries n ts
          return ((es.map Expr.dict).getD .other, ts)
      else if !e.isStarred && beginsClause us then return (.other, ← sign? "\x7d" (← clauses n us))
      else match sign? "," us with
        | some us => do return (.other, (← elements n true "\x7d" us).2)
        | none => return (.other, ← sign? "\x7d" us)

/-- entries of a mapping, up to its bracket; no entries are kept if another mapping is unpacked among them -/
def entries : Nat → List Lexeme → Option (Option (List (Expr × Expr)) × List Lexeme)
  | 0, _ => none
  | n + 1, ts =>
    match sign? "\x7d" ts with
    | some ts => some (some [], ts)
    | none => do
      let (entry, ts) ← match sign? "**" ts with
        | some ts => (sum n ts).map fun r => (none, r.2)
        | none => (entry n ts).map fun r => (some r.1, r.2)
      match sign? "," ts with
      | some ts => do
        let (es, ts) ← entries n ts
        return ((do return (← entry) :: (← es)), ts)
      | none => return (entry.map fun e => [e], ← sign? "\x7d" ts)

def entry : Nat → List Lexeme → Option ((Expr × Expr) × List Lexeme)
  | 0, _ => none
  | n + 1, ts => do
    let (k, ts) ← expression n ts
    let (v, ts) ← expression n (← sign? ":" ts)
    return ((k, v), ts)

def clauses : Nat → List Lexeme → Option (List Lexeme)
  | 0, _ => none
  | n + 1, ts => do
    let ts ← word? "for" ((word? "async" ts).getD ts)
    let ts ← targets n ts
    let (_, ts) ← chain n true ts
    let ts ← conditions n ts
    if beginsClause ts then clauses n ts else return ts

def conditions : Nat → List Lexeme → Option (List Lexeme)
  | 0, _ => none
  | n + 1, ts =>
    match word? "if" ts with
    | some ts => do conditions n (← chain n true ts).2
    | none => some ts

/-- the targets of a clause, up to and with `in` -/
def targets : Nat → List Lexeme → Option (List Lexeme)
  | 0, _ => none
  | n + 1, ts => do
    let (e, ts) ← primary n ((sign? "*" ts).getD ts)
    if !e.isTarget then none
    else match sign? "," ts with
      | none => word? "in" ts
      | some ts => match word? "in" ts with
        | some ts => return ts
        | none => targets n ts

/-- the arguments of a call, up to its bracket: in phase 0 positional ones may come, in phase 1 starred and named
ones, in phase 2 named ones and mappings -/
def arguments : Nat → (phase : Nat) → (first : Bool) → List Lexeme → Option (List Lexeme)
  | 0, _, _, _ => none
  | n + 1, phase, first, ts =>
    let more (phase : Nat) (ts : List Lexeme) : Option (List Lexeme) :=
      match sign? "," ts with
      | some ts => arguments n phase false ts
      | none => sign? ")" ts
    match sign? ")" ts with
    | some ts => some ts
    | none =>
      match sign? "**" ts with
      | some ts => do more 2 (← expression n ts).2
      | none =>
        match sign? "*" ts with
        | some ts => if phase = 2 then none else do more phase (← expression n ts).2
        | none =>
          if isAssignment "=" ts then do more (max 1 phase) (← expression n (ts.drop 2)).2
          else if 0 < phase then none
          else do
            let (_, ts) ← assignment n ts
            if first && beginsClause ts then sign? ")" (← clauses n ts) else more 0 ts

/-- what stands in the brackets of an item: slices and expressions, at least one -/
def items : Nat → List Lexeme → Option (List Lexeme)
  | 0, _ => none
  | n + 1, ts => do
    let ts ← match sign? "*" ts with
      | some ts => (expression n ts).map (·.2)
      | none => item n ts
    match sign? "," ts with
    | none => sign? "]" ts
    | some ts => match sign? "]" ts with
      | some ts => return ts
      | none => items n ts

/-- an assignment, a slice or an expression -/
def item : Nat → List Lexeme → Option (List Lexeme)
  | 0, _ => none
  | n + 1, ts =>
    match sign? ":" ts with
    | some ts => bounds n true ts
    | none => do
      let (_, us) ← assignment n ts
      match if isAssignment ":=" ts then none else sign? ":" us with
      | some us => bounds n true us
      | none => some us

/-- the rest of a slice after a colon; a second colon may come -/
def bounds : Nat → (second : Bool) → List Lexeme → Option (List Lexeme)
  | 0, _, _ => none
  | n + 1, second, ts => do
    let ts ← if (anySign? [":", ",", "]"] ts).isSome then some ts else (expression n ts).map (·.2)
    match if second then sign? ":" ts else none with
    | some ts => bounds n false ts
    | none => return ts

/-- the parameters of a function, up to and with the colon -/
def parameters : Nat → Stage → List Lexeme → Option (List Lexeme)
  | 0, _, _ => none
  | n + 1, stage, ts =>
    match sign? ":" ts with
    | some ts => if stage = .star then none else some ts
    | none =>
      match sign? "/" ts with
      | some ts => do parameters n (← stage.slash) (← parameterEnd ts)
      | none =>
        match sign? "**" ts with
        | some (.name _ :: ts) => if stage = .star then none else do sign? ":" (← parameterEnd ts)
        | some _ => none
        | none =>
          match sign? "*" ts with
          | some ts =>
            if !stage.allowsStar then none
            else match ts with
              | .name _ :: ts => do parameters n .named (← parameterEnd ts)
              | ts => do parameters n .star (← sign? "," ts)
          | none =>
            match ts with
            | .name _ :: ts => do
              let (hasDefault, ts) ← match sign? "=" ts with
                | some ts => (expression n ts).map fun r => (true, r.2)
                | none => some (false, ts)
              parameters n (← stage.parameter hasDefault) (← parameterEnd ts)
            | _ => none

end

/-- expressions with commas between; the last comma may stand at the end -/
def expressions : Nat → List Lexeme → Option (List Expr)
  | 0, _ => none
  | n + 1, ts => do
    let (e, ts) ← expression n ts
    match ts with
    | [] => return [e]
    | ts => do
      let ts ← sign? "," ts
      if ts.isEmpty then return [e] else return e :: (← expressions n ts)

/-- calls enough to read a list of lexemes -/
def callsFor (ts : List Lexeme) : Nat := 16 * (ts.length + 2)

def ofLexemes (ts : List Lexeme) : Option (List Expr) := expressions (callsFor ts) ts

end Expr

end CursorSpec
