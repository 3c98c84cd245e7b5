/-
Reading YAML: mappings and lists, by indentation or in brackets, of plain and quoted scalars, with comments.

A reader stands at a place: a column and the text from there on. A hyphen begins a list, a key a mapping, and anything
else a scalar, which may go on over deeper lines. What is in brackets or quotes may stand at any column. Every reader
takes the number of calls it may make; of two calls one inside the other at least one uses up a character, so twice
the length of the text is enough.
-/
import CursorSpec.Yaml.Scalar

namespace CursorSpec.Yaml

/-! ## Places -/

structure Place where
  column : Nat
  rest : Text
  deriving DecidableEq, Inhabited

/-- what follows spaces, line ends and comments -/
def skip (inComment : Bool) (column : Nat) : Text → Place
  | [] => ⟨column, []⟩
  | '\n' :: t => skip false 0 t
  | c :: t =>
    if inComment || c = ' ' then skip inComment (column + 1) t
    else if c = '#' then skip true (column + 1) t
    else ⟨column, c :: t⟩

def skipSpaces (t : Text) : Text := t.dropWhile (· = ' ')

/-- whether a blank or the end comes next -/
def atBlank (t : Text) : Bool := t.head?.all fun c => c = ' ' || c = '\t' || c = '\n'

/-- whether nothing but a comment follows on the line -/
def isQuiet (t : Text) : Bool := (skipSpaces t).head?.all fun c => c = '#' || c = '\n'

namespace Place

/-- the place of the next token -/
def next (p : Place) : Place := skip false p.column p.rest

/-- the place some characters further on the same line -/
def advance (p : Place) (n : Nat) : Place := ⟨p.column + n, p.rest.drop n⟩

/-- the next place on the same line that is no space -/
def afterSpaces (p : Place) : Place := p.advance (p.rest.length - (skipSpaces p.rest).length)

/-- whether an item of a list begins here -/
def atItem (p : Place) : Bool :=
  match p.rest with
  | '-' :: t => atBlank t
  | _ => false

end Place

/-- why a place at the head of a line is wrong: what cannot begin a token is no token at all -/
def faultOnLine (t : Text) : Fault :=
  match t with
  | '\t' :: _ | '@' :: _ | '\x60' :: _ | '%' :: _ => .scanner
  | _ => .parser

/-- why a place within a line is wrong: items and keys cannot begin there -/
def faultAt (t : Text) : Fault :=
  match t with
  | ':' :: u | '-' :: u | '?' :: u => if atBlank u then .scanner else .parser
  | t => faultOnLine t

/-! ## Scalars -/

def isFlowIndicator (c : Char) : Bool := c = ',' || c = '[' || c = ']' || c = '\x7b' || c = '\x7d'

/-- characters of a plain scalar up to a blank or to what ends it: in brackets also commas and question marks -/
def takeWord (flow : Bool) : Text → Text × Text
  | [] => ([], [])
  | c :: t =>
    if c = ' ' || c = '\t' || c = '\n' then ([], c :: t)
    else if c = ':' && (atBlank t || (flow && t.head?.any isFlowIndicator)) then ([], c :: t)
    else if flow && (isFlowIndicator c || c = '?') then ([], c :: t)
    else let r := takeWord flow t; (c :: r.1, r.2)

/-- a plain scalar and what follows it; outside of brackets it goes on over lines that are indented enough -/
def takePlain (flow : Bool) (least : Nat) : (fuel : Nat) → Text → Text × Text
  | 0, t => ([], t)
  | fuel + 1, t =>
    let (word, u) := takeWord flow t
    let run := u.takeWhile fun c => c = ' ' || c = '\n'
    let v := u.drop run.length
    let column := (run.reverse.takeWhile (· = ' ')).length
    let isOver := !flow && run.contains '\n' && column < least
    if word.isEmpty || run.isEmpty || v.head?.all (· = '#') || isOver then (word, u)
    else
      let r := takePlain flow least fuel v
      if r.1.isEmpty then (word, u) else (word ++ foldedRun run ++ r.1, r.2)

/-- whether a plain scalar may begin here -/
def beginsPlain (flow : Bool) : Text → Bool
  | [] => false
  | c :: t =>
    if c = '-' then !atBlank t
    else if c = '?' || c = ':' then !flow && !atBlank t
    else !isFlowIndicator c && !"\t\n#&*!|>'\"%@\x60".toList.contains c

/-- the text of a quoted scalar, if one begins here -/
def quoted? (t : Text) : Option (Except Fault (Value × Text)) :=
  let closed (r : Option (Text × Text)) : Except Fault (Value × Text) :=
    match r with
    | some r => .ok (.str r.1, r.2)
    | none => .error .scanner
  match t with
  | '\'' :: u => some (closed (singleQuoted (u.length + 1) u))
  | '\"' :: u => some (closed (doubleQuoted (u.length + 1) u))
  | _ => none

def takeScalar (flow : Bool) (least : Nat) (t : Text) : Except Fault (Value × Text) :=
  match quoted? t with
  | some r => r
  | none =>
    if beginsPlain flow t then
      let r := takePlain flow least t.length t
      .ok (plain r.1, r.2)
    else .error (faultAt t)

/-! ## Flow -/

/-- the next token in brackets -/
def skipFlow (t : Text) : Text := (skip false 0 t).rest

mutual
/-- a value in a flow -/
def flowValue : (fuel : Nat) → Text → Except Fault (Value × Text)
  | 0, _ => .error .parser
  | fuel + 1, t =>
    match skipFlow t with
    | '[' :: t => do
      let (vs, t) ← flowItems fuel t
      return (.list vs, t)
    | '\x7b' :: t => do
      let (es, t) ← flowEntries fuel [] t
      return (.dict es, t)
    | t => takeScalar true 0 t

/-- the items of a list in brackets; a pair among them is a mapping of one entry -/
def flowItems : (fuel : Nat) → Text → Except Fault (List Value × Text)
  | 0, _ => .error .parser
  | fuel + 1, t =>
    match skipFlow t with
    | ']' :: t => .ok ([], t)
    | t => do
      let (k, t) ← flowValue fuel t
      let (v, t) ← match skipFlow t with
        | ':' :: t => (flowMappedValue fuel t).map fun r => (Value.dict [(k, r.1)], r.2)
        | t => .ok (k, t)
      match skipFlow t with
      | ',' :: t => do
        let (vs, t) ← flowItems fuel t
        return (v :: vs, t)
      | ']' :: t => .ok ([v], t)
      | t => .error (faultAt t)

/-- the entries of a mapping in brackets -/
def flowEntries : (fuel : Nat) → List (Value × Value) → Text → Except Fault (List (Value × Value) × Text)
  | 0, _, _ => .error .parser
  | fuel + 1, es, t =>
    match skipFlow t with
    | '\x7d' :: t => .ok (es, t)
    | t => do
      let (k, t) ← flowValue fuel t
      let (v, t) ← match skipFlow t with
        | ':' :: t => flowMappedValue fuel t
        | t => .ok (.null, t)
      let es := Value.put k v es
      match skipFlow t with
      | ',' :: t => flowEntries fuel es t
      | '\x7d' :: t => .ok (es, t)
      | t => .error (faultAt t)

/-- the value after a colon, which may be missing -/
def flowMappedValue : (fuel : Nat) → Text → Except Fault (Value × Text)
  | 0, _ => .error .parser
  | fuel + 1, t =>
    match skipFlow t with
    | c :: u => if c = ',' || c = ']' || c = '\x7d' then .ok (.null, c :: u) else flowValue fuel (c :: u)
    | [] => .error .parser
end

/-! ## Blocks -/

/-- the key at a place, and the place after its colon; a key is on one line -/
def key? (p : Place) : Option (Value × Place) :=
  let line := p.rest.takeWhile (· ≠ '\n')
  match takeScalar false 0 line with
  | .ok (k, u) =>
    match skipSpaces u with
    | ':' :: u => if atBlank u then some (k, p.advance (line.length - u.length)) else none
    | _ => none
  | .error _ => none

/-- a value that is no list by hyphens and no mapping by keys; nothing may follow it on its last line -/
def inline (least : Nat) (p : Place) : Except Fault (Value × Place) := do
  let (v, t) ← match p.rest with
    | '[' :: _ | '\x7b' :: _ => flowValue (2 * p.rest.length + 2) p.rest
    | t => takeScalar false least t
  if isQuiet t then return (v, ⟨0, t⟩) else .error (faultAt (skipSpaces t))

mutual
/-- the value at the next token, if it is indented enough -/
def block : (fuel least : Nat) → Place → Except Fault (Value × Place)
  | 0, _, _ => .error .parser
  | fuel + 1, least, p =>
    let p := p.next
    if p.rest.isEmpty || p.column < least then .ok (.null, p)
    else if p.atItem then do
      let (vs, q) ← items fuel p.column p
      return (.list vs, q)
    else if (key? p).isSome then do
      let (es, q) ← entries fuel p.column [] p
      return (.dict es, q)
    else inline least p

/-- the items of a list at an indentation -/
def items : (fuel indent : Nat) → Place → Except Fault (List Value × Place)
  | 0, _, _ => .error .parser
  | fuel + 1, indent, p =>
    let p := p.next
    if p.rest.isEmpty || p.column < indent then .ok ([], p)
    else if indent < p.column then .error (faultOnLine p.rest)
    else if p.atItem then do
      let (v, q) ← block fuel (indent + 1) (p.advance 1)
      let (vs, q) ← items fuel indent q
      return (v :: vs, q)
    else .ok ([], p)

/-- the entries of a mapping at an indentation; a list below a key may stand at the same one -/
def entries : (fuel indent : Nat) → List (Value × Value) → Place → Except Fault (List (Value × Value) × Place)
  | 0, _, _, _ => .error .parser
  | fuel + 1, indent, es, p =>
    let p := p.next
    if p.rest.isEmpty || p.column < indent then .ok (es, p)
    else if indent < p.column then .error (faultOnLine p.rest)
    else match key? p with
      | none =>
        .error (if p.atItem || p.rest.head?.any (fun c => c = ',' || c = ']' || c = '\x7d') then .parser else .scanner)
      | some (k, q) => do
        let below := q.next
        let (v, q) ←
          if !isQuiet q.rest then inline (indent + 1) q.afterSpaces
          else if below.column = indent && below.atItem then
            (items fuel indent below).map fun r => (Value.list r.1, r.2)
          else block fuel (indent + 1) q
        entries fuel indent (Value.put k v es) q
end

/-! ## Documents -/

/-- characters that may occur -/
def isAllowed (c : Char) : Bool :=
  c = '\t' || c = '\n' || c = '\r' || (0x20 ≤ c.toNat && c.toNat ≤ 0x7e) || c.toNat = 0x85 ||
    (0xa0 ≤ c.toNat && c.toNat ≤ 0xfffd) || 0x10000 ≤ c.toNat

/-- whether a line begins with three hyphens or dots of a document's start or end -/
def isMark (mark line : Text) : Bool := Text.startsWith line mark && atBlank (line.drop 3)

/-- whether a line holds something -/
def isLoud (line : Text) : Bool := !isQuiet line

/-- the lines of the first document, and those after it -/
def firstDocument (lines : List Text) : List Text × List Text :=
  let quiet := lines.takeWhile (!isLoud ·)
  let body := match lines.drop quiet.length with
    | l :: ls => (if isMark "---" l then Text.spaces 3 ++ l.drop 3 else l) :: ls
    | [] => []
  let first := body.takeWhile fun l => !isMark "---" l && !isMark "..." l
  (first, body.drop first.length)

/-- what is wrong with the lines after the first document, if anything is -/
def faultAfter? : List Text → Option Fault
  | [] => none
  | l :: ls =>
    if isMark "---" l then some .composer
    else match ls.filter isLoud with
      | [] => none
      | m :: _ => some (if isMark "---" m then .composer else .parser)

/-- a text without the mark of its byte order -/
def withoutOrderMark (t : Text) : Text := if t.head?.any fun c => c.toNat = 0xfeff then t.drop 1 else t

def read (t : Text) : Except Fault Value :=
  let t := withoutOrderMark t
  if !t.all isAllowed then .error .reader
  else do
    let (first, after) := firstDocument (Text.lines t)
    let (v, p) ← block (2 * t.length + 2) 0 ⟨0, Text.unlines first⟩
    if !p.next.rest.isEmpty then .error (faultOnLine p.next.rest)
    else match faultAfter? after with
      | some f => .error f
      | none => return v

end CursorSpec.Yaml
