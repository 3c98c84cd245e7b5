/-
Readers of expressions do not look past what may follow an argument.

The readers call one another, each with one call less, so what is said of them is said of all at once
(`ReadsBefore`): what each reads with some number of calls it reads with more calls too, and with a comma or a closing
bracket and whatever else behind the lexemes. It is proved reader by reader for one call more, and for all of them by
induction on the calls (`ReadsBefore.of_le`). A reader that finds nothing promises nothing: with more lexemes behind it
may find something.
-/
import CursorSpec.Proofs.Expr.Construction
import CursorSpec.Proofs.Expr.Mapping

namespace CursorSpec.Expr

open Construction (IsEnd)

/-! ## What another computation finds too -/

/-- whether what a computation finds another finds as well, changed -/
def Carries {α β : Type} (f : α → β) (a : Option α) (b : Option β) : Prop := ∀ x, a = some x → b = some (f x)

section Carries

variable {α β γ δ : Type} {f : α → β} {g : γ → δ}

theorem Carries.none {b : Option β} : Carries f none b := nofun

theorem Carries.some {x : α} : Carries f (some x) (some (f x)) := by
  intro y h
  cases h
  rfl

theorem Carries.bind {a : Option α} {b : Option β} {k : α → Option γ} {l : β → Option δ} (h : Carries f a b)
    (next : ∀ x, Carries g (k x) (l (f x))) : Carries g (a >>= k) (b >>= l) := by
  intro y hy
  obtain ⟨x, hx, hk⟩ := Option.bind_eq_some_iff.1 hy
  exact Option.bind_eq_some_iff.2 ⟨f x, h x hx, next x y hk⟩

theorem Carries.map {a : Option α} {b : Option β} {k : α → γ} {l : β → δ} (h : Carries f a b)
    (next : ∀ x, l (f x) = g (k x)) : Carries g (a.map k) (b.map l) := by
  intro y hy
  obtain ⟨x, hx, rfl⟩ := Option.map_eq_some_iff.1 hy
  exact Option.map_eq_some_iff.2 ⟨f x, h x hx, next x⟩

end Carries

/-! ## Lexemes behind others -/

/-- whether lexemes may stand behind an argument: none, or a comma or a closing bracket first -/
def Follows (rest : List Lexeme) : Prop := rest = [] ∨ ∃ d more, IsEnd d ∧ rest = .sign [d] :: more

/-- what was read, with more lexemes left -/
def leaving {α : Type} (rest : List Lexeme) (r : α × List Lexeme) : α × List Lexeme := (r.1, r.2 ++ rest)

section

variable {rest : List Lexeme}

theorem word?_append (hrest : Follows rest) (w : String) (ts : List Lexeme) :
    word? w (ts ++ rest) = (word? w ts).map (· ++ rest) := by
  cases ts with
  | nil => rcases hrest with rfl | ⟨d, more, -, rfl⟩ <;> rfl
  | cons x ts =>
    cases x <;> simp only [List.cons_append, word?, Option.map_none]
    split_ifs <;> rfl

theorem sign?_cons_append (s : String) (x : Lexeme) (ts : List Lexeme) :
    sign? s (x :: ts ++ rest) = (sign? s (x :: ts)).map (· ++ rest) := by
  cases x <;> simp only [List.cons_append, sign?, Option.map_none]
  split_ifs <;> rfl

theorem sign?_append (hrest : Follows rest) {s : String} (hs : s.toList ≠ [','] ∧ s.toList ≠ [')']) (ts : List Lexeme) :
    sign? s (ts ++ rest) = (sign? s ts).map (· ++ rest) := by
  cases ts with
  | nil =>
    rcases hrest with rfl | ⟨d, more, rfl | rfl, rfl⟩
    · rfl
    · exact if_neg (Ne.symm hs.1)
    · exact if_neg (Ne.symm hs.2)
  | cons x ts => exact sign?_cons_append s x ts

theorem carries_sign? (s : String) (ts : List Lexeme) : Carries (· ++ rest) (sign? s ts) (sign? s (ts ++ rest)) := by
  cases ts with
  | nil => exact .none
  | cons x ts =>
    rw [sign?_cons_append]
    cases sign? s (x :: ts) with
    | none => exact .none
    | some us => exact .some

theorem anySign?_cons_append (ss : List String) (x : Lexeme) (ts : List Lexeme) :
    anySign? ss (x :: ts ++ rest) = (anySign? ss (x :: ts)).map (· ++ rest) := by
  unfold anySign?
  induction ss with
  | nil => rfl
  | cons s ss ih =>
    rw [List.findSome?_cons, List.findSome?_cons, sign?_cons_append]
    cases sign? s (x :: ts) with
    | none => exact ih
    | some us => rfl

theorem anySign?_append (hrest : Follows rest) {ss : List String} (hss : ∀ s ∈ ss, s.toList ≠ [','] ∧ s.toList ≠ [')'])
    (ts : List Lexeme) : anySign? ss (ts ++ rest) = (anySign? ss ts).map (· ++ rest) := by
  unfold anySign?
  induction ss with
  | nil => rfl
  | cons s ss ih =>
    rw [List.findSome?_cons, List.findSome?_cons, sign?_append hrest (hss s List.mem_cons_self)]
    cases sign? s ts with
    | none => exact ih fun s hs => hss s (List.mem_cons_of_mem _ hs)
    | some us => rfl

theorem binary?_append (hrest : Follows rest) (ts : List Lexeme) :
    binary? (ts ++ rest) = (binary? ts).map (· ++ rest) := anySign?_append hrest (by decide) ts

theorem logical?_append (hrest : Follows rest) (ts : List Lexeme) :
    logical? (ts ++ rest) = (logical? ts).map (· ++ rest) := by
  rw [logical?, logical?, word?_append hrest, word?_append hrest]
  cases word? "and" ts <;> rfl

theorem comparison?_append (hrest : Follows rest) (ts : List Lexeme) :
    comparison? (ts ++ rest) = (comparison? ts).map (· ++ rest) := by
  have hnotIn : (word? "not" (ts ++ rest) >>= word? "in") = (word? "not" ts >>= word? "in").map (· ++ rest) := by
    rw [word?_append hrest]
    cases word? "not" ts with
    | none => rfl
    | some us => exact word?_append hrest "in" us
  have his : ((word? "is" (ts ++ rest)).map fun ts => (word? "not" ts).getD ts) =
      ((word? "is" ts).map fun ts => (word? "not" ts).getD ts).map (· ++ rest) := by
    rw [word?_append hrest]
    cases word? "is" ts with
    | none => rfl
    | some us =>
      simp only [Option.map_some, word?_append hrest]
      cases word? "not" us <;> rfl
  have hor (a b : Option (List Lexeme)) :
      (a.map (· ++ rest) <|> b.map (· ++ rest)) = (a <|> b).map (· ++ rest) := by
    cases a <;> rfl
  rw [comparison?, comparison?, anySign?_append hrest (by decide), word?_append hrest, hnotIn, his, hor, hor, hor]

theorem isAssignment_append (hrest : Follows rest) {s : String} (hs : s.toList ≠ [','] ∧ s.toList ≠ [')'])
    (ts : List Lexeme) : isAssignment s (ts ++ rest) = isAssignment s ts := by
  cases ts with
  | nil => rcases hrest with rfl | ⟨d, more, -, rfl⟩ <;> rfl
  | cons x ts =>
    cases x <;> simp only [List.cons_append, isAssignment]
    rw [sign?_append hrest hs, Option.isSome_map]

theorem drop_of_isAssignment {s : String} {ts : List Lexeme} (h : isAssignment s ts = true) :
    (ts ++ rest).drop 2 = ts.drop 2 ++ rest := by
  refine List.drop_append_of_le_length ?_
  unfold isAssignment at h
  split at h
  · next t us =>
    cases us with
    | nil => cases h
    | cons x us => simp
  · cases h

theorem beginsClause_append (hrest : Follows rest) (ts : List Lexeme) :
    beginsClause (ts ++ rest) = beginsClause ts := by
  rw [beginsClause, beginsClause, word?_append hrest, word?_append hrest, Option.isSome_map, Option.isSome_map]

theorem quotations_append (hrest : Follows rest) (ts : List Lexeme) :
    quotations (ts ++ rest) = ((quotations ts).1, (quotations ts).2 ++ rest) := by
  induction ts with
  | nil => rcases hrest with rfl | ⟨d, more, -, rfl⟩ <;> rfl
  | cons x ts ih =>
    cases x <;> simp only [List.cons_append, quotations]
    rw [ih]

theorem carries_parameterEnd (ts : List Lexeme) :
    Carries (· ++ rest) (parameterEnd ts) (parameterEnd (ts ++ rest)) := by
  cases ts with
  | nil => exact .none
  | cons x ts =>
    simp only [parameterEnd, sign?_cons_append, Option.isSome_map]
    cases sign? "," (x :: ts) with
    | some us => exact .some
    | none =>
      dsimp only [Option.map_none]
      split_ifs
      · exact .some
      · exact .none

end

/-! ## Nothing can be read of nothing -/

theorem atom_nil (n : Nat) : atom n [] = none := by cases n <;> rfl

theorem operand_nil (n : Nat) : operand n [] = none := by
  cases n with
  | zero => rfl
  | succ n =>
    cases n with
    | zero => rfl
    | succ n =>
      have hprimary : primary (n + 1) [] = none := by rw [primary, atom_nil]; rfl
      simp only [operand, sign?, word?, hprimary]
      rfl

theorem expression_nil (n : Nat) : expression n [] = none := by
  have hchain (n : Nat) : chain n true [] = none := by
    cases n with
    | zero => rfl
    | succ n => simp only [chain, word?, operand_nil]; rfl
  cases n with
  | zero => rfl
  | succ n => simp only [expression, word?, hchain]; rfl

theorem assignment_nil (n : Nat) : assignment n [] = none := by
  cases n with
  | zero => rfl
  | succ n => exact expression_nil n

theorem element_nil (n : Nat) (assignable : Bool) : element n assignable [] = none := by
  cases n with
  | zero => rfl
  | succ n => cases assignable <;> simp only [element, sign?, assignment_nil, expression_nil] <;> rfl

theorem arguments_nil (n p : Nat) (first : Bool) : arguments n p first [] = none := by
  cases n with
  | zero => rfl
  | succ n =>
    rw [arguments]
    simp only [sign?, isAssignment, assignment_nil]
    split_ifs <;> first | contradiction | rfl

/-! ## Readers with more lexemes behind -/

/-- whether every reader that may make `n` calls reads with `m` calls, and with more lexemes behind, what it reads
without -/
structure ReadsBefore (rest : List Lexeme) (n m : Nat) : Prop where
  follows : Follows rest
  expression (ts : List Lexeme) : Carries (leaving rest) (expression n ts) (expression m (ts ++ rest))
  chain (b : Bool) (ts : List Lexeme) : Carries (leaving rest) (chain n b ts) (chain m b (ts ++ rest))
  sum (ts : List Lexeme) : Carries (leaving rest) (sum n ts) (sum m (ts ++ rest))
  operand (ts : List Lexeme) : Carries (leaving rest) (operand n ts) (operand m (ts ++ rest))
  primary (ts : List Lexeme) : Carries (leaving rest) (primary n ts) (primary m (ts ++ rest))
  trailers (e : Expr) (ts : List Lexeme) : Carries (leaving rest) (trailers n e ts) (trailers m e (ts ++ rest))
  atom (ts : List Lexeme) : Carries (leaving rest) (atom n ts) (atom m (ts ++ rest))
  element (b : Bool) (ts : List Lexeme) : Carries (leaving rest) (element n b ts) (element m b (ts ++ rest))
  assignment (ts : List Lexeme) : Carries (leaving rest) (assignment n ts) (assignment m (ts ++ rest))
  elements (b : Bool) (s : String) (ts : List Lexeme) :
    Carries (leaving rest) (elements n b s ts) (elements m b s (ts ++ rest))
  parenthesised (ts : List Lexeme) : Carries (leaving rest) (parenthesised n ts) (parenthesised m (ts ++ rest))
  bracketed (ts : List Lexeme) : Carries (leaving rest) (bracketed n ts) (bracketed m (ts ++ rest))
  braced (ts : List Lexeme) : Carries (leaving rest) (braced n ts) (braced m (ts ++ rest))
  entries (ts : List Lexeme) : Carries (leaving rest) (entries n ts) (entries m (ts ++ rest))
  entry (ts : List Lexeme) : Carries (leaving rest) (entry n ts) (entry m (ts ++ rest))
  clauses (ts : List Lexeme) : Carries (· ++ rest) (clauses n ts) (clauses m (ts ++ rest))
  conditions (ts : List Lexeme) : Carries (· ++ rest) (conditions n ts) (conditions m (ts ++ rest))
  targets (ts : List Lexeme) : Carries (· ++ rest) (targets n ts) (targets m (ts ++ rest))
  arguments (p : Nat) (b : Bool) (ts : List Lexeme) :
    Carries (· ++ rest) (arguments n p b ts) (arguments m p b (ts ++ rest))
  items (ts : List Lexeme) : Carries (· ++ rest) (items n ts) (items m (ts ++ rest))
  item (ts : List Lexeme) : Carries (· ++ rest) (item n ts) (item m (ts ++ rest))
  bounds (b : Bool) (ts : List Lexeme) : Carries (· ++ rest) (bounds n b ts) (bounds m b (ts ++ rest))
  parameters (s : Stage) (ts : List Lexeme) : Carries (· ++ rest) (parameters n s ts) (parameters m s (ts ++ rest))

namespace ReadsBefore

variable {rest : List Lexeme} {n m : Nat}

section

variable (h : ReadsBefore rest n m)

include h

theorem expression_succ (ts : List Lexeme) :
    Carries (leaving rest) (Expr.expression (n + 1) ts) (Expr.expression (m + 1) (ts ++ rest)) := by
  rw [Expr.expression, Expr.expression]
  simp only [word?_append h.follows]
  cases word? "lambda" ts with
  | some us => exact (h.parameters .first us).bind fun vs => (h.expression vs).bind fun _ => .some
  | none =>
    refine (h.chain true ts).bind ?_
    rintro ⟨e, us⟩
    simp only [leaving, word?_append h.follows]
    cases word? "if" us with
    | none => exact .some
    | some vs =>
      refine (h.chain true vs).bind ?_
      rintro ⟨-, ws⟩
      simp only [leaving, word?_append h.follows]
      cases word? "else" ws with
      | none => exact .none
      | some xs => exact (h.expression xs).bind fun _ => .some

theorem chain_succ (b : Bool) (ts : List Lexeme) :
    Carries (leaving rest) (Expr.chain (n + 1) b ts) (Expr.chain (m + 1) b (ts ++ rest)) := by
  have hnot : (if b = true then word? "not" (ts ++ rest) else none) =
      (if b = true then word? "not" ts else none).map (· ++ rest) := by
    cases b with
    | false => rfl
    | true => exact word?_append h.follows "not" ts
  rw [Expr.chain, Expr.chain, hnot]
  cases (if b = true then word? "not" ts else none) with
  | some us => exact (h.chain true us).bind fun _ => .some
  | none =>
    refine (h.operand ts).bind ?_
    rintro ⟨e, us⟩
    simp only [leaving, logical?_append h.follows, comparison?_append h.follows, binary?_append h.follows]
    cases logical? us with
    | some vs => exact (h.chain true vs).bind fun _ => .some
    | none =>
      cases comparison? us with
      | some vs => exact (h.chain false vs).bind fun _ => .some
      | none =>
        cases binary? us with
        | some vs => exact (h.chain false vs).bind fun _ => .some
        | none => exact .some

theorem sum_succ (ts : List Lexeme) : Carries (leaving rest) (Expr.sum (n + 1) ts) (Expr.sum (m + 1) (ts ++ rest)) := by
  rw [Expr.sum, Expr.sum]
  refine (h.operand ts).bind ?_
  rintro ⟨e, us⟩
  simp only [leaving, binary?_append h.follows]
  cases binary? us with
  | none => exact .some
  | some vs => exact (h.sum vs).bind fun _ => .some

theorem operand_succ (ts : List Lexeme) :
    Carries (leaving rest) (Expr.operand (n + 1) ts) (Expr.operand (m + 1) (ts ++ rest)) := by
  rw [Expr.operand, Expr.operand]
  simp only [sign?_append h.follows (s := "-") (by decide), sign?_append h.follows (s := "+") (by decide),
    sign?_append h.follows (s := "~") (by decide), word?_append h.follows]
  cases sign? "-" ts with
  | some us => exact (h.operand us).bind fun _ => .some
  | none =>
    cases sign? "+" ts with
    | some us => exact (h.operand us).bind fun _ => .some
    | none =>
      cases sign? "~" ts with
      | some us => exact (h.operand us).bind fun _ => .some
      | none =>
        cases word? "await" ts
        case' some us => refine Carries.bind (f := leaving rest) ((h.primary us).map fun _ => rfl) ?_
        case' none => refine (h.primary ts).bind ?_
        all_goals
          rintro ⟨e, us⟩
          simp only [leaving, sign?_append h.follows (s := "**") (by decide)]
          cases sign? "**" us with
          | some vs => exact (h.operand vs).bind fun _ => .some
          | none => exact .some

theorem primary_succ (ts : List Lexeme) :
    Carries (leaving rest) (Expr.primary (n + 1) ts) (Expr.primary (m + 1) (ts ++ rest)) := by
  rw [Expr.primary, Expr.primary]
  exact (h.atom ts).bind fun r => h.trailers r.1 r.2

theorem trailers_succ (e : Expr) (ts : List Lexeme) :
    Carries (leaving rest) (Expr.trailers (n + 1) e ts) (Expr.trailers (m + 1) e (ts ++ rest)) := by
  rw [Expr.trailers, Expr.trailers]
  simp only [sign?_append h.follows (s := ".") (by decide), sign?_append h.follows (s := "(") (by decide),
    sign?_append h.follows (s := "[") (by decide)]
  cases sign? "." ts with
  | some us =>
    cases us with
    | nil => exact .none
    | cons x us =>
      cases x with
      | name _ => exact h.trailers .place us
      | _ => exact .none
  | none =>
    cases sign? "(" ts with
    | some us => exact (h.arguments 0 true us).bind fun vs => h.trailers .other vs
    | none =>
      cases sign? "[" ts with
      | some us => exact (h.items us).bind fun vs => h.trailers .place vs
      | none => exact .some

theorem atom_succ (ts : List Lexeme) :
    Carries (leaving rest) (Expr.atom (n + 1) ts) (Expr.atom (m + 1) (ts ++ rest)) := by
  cases ts with
  | nil => exact .none
  | cons x ts =>
    rw [List.cons_append]
    cases x with
    | name t => exact .some
    | number k => exact .some
    | word w =>
      rw [Expr.atom, Expr.atom]
      split_ifs <;> first | exact .some | exact .none
    | quotation q =>
      simp only [Expr.atom, quotations_append h.follows]
      cases ofQuotations (q :: (quotations ts).1) with
      | none => exact .none
      | some e => exact .some
    | sign s =>
      rw [Expr.atom, Expr.atom]
      split_ifs
      · exact .some
      · exact h.parenthesised ts
      · exact h.bracketed ts
      · exact h.braced ts
      · exact .none

theorem element_succ (b : Bool) (ts : List Lexeme) :
    Carries (leaving rest) (Expr.element (n + 1) b ts) (Expr.element (m + 1) b (ts ++ rest)) := by
  rw [Expr.element, Expr.element]
  simp only [sign?_append h.follows (s := "*") (by decide)]
  cases sign? "*" ts with
  | some us => exact (h.sum us).bind fun _ => .some
  | none =>
    cases b with
    | true => exact h.assignment ts
    | false => exact h.expression ts

theorem assignment_succ (ts : List Lexeme) :
    Carries (leaving rest) (Expr.assignment (n + 1) ts) (Expr.assignment (m + 1) (ts ++ rest)) := by
  rw [Expr.assignment, Expr.assignment, isAssignment_append h.follows (by decide)]
  by_cases hassign : isAssignment ":=" ts = true
  · rw [if_pos hassign, if_pos hassign, drop_of_isAssignment hassign]
    exact (h.expression _).bind fun _ => .some
  · rw [if_neg hassign, if_neg hassign]
    exact h.expression ts

theorem elements_succ (b : Bool) (s : String) (ts : List Lexeme) :
    Carries (leaving rest) (Expr.elements (n + 1) b s ts) (Expr.elements (m + 1) b s (ts ++ rest)) := by
  rw [Expr.elements, Expr.elements]
  cases ts with
  | nil => simp only [sign?, element_nil]; exact .none
  | cons x ts =>
    simp only [sign?_cons_append]
    cases sign? s (x :: ts) with
    | some us => exact .some
    | none =>
      refine (h.element b (x :: ts)).bind ?_
      rintro ⟨e, us⟩
      cases us with
      | nil => exact .none
      | cons y us =>
        simp only [leaving, sign?_cons_append]
        cases sign? "," (y :: us) with
        | some vs => exact (h.elements b s vs).bind fun _ => .some
        | none =>
          cases sign? s (y :: us) with
          | some vs => exact .some
          | none => exact .none

theorem parenthesised_succ (ts : List Lexeme) :
    Carries (leaving rest) (Expr.parenthesised (n + 1) ts) (Expr.parenthesised (m + 1) (ts ++ rest)) := by
  rw [Expr.parenthesised, Expr.parenthesised]
  cases ts with
  | nil => simp only [sign?, word?, element_nil]; exact .none
  | cons x ts =>
    simp only [sign?_cons_append, word?_append h.follows]
    cases sign? ")" (x :: ts) with
    | some us => exact .some
    | none =>
      cases word? "yield" (x :: ts) with
      | some us =>
        simp only [Option.map_some, word?_append h.follows]
        cases word? "from" us with
        | some vs => exact (h.expression vs).bind fun r => (carries_sign? ")" r.2).bind fun _ => .some
        | none => exact (h.elements false ")" us).bind fun _ => .some
      | none =>
        refine (h.element true (x :: ts)).bind ?_
        rintro ⟨e, us⟩
        cases us with
        | nil => cases e.isStarred <;> simp only [sign?] <;> exact .none
        | cons y us =>
          simp only [leaving, sign?_cons_append, beginsClause_append h.follows]
          cases sign? "," (y :: us) with
          | some vs => exact (h.elements true ")" vs).bind fun _ => .some
          | none =>
            simp only [Option.map_none]
            split_ifs
            · exact .none
            · exact (h.clauses (y :: us)).bind fun vs => (carries_sign? ")" vs).bind fun _ => .some
            · rw [← sign?_cons_append]
              exact (carries_sign? ")" (y :: us)).bind fun _ => .some

theorem bracketed_succ (ts : List Lexeme) :
    Carries (leaving rest) (Expr.bracketed (n + 1) ts) (Expr.bracketed (m + 1) (ts ++ rest)) := by
  rw [Expr.bracketed, Expr.bracketed]
  simp only [sign?_append h.follows (s := "]") (by decide)]
  cases sign? "]" ts with
  | some us => exact .some
  | none =>
    refine (h.element true ts).bind ?_
    rintro ⟨e, us⟩
    cases us with
    | nil => cases e.isStarred <;> simp only [sign?] <;> exact .none
    | cons y us =>
      simp only [leaving, sign?_cons_append, beginsClause_append h.follows]
      cases sign? "," (y :: us) with
      | some vs => exact (h.elements true "]" vs).bind fun _ => .some
      | none =>
        simp only [Option.map_none]
        split_ifs
        · exact (h.clauses (y :: us)).bind fun vs => (carries_sign? "]" vs).bind fun _ => .some
        · rw [← sign?_cons_append]
          exact (carries_sign? "]" (y :: us)).bind fun _ => .some

theorem entries_succ (ts : List Lexeme) :
    Carries (leaving rest) (Expr.entries (n + 1) ts) (Expr.entries (m + 1) (ts ++ rest)) := by
  rw [Expr.entries, Expr.entries]
  simp only [sign?_append h.follows (s := "\x7d") (by decide), sign?_append h.follows (s := "**") (by decide)]
  cases sign? "\x7d" ts with
  | some us => exact .some
  | none =>
    cases sign? "**" ts
    case' some us => refine Carries.bind (f := leaving rest) ((h.sum us).map fun _ => rfl) ?_
    case' none => refine Carries.bind (f := leaving rest) ((h.entry ts).map fun _ => rfl) ?_
    all_goals
      rintro ⟨e, us⟩
      cases us with
      | nil => exact .none
      | cons y us =>
        simp only [leaving, sign?_cons_append ","]
        cases sign? "," (y :: us) with
        | some vs => exact (h.entries vs).bind fun _ => .some
        | none => exact (carries_sign? "\x7d" (y :: us)).bind fun _ => .some

theorem entry_succ (ts : List Lexeme) :
    Carries (leaving rest) (Expr.entry (n + 1) ts) (Expr.entry (m + 1) (ts ++ rest)) := by
  rw [Expr.entry, Expr.entry]
  exact (h.expression ts).bind fun r => (carries_sign? ":" r.2).bind fun vs =>
    (h.expression vs).bind fun _ => .some

theorem braced_succ (ts : List Lexeme) :
    Carries (leaving rest) (Expr.braced (n + 1) ts) (Expr.braced (m + 1) (ts ++ rest)) := by
  rw [Expr.braced, Expr.braced]
  simp only [sign?_append h.follows (s := "\x7d") (by decide), sign?_append h.follows (s := "**") (by decide),
    Option.isSome_map, isAssignment_append h.follows (s := ":=") (by decide)]
  split_ifs
  · exact (h.entries ts).bind fun _ => .some
  · refine (h.element true ts).bind ?_
    rintro ⟨e, us⟩
    cases us with
    | nil => simp only [sign?, beginsClause, word?, Option.isSome_none, Bool.or_self, Bool.and_false]; exact .none
    | cons y us =>
      simp only [leaving, sign?_cons_append, Option.isSome_map, beginsClause_append h.follows]
      split_ifs
      · rw [List.drop_append_of_le_length (Nat.succ_le_succ (Nat.zero_le _))]
        refine (h.expression _).bind ?_
        rintro ⟨-, vs⟩
        simp only [leaving, beginsClause_append h.follows]
        split_ifs
        · exact (h.clauses vs).bind fun ws => (carries_sign? "\x7d" ws).bind fun _ => .some
        · exact (h.entries ts).bind fun _ => .some
      · exact (h.clauses (y :: us)).bind fun vs => (carries_sign? "\x7d" vs).bind fun _ => .some
      · cases sign? "," (y :: us) with
        | some vs => exact (h.elements true "\x7d" vs).bind fun _ => .some
        | none =>
          rw [← sign?_cons_append]
          exact (carries_sign? "\x7d" (y :: us)).bind fun _ => .some

theorem clauses_succ (ts : List Lexeme) :
    Carries (· ++ rest) (Expr.clauses (n + 1) ts) (Expr.clauses (m + 1) (ts ++ rest)) := by
  have hasync : (word? "async" (ts ++ rest)).getD (ts ++ rest) = (word? "async" ts).getD ts ++ rest := by
    rw [word?_append h.follows]
    cases word? "async" ts <;> rfl
  rw [Expr.clauses, Expr.clauses, hasync, word?_append h.follows]
  cases word? "for" ((word? "async" ts).getD ts) with
  | none => exact .none
  | some us =>
    refine (h.targets us).bind fun vs => (h.chain true vs).bind fun r => (h.conditions r.2).bind fun xs => ?_
    simp only [beginsClause_append h.follows]
    split_ifs
    · exact h.clauses xs
    · exact .some

theorem conditions_succ (ts : List Lexeme) :
    Carries (· ++ rest) (Expr.conditions (n + 1) ts) (Expr.conditions (m + 1) (ts ++ rest)) := by
  rw [Expr.conditions, Expr.conditions]
  simp only [word?_append h.follows]
  cases word? "if" ts with
  | some us => exact (h.chain true us).bind fun r => h.conditions r.2
  | none => exact .some

theorem targets_succ (ts : List Lexeme) :
    Carries (· ++ rest) (Expr.targets (n + 1) ts) (Expr.targets (m + 1) (ts ++ rest)) := by
  have hstar : (sign? "*" (ts ++ rest)).getD (ts ++ rest) = (sign? "*" ts).getD ts ++ rest := by
    rw [sign?_append h.follows (by decide)]
    cases sign? "*" ts <;> rfl
  rw [Expr.targets, Expr.targets, hstar]
  refine (h.primary _).bind ?_
  rintro ⟨e, us⟩
  cases htarget : e.isTarget with
  | false =>
    simp only [htarget, Bool.not_false, if_true]
    exact .none
  | true =>
    simp only [leaving, htarget, Bool.not_true, Bool.false_eq_true, if_false]
    cases us with
    | nil => exact .none
    | cons y us =>
      simp only [sign?_cons_append]
      cases sign? "," (y :: us) with
      | none =>
        have hin := word?_append h.follows "in" (y :: us)
        cases hus : word? "in" (y :: us) with
        | none => exact .none
        | some vs =>
          rw [hus] at hin
          rw [hin]
          exact .some
      | some vs =>
        simp only [Option.map_some, word?_append h.follows]
        cases word? "in" vs with
        | none => exact h.targets vs
        | some ws => exact .some

theorem arguments_succ (p : Nat) (b : Bool) (ts : List Lexeme) :
    Carries (· ++ rest) (Expr.arguments (n + 1) p b ts) (Expr.arguments (m + 1) p b (ts ++ rest)) := by
  cases ts with
  | nil =>
    rw [arguments_nil]
    exact .none
  | cons x ts =>
    rw [Expr.arguments.eq_def, Expr.arguments.eq_def (m + 1)]
    dsimp -zeta only
    extract_lets more more'
    have hmore (q : Nat) (us : List Lexeme) : Carries (· ++ rest) (more q us) (more' q (us ++ rest)) := by
      cases us with
      | nil => exact .none
      | cons y us =>
        simp only [more, more', sign?_cons_append ","]
        cases sign? "," (y :: us) with
        | some vs => exact h.arguments q false vs
        | none => exact carries_sign? ")" (y :: us)
    simp only [sign?_cons_append, sign?_append h.follows (s := "**") (by decide),
      sign?_append h.follows (s := "*") (by decide), isAssignment_append h.follows (s := "=") (by decide)]
    cases sign? ")" (x :: ts) with
    | some us => exact .some
    | none =>
      cases sign? "**" (x :: ts) with
      | some us => exact (h.expression us).bind fun r => hmore 2 r.2
      | none =>
        cases sign? "*" (x :: ts) with
        | some us =>
          simp only [Option.map_some]
          split_ifs
          · exact .none
          · exact (h.expression us).bind fun r => hmore p r.2
        | none =>
          simp only [Option.map_none]
          split_ifs with hassign
          · rw [drop_of_isAssignment hassign]
            exact (h.expression _).bind fun r => hmore (max 1 p) r.2
          · exact .none
          · refine (h.assignment (x :: ts)).bind ?_
            rintro ⟨-, vs⟩
            simp only [leaving, beginsClause_append h.follows]
            split_ifs
            · exact (h.clauses vs).bind fun ws => carries_sign? ")" ws
            · exact hmore 0 vs

theorem items_succ (ts : List Lexeme) :
    Carries (· ++ rest) (Expr.items (n + 1) ts) (Expr.items (m + 1) (ts ++ rest)) := by
  rw [Expr.items, Expr.items]
  simp only [sign?_append h.follows (s := "*") (by decide)]
  cases sign? "*" ts
  case' some us => refine Carries.bind (f := (· ++ rest)) ((h.expression us).map fun _ => rfl) fun vs => ?_
  case' none => refine (h.item ts).bind fun vs => ?_
  all_goals
    cases vs with
    | nil => exact .none
    | cons y vs =>
      rw [sign?_cons_append]
      cases sign? "," (y :: vs) with
      | none => exact carries_sign? "]" (y :: vs)
      | some ws =>
        simp only [Option.map_some, sign?_append h.follows (s := "]") (by decide)]
        cases sign? "]" ws with
        | none => exact h.items ws
        | some xs => exact .some

theorem item_succ (ts : List Lexeme) :
    Carries (· ++ rest) (Expr.item (n + 1) ts) (Expr.item (m + 1) (ts ++ rest)) := by
  rw [Expr.item, Expr.item]
  simp only [sign?_append h.follows (s := ":") (by decide), isAssignment_append h.follows (s := ":=") (by decide)]
  cases sign? ":" ts with
  | some us => exact h.bounds true us
  | none =>
    refine (h.assignment ts).bind ?_
    rintro ⟨-, us⟩
    cases isAssignment ":=" ts with
    | true => exact .some
    | false =>
      simp only [leaving, Bool.false_eq_true, if_false, sign?_append h.follows (s := ":") (by decide)]
      cases sign? ":" us with
      | some vs => exact h.bounds true vs
      | none => exact .some

theorem bounds_succ (b : Bool) (ts : List Lexeme) :
    Carries (· ++ rest) (Expr.bounds (n + 1) b ts) (Expr.bounds (m + 1) b (ts ++ rest)) := by
  have hcolon (us : List Lexeme) : (if b = true then sign? ":" (us ++ rest) else none) =
      (if b = true then sign? ":" us else none).map (· ++ rest) := by
    cases b with
    | false => rfl
    | true => exact sign?_append h.follows (by decide) us
  rw [Expr.bounds, Expr.bounds]
  cases ts with
  | nil => simp only [anySign?, sign?, expression_nil]; exact .none
  | cons x ts =>
    simp only [anySign?_cons_append, Option.isSome_map]
    cases (anySign? [":", ",", "]"] (x :: ts)).isSome
    case' true => refine Carries.bind (f := (· ++ rest)) .some fun us => ?_
    case' false => refine Carries.bind (f := (· ++ rest)) ((h.expression _).map fun _ => rfl) fun us => ?_
    all_goals
      simp only [hcolon]
      cases (if b = true then sign? ":" us else none) with
      | some vs => exact h.bounds false vs
      | none => exact .some

theorem parameters_succ (s : Stage) (ts : List Lexeme) :
    Carries (· ++ rest) (Expr.parameters (n + 1) s ts) (Expr.parameters (m + 1) s (ts ++ rest)) := by
  rw [Expr.parameters.eq_def, Expr.parameters.eq_def]
  simp only [sign?_append h.follows (s := ":") (by decide), sign?_append h.follows (s := "/") (by decide),
    sign?_append h.follows (s := "**") (by decide), sign?_append h.follows (s := "*") (by decide)]
  cases sign? ":" ts with
  | some us =>
    simp only [Option.map_some]
    split_ifs
    · exact .none
    · exact .some
  | none =>
    cases sign? "/" ts with
    | some us =>
      cases s.slash with
      | none => exact .none
      | some s' => exact (carries_parameterEnd us).bind fun vs => h.parameters s' vs
    | none =>
      cases sign? "**" ts with
      | some us =>
        cases us with
        | nil => exact .none
        | cons x us =>
          cases x with
          | name _ =>
            by_cases hstar : s = .star
            · simp only [hstar, if_true]
              exact .none
            · simp only [hstar, if_false]
              exact (carries_parameterEnd us).bind fun vs => carries_sign? ":" vs
          | _ => exact .none
      | none =>
        cases sign? "*" ts with
        | some us =>
          cases s.allowsStar with
          | false => exact .none
          | true =>
            cases us with
            | nil => exact .none
            | cons x us =>
              cases x with
              | name _ => exact (carries_parameterEnd us).bind fun vs => h.parameters .named vs
              | sign x => exact (carries_sign? "," (.sign x :: us)).bind fun vs => h.parameters .star vs
              | _ => exact .none
        | none =>
          cases ts with
          | nil => exact .none
          | cons x us =>
            cases x with
            | name _ =>
              simp only [List.cons_append, sign?_append h.follows (s := "=") (by decide)]
              cases sign? "=" us
              case' some vs => refine Carries.bind (f := leaving rest) ((h.expression vs).map fun _ => rfl) ?_
              case' none => refine Carries.bind (f := leaving rest) .some ?_
              all_goals
                rintro ⟨hasDefault, vs⟩
                cases hstage : s.parameter hasDefault with
                | none => exact .none
                | some s' =>
                  simp only [leaving, hstage]
                  exact (carries_parameterEnd vs).bind fun ws => h.parameters s' ws
            | _ => exact .none

end

/-- **Every reader reads the same with more lexemes behind**, and with more calls. -/
theorem of_le (follows : Follows rest) (hle : n ≤ m) : ReadsBefore rest n m := by
  induction n generalizing m with
  | zero =>
    exact {
      follows
      expression := fun _ => .none
      chain := fun _ _ => .none
      sum := fun _ => .none
      operand := fun _ => .none
      primary := fun _ => .none
      trailers := fun _ _ => .none
      atom := fun _ => .none
      element := fun _ _ => .none
      assignment := fun _ => .none
      elements := fun _ _ _ => .none
      parenthesised := fun _ => .none
      bracketed := fun _ => .none
      braced := fun _ => .none
      entries := fun _ => .none
      entry := fun _ => .none
      clauses := fun _ => .none
      conditions := fun _ => .none
      targets := fun _ => .none
      arguments := fun _ _ _ => .none
      items := fun _ => .none
      item := fun _ => .none
      bounds := fun _ _ => .none
      parameters := fun _ _ => .none }
  | succ n ih =>
    obtain ⟨m, rfl⟩ : ∃ k, m = k + 1 := ⟨m - 1, by omega⟩
    have h : ReadsBefore rest n m := ih (Nat.le_of_succ_le_succ hle)
    exact {
      follows
      expression := h.expression_succ
      chain := h.chain_succ
      sum := h.sum_succ
      operand := h.operand_succ
      primary := h.primary_succ
      trailers := h.trailers_succ
      atom := h.atom_succ
      element := h.element_succ
      assignment := h.assignment_succ
      elements := h.elements_succ
      parenthesised := h.parenthesised_succ
      bracketed := h.bracketed_succ
      braced := h.braced_succ
      entries := h.entries_succ
      entry := h.entry_succ
      clauses := h.clauses_succ
      conditions := h.conditions_succ
      targets := h.targets_succ
      arguments := h.arguments_succ
      items := h.items_succ
      item := h.item_succ
      bounds := h.bounds_succ
      parameters := h.parameters_succ }

end ReadsBefore

end CursorSpec.Expr
