/-
How calls are read.

The arguments of a call are read as they are read by themselves, up to the closing bracket (`arguments_of_expressions`):
with the bracket behind, each of them is read the same, and none of them can be taken for a name that a value is given
to, or for a star. So what is called, with such arguments in brackets, is an expression, and can be waited for
(`expression_call`).
-/
import CursorSpec.Expr.Arguments
import CursorSpec.Proofs.Expr.Reading

namespace CursorSpec.Expr

/-! ## What cannot begin an expression -/

theorem eq_cons_of_sign? {s : String} {ts us : List Lexeme} (h : sign? s ts = some us) :
    ts = .sign s.toList :: us := by
  unfold sign? at h
  split at h
  · split_ifs at h with hx
    cases h
    rw [hx]
  · cases h

theorem expression_eq_none {ts : List Lexeme} (starts : StartsAtom ts) (h : ∀ n, atom n ts = none) (n : Nat) :
    expression n ts = none := by
  obtain ⟨hword, hminus, hplus, htilde⟩ := starts
  have hprimary (n : Nat) : primary n ts = none := by
    cases n with
    | zero => rfl
    | succ n => rw [primary, h]; rfl
  have hoperand (n : Nat) : operand n ts = none := by
    cases n with
    | zero => rfl
    | succ n => simp only [operand, hminus, hplus, htilde, hword, hprimary]; rfl
  have hchain (n : Nat) : chain n true ts = none := by
    cases n with
    | zero => rfl
    | succ n => simp only [chain, hword, hoperand]; rfl
  cases n with
  | zero => rfl
  | succ n => simp only [expression, hword, hchain]; rfl

/-- No expression begins with a closing bracket or a star. -/
theorem sign?_of_expression {n : Nat} {ts : List Lexeme} {r : Expr × List Lexeme} (h : expression n ts = some r)
    {s : String} (hs : s = ")" ∨ s = "*" ∨ s = "**") : sign? s ts = none := by
  cases hsign : sign? s ts with
  | none => rfl
  | some us =>
    obtain rfl := eq_cons_of_sign? hsign
    have hatom (n : Nat) : atom n (.sign s.toList :: us) = none := by
      rcases hs with rfl | rfl | rfl <;> cases n <;> rfl
    have hstarts : StartsAtom (.sign s.toList :: us) := by
      rcases hs with rfl | rfl | rfl <;> exact ⟨fun _ => rfl, rfl, rfl, rfl⟩
    rw [expression_eq_none hstarts hatom] at h
    cases h

theorem expression_mono {n m : Nat} (hle : n ≤ m) {ts us : List Lexeme} {e : Expr}
    (h : expression n ts = some (e, us)) : expression m ts = some (e, us) := by
  have hread := (ReadsBefore.of_le (Or.inl rfl) hle).expression ts _ h
  rwa [leaving, List.append_nil, List.append_nil] at hread

/-- A name that is assigned to is no expression with a comma or nothing behind it. -/
theorem isAssignment_of_expression {n : Nat} {ts us : List Lexeme} {e : Expr} (h : expression n ts = some (e, us))
    (ends : us = [] ∨ ∃ vs, us = .sign [','] :: vs) {s : String} (hs : s = "=" ∨ s = ":=") :
    isAssignment s ts = false := by
  by_contra hassign
  rw [Bool.not_eq_false] at hassign
  unfold isAssignment at hassign
  split at hassign
  · next t vs =>
    obtain ⟨ws, hws⟩ := Option.isSome_iff_exists.1 hassign
    obtain rfl := eq_cons_of_sign? hws
    have hname : expression (n + 6) (.name t :: .sign s.toList :: ws) = some (.name t, .sign s.toList :: ws) := by
      refine expression_of_atom rfl ⟨fun _ => rfl, rfl, rfl, rfl⟩ ?_
      rcases hs with rfl | rfl <;> exact ⟨⟨rfl, rfl, rfl⟩, ⟨rfl, rfl, rfl⟩, rfl⟩
    cases (expression_mono (Nat.le_add_right n 6) h).symm.trans hname
    rcases ends with hnil | ⟨_, hcomma⟩
    · cases hnil
    · rcases hs with rfl | rfl <;> cases hcomma
  · cases hassign

/-! ## The arguments of a call -/

/-- the lexemes left behind the arguments that follow one which is read -/
def argumentsBehind (n : Nat) (ts : List Lexeme) : Option (List Lexeme) :=
  (sign? "," ts).elim (sign? ")" ts) (arguments n 0 false)

/-- One argument is read, and the others after the comma. -/
theorem arguments_of_expression {n m : Nat} (hle : n ≤ m) {ts us : List Lexeme} {e : Expr}
    (h : expression n ts = some (e, us)) (ends : us = [] ∨ ∃ vs, us = .sign [','] :: vs) (first : Bool)
    (rest : List Lexeme) :
    arguments (m + 2) 0 first (ts ++ .sign [')'] :: rest) =
      argumentsBehind (m + 1) (us ++ .sign [')'] :: rest) := by
  have hfollows : Follows (.sign [')'] :: rest) := Or.inr ⟨_, _, Or.inr rfl, rfl⟩
  have hread : expression m (ts ++ .sign [')'] :: rest) = some (e, us ++ .sign [')'] :: rest) :=
    (ReadsBefore.of_le hfollows hle).expression ts _ h
  have hends : beginsClause (us ++ .sign [')'] :: rest) = false := by
    rcases ends with rfl | ⟨vs, rfl⟩ <;> rfl
  cases ts with
  | nil => rw [expression_nil] at h; cases h
  | cons x ts =>
    have hassignment : assignment (m + 1) (x :: ts ++ .sign [')'] :: rest) = some (e, us ++ .sign [')'] :: rest) := by
      rw [assignment, isAssignment_append hfollows (by decide), isAssignment_of_expression h ends (Or.inr rfl),
        if_neg Bool.false_ne_true, hread]
    rw [arguments]
    simp only [sign?_cons_append, sign?_of_expression h (Or.inl rfl), sign?_of_expression h (Or.inr (Or.inl rfl)),
      sign?_of_expression h (Or.inr (Or.inr rfl)), Option.map_none, isAssignment_append hfollows (s := "=") (by decide),
      isAssignment_of_expression h ends (Or.inl rfl), hassignment, hends, Bool.and_false, Bool.false_eq_true, if_false,
      Nat.lt_irrefl, Option.bind_eq_bind, Option.bind_some, argumentsBehind]
    cases sign? "," (us ++ .sign [')'] :: rest) <;> rfl

/-- **Arguments in brackets are read up to the closing bracket.** -/
theorem arguments_of_expressions {n m : Nat} (hlt : n < m) {ts : List Lexeme} {es : List Expr}
    (h : expressions n ts = some es) (first : Bool) (rest : List Lexeme) :
    arguments m 0 first (ts ++ .sign [')'] :: rest) = some rest := by
  induction n generalizing m ts es first with
  | zero => cases h
  | succ n ih =>
    obtain ⟨m, rfl⟩ : ∃ k, m = k + 2 := ⟨m - 2, by omega⟩
    obtain ⟨⟨e, us⟩, he, h⟩ := Option.bind_eq_some_iff.1 h
    have hle : n ≤ m := by omega
    cases us with
    | nil => exact arguments_of_expression hle he (Or.inl rfl) first rest
    | cons x us =>
      obtain ⟨vs, hvs, h⟩ := Option.bind_eq_some_iff.1 h
      obtain ⟨rfl, rfl⟩ := List.cons.inj (eq_cons_of_sign? hvs)
      rw [arguments_of_expression hle he (Or.inr ⟨_, rfl⟩) first rest]
      change arguments (m + 1) 0 false (us ++ .sign [')'] :: rest) = some rest
      split_ifs at h with hempty
      · obtain rfl := List.isEmpty_iff.1 hempty
        rfl
      · obtain ⟨es', hes, -⟩ := Option.bind_eq_some_iff.1 h
        exact ih (by omega) hes false

/-! ## Calls -/

def callLexemes (callee arguments : List Lexeme) : List Lexeme := callee ++ .sign ['('] :: (arguments ++ [.sign [')']])

/-- what is called: a name, or an attribute of one -/
inductive IsCallee : List Lexeme → Prop where
  | name (f : Text) : IsCallee [.name f]
  | member (x f : Text) : IsCallee [.name x, .sign ['.'], .name f]

theorem primary_call {callee : List Lexeme} (hcallee : IsCallee callee) {n m : Nat} (hle : n + 5 ≤ m)
    {ts : List Lexeme} {es : List Expr} (h : expressions n ts = some es) {rest : List Lexeme}
    (ends : EndsExpression rest) : primary m (callLexemes callee ts ++ rest) = some (.other, rest) := by
  obtain ⟨hpoint, hcall, hitem⟩ := ends.untrailed
  have hbrackets {k : Nat} (hlt : n < k) (e : Expr) :
      trailers (k + 1) e (.sign ['('] :: (ts ++ .sign [')'] :: rest)) = some (.other, rest) := by
    obtain ⟨k, rfl⟩ : ∃ j, k = j + 1 := ⟨k - 1, by omega⟩
    have harguments := arguments_of_expressions hlt h true rest
    have hopen (us : List Lexeme) : trailers (k + 2) e (.sign ['('] :: us) =
        arguments (k + 1) 0 true us >>= trailers (k + 1) .other := rfl
    rw [hopen, harguments, Option.bind_eq_bind, Option.bind_some, trailers]
    simp only [hpoint, hcall, hitem]
  have hsplit : callLexemes callee ts ++ rest = callee ++ .sign ['('] :: (ts ++ .sign [')'] :: rest) := by
    simp [callLexemes]
  obtain ⟨k, rfl⟩ : ∃ j, m = j + 4 := ⟨m - 4, by omega⟩
  rw [hsplit]
  cases hcallee with
  | name f => exact hbrackets (by omega) (.name f)
  | member x f => exact hbrackets (by omega) .place

theorem operand_await {ts us : List Lexeme} {e : Expr} {n : Nat} (h : primary n ts = some (e, us))
    (ends : EndsExpression us) : operand (n + 1) (.word "await".toList :: ts) = some (.other, us) := by
  have hword : word? "await" (.word "await".toList :: ts) = some ts := rfl
  have hsign (s : String) : sign? s (.word "await".toList :: ts) = none := rfl
  simp only [operand, hsign, hword, h, Option.map_some, Option.bind_eq_bind, Option.bind_some, ends.unjoined.1]
  rfl

/-- **A call is an expression**, and so is one that is waited for. -/
theorem expression_call {callee : List Lexeme} (hcallee : IsCallee callee) {n m : Nat} (hle : n + 8 ≤ m)
    {ts : List Lexeme} {es : List Expr} (h : expressions n ts = some es) {rest : List Lexeme}
    (ends : EndsExpression rest) :
    expression m (callLexemes callee ts ++ rest) = some (.other, rest) ∧
      expression m (.word "await".toList :: (callLexemes callee ts ++ rest)) = some (.other, rest) := by
  obtain ⟨k, rfl⟩ : ∃ j, m = j + 3 := ⟨m - 3, by omega⟩
  have hstarts : StartsAtom (callLexemes callee ts ++ rest) := by
    cases hcallee <;> exact ⟨fun _ => rfl, rfl, rfl, rfl⟩
  have hcall : primary k (callLexemes callee ts ++ rest) = some (.other, rest) :=
    primary_call hcallee (by omega) h ends
  exact ⟨expression_of_operand (operand_of_primary hcall hstarts ends) (hstarts.unworded _) (hstarts.unworded _) ends,
    expression_of_operand (operand_await hcall ends) rfl rfl ends⟩

/-! ## Expressions with commas between -/

end CursorSpec.Expr
