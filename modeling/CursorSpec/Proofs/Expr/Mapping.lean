/-
Mappings of one text to another are read back.

Brackets around two quoted texts with a colon between are five lexemes (`Expr.lex_mapping`), the lexemes are one mapping
(`Expr.expressions_pair`), and its entry is the one text under the other (`Arguments.read?_mapping`). The texts may be
any, since a quoted text is one literal, whatever is in it, and stands for the text.
-/
import CursorSpec.Expr.Arguments
import CursorSpec.Proofs.Expr.Literal

namespace CursorSpec

namespace Expr

def mappingText (k v : Text) : Text := '\x7b' :: (Text.quote k ++ ':' :: ' ' :: (Text.quote v ++ ['\x7d']))

/-! ## Its lexemes -/

/-- whether a character begins a lexeme: it is no blank, no line end, no comment and joins no lines -/
structure BeginsLexeme (c : Char) : Prop where
  visible : c ≠ ' ' ∧ c ≠ '\t' ∧ c.toNat ≠ 12 ∧ c ≠ '\n'
  plain : c ≠ '#' ∧ c ≠ '\\'

theorem lexFrom_lexeme {c : Char} (begins : BeginsLexeme c) {t u : Text} {x : Lexeme} {brackets brackets' : List Char}
    {begun indented : Bool} (starts : (!begun && indented) = false) (take : takeLexeme (c :: t) = some (x, u))
    (nests : nest brackets x = some brackets') (n : Nat) :
    lexFrom (n + 1) brackets begun indented (c :: t) =
      (lexFrom n brackets' true false u).map fun l => ⟨x :: l.lexemes, l.endsInComment⟩ := by
  obtain ⟨⟨hspace, htab, hfeed, hline⟩, hcomment, hjoin⟩ := begins
  rw [lexFrom.eq_def]
  simp only [hspace, htab, hfeed, hline, hcomment, hjoin, starts, take, nests, decide_false, Bool.or_self,
    Bool.false_eq_true, if_false, Option.bind_eq_bind, Option.bind_some]
  cases lexFrom n brackets' true false u <;> rfl

theorem lexFrom_quote {t rest : Text} (ends : rest.head? ≠ some '\"') (brackets : List Char) {begun indented : Bool}
    (starts : (!begun && indented) = false) (n : Nat) :
    lexFrom (n + 1) brackets begun indented (Text.quote t ++ rest) =
      (lexFrom n brackets true false rest).map fun l =>
        ⟨.quotation (quotationOf t) :: l.lexemes, l.endsInComment⟩ :=
  lexFrom_lexeme (c := '\"') ⟨by decide, by decide⟩ starts (takeLexeme_quote (Or.inr ends)) rfl n

theorem lexFrom_space (n : Nat) (brackets : List Char) (begun indented : Bool) (t : Text) :
    lexFrom (n + 1) brackets begun indented (' ' :: t) = lexFrom n brackets begun true t := by
  rw [lexFrom.eq_def]
  rfl

def IsMappingSign (c : Char) : Prop := c = '\x7b' ∨ c = ':' ∨ c = '\x7d'

theorem takeLexeme_sign {c : Char} (hc : IsMappingSign c) {t : Text} (ends : t.head? ≠ some '=') :
    takeLexeme (c :: t) = some (.sign [c], t) := by
  have hstart : quotationStart? (c :: t) = none := by
    rcases hc with rfl | rfl | rfl <;> exact quotationStart?_eq_none (by decide) (by decide) t
  have hsign : takeSign (c :: t) = some (.sign [c], t) := by
    rcases hc with rfl | rfl | rfl
    · rfl
    · have hshort := startsWith_cons_of_head? [] ends
      rw [Text.startsWith] at hshort
      simp [takeSign, signs, Text.startsWith, hshort]
    · rfl
  rw [takeLexeme.eq_def, hstart, ← hsign]
  rcases hc with rfl | rfl | rfl <;> rfl

theorem lexFrom_sign {c : Char} (hc : IsMappingSign c) {t : Text} (ends : t.head? ≠ some '=')
    {brackets brackets' : List Char} {begun indented : Bool} (starts : (!begun && indented) = false)
    (nests : nest brackets (.sign [c]) = some brackets') (n : Nat) :
    lexFrom (n + 1) brackets begun indented (c :: t) =
      (lexFrom n brackets' true false t).map fun l => ⟨.sign [c] :: l.lexemes, l.endsInComment⟩ := by
  have begins : BeginsLexeme c := by
    rcases hc with rfl | rfl | rfl <;> exact ⟨by decide, by decide⟩
  exact lexFrom_lexeme begins starts (takeLexeme_sign hc ends) nests n

/-- the lexemes of an entry and of the bracket that closes its mapping, and what follows -/
def entryLexemes (k v : Quotation) (ts : List Lexeme) : List Lexeme :=
  .quotation k :: .sign [':'] :: .quotation v :: .sign ['\x7d'] :: ts

def mappingLexemes (k v : Quotation) : List Lexeme := .sign ['\x7b'] :: entryLexemes k v []

theorem notMem_mappingText (k v : Text) : '\r' ∉ mappingText k v := by
  have hquote (t : Text) : '\r' ∉ Text.quote t := fun h => (Text.ne_of_mem_quote h).2 rfl
  simp [mappingText, hquote]

/-- **The lexemes of a mapping** are its signs and its literals. -/
theorem lex_mapping (k v : Text) :
    lex (mappingText k v) = some ⟨mappingLexemes (quotationOf k) (quotationOf v), false⟩ := by
  have hfeeds : Text.lineFeeds (mappingText k v) = mappingText k v := by
    have hline := Text.lineFeeds_append (notMem_mappingText k v) []
    rwa [List.append_nil, Text.lineFeeds, List.append_nil] at hline
  obtain ⟨n, hn⟩ : ∃ n, (mappingText k v).length + 1 = n + 7 := by
    refine ⟨(mappingText k v).length - 6, ?_⟩
    simp only [mappingText, Text.quote, List.length_cons, List.length_append, List.length_nil]
    omega
  rw [lex, hfeeds, hn, mappingText]
  rw [lexFrom_sign (Or.inl rfl) (by simp [Text.quote]) rfl rfl, lexFrom_quote (by simp) _ rfl,
    lexFrom_sign (Or.inr (Or.inl rfl)) (by simp) rfl rfl, lexFrom_space, lexFrom_quote (by simp) _ rfl,
    lexFrom_sign (Or.inr (Or.inr rfl)) (by simp) rfl rfl]
  rfl

/-! ## What the lexemes say -/

/-- whether lexemes begin with no word and no sign of a number, so that an atom comes first -/
structure StartsAtom (ts : List Lexeme) : Prop where
  unworded : ∀ w, word? w ts = none
  unsigned : sign? "-" ts = none ∧ sign? "+" ts = none ∧ sign? "~" ts = none

/-- whether lexemes go on with nothing that could belong to the expression before them -/
structure EndsExpression (ts : List Lexeme) : Prop where
  untrailed : sign? "." ts = none ∧ sign? "(" ts = none ∧ sign? "[" ts = none
  unjoined : sign? "**" ts = none ∧ logical? ts = none ∧ (comparison? ts <|> binary? ts) = none
  unconditioned : word? "if" ts = none

theorem startsAtom_quotation (q : Quotation) (ts : List Lexeme) : StartsAtom (.quotation q :: ts) :=
  ⟨fun _ => rfl, rfl, rfl, rfl⟩

theorem startsAtom_brace (ts : List Lexeme) : StartsAtom (.sign ['\x7b'] :: ts) := ⟨fun _ => rfl, rfl, rfl, rfl⟩

theorem endsExpression_nil : EndsExpression [] := ⟨⟨rfl, rfl, rfl⟩, ⟨rfl, rfl, rfl⟩, rfl⟩

theorem endsExpression_colon (ts : List Lexeme) : EndsExpression (.sign [':'] :: ts) :=
  ⟨⟨rfl, rfl, rfl⟩, ⟨rfl, rfl, rfl⟩, rfl⟩

theorem endsExpression_brace (ts : List Lexeme) : EndsExpression (.sign ['\x7d'] :: ts) :=
  ⟨⟨rfl, rfl, rfl⟩, ⟨rfl, rfl, rfl⟩, rfl⟩

theorem operand_of_primary {ts us : List Lexeme} {e : Expr} {n : Nat} (h : primary n ts = some (e, us))
    (starts : StartsAtom ts) (ends : EndsExpression us) : operand (n + 1) ts = some (e, us) := by
  obtain ⟨hword, hminus, hplus, htilde⟩ := starts
  simp only [operand, hminus, hplus, htilde, hword, h, ends.unjoined.1, Option.bind_eq_bind, Option.bind_some]
  rfl

theorem expression_of_operand {ts us : List Lexeme} {e : Expr} {n : Nat} (h : operand n ts = some (e, us))
    (unnegated : word? "not" ts = none) (unbound : word? "lambda" ts = none) (ends : EndsExpression us) :
    expression (n + 2) ts = some (e, us) := by
  obtain ⟨-, ⟨-, hlogical, hoperator⟩, hif⟩ := ends
  have hchain : chain (n + 1) true ts = some (e, us) := by
    simp only [chain, unnegated, if_true, h, hlogical, hoperator, Option.bind_eq_bind, Option.bind_some]
    rfl
  simp only [expression, unbound, hchain, hif, Option.bind_eq_bind, Option.bind_some]
  rfl

/-- **An atom that nothing goes on with is an expression.** -/
theorem expression_of_atom {ts us : List Lexeme} {e : Expr} {n : Nat} (h : atom (n + 2) ts = some (e, us))
    (starts : StartsAtom ts) (ends : EndsExpression us) : expression (n + 6) ts = some (e, us) := by
  obtain ⟨hpoint, hcall, hitem⟩ := ends.untrailed
  have hprimary : primary (n + 3) ts = some (e, us) := by
    simp only [primary, h, trailers, hpoint, hcall, hitem, Option.bind_eq_bind, Option.bind_some]
  exact expression_of_operand (operand_of_primary hprimary starts ends) (starts.unworded _) (starts.unworded _) ends

theorem expression_quotation {q : Quotation} {e : Expr} (h : ofQuotations [q] = some e) {s : Text}
    {ts : List Lexeme} (ends : EndsExpression (.sign s :: ts)) (n : Nat) :
    expression (n + 6) (.quotation q :: .sign s :: ts) = some (e, .sign s :: ts) := by
  have hquotations : quotations (.sign s :: ts) = ([], .sign s :: ts) := rfl
  have hatom : atom (n + 2) (.quotation q :: .sign s :: ts) = some (e, .sign s :: ts) := by
    rw [atom]
    simp only [hquotations, h, Option.bind_eq_bind, Option.bind_some]
    rfl
  exact expression_of_atom hatom (startsAtom_quotation q _) ends

section

variable {k v : Quotation} {x y : Text} (hk : ofQuotations [k] = some (.value (.str x)))
  (hv : ofQuotations [v] = some (.value (.str y)))

include hk hv

theorem entries_pair (n : Nat) (ts : List Lexeme) :
    entries (n + 8) (entryLexemes k v ts) = some (some [(.value (.str x), .value (.str y))], ts) := by
  have hcolon : sign? ":" (.sign [':'] :: .quotation v :: .sign ['\x7d'] :: ts) =
      some (.quotation v :: .sign ['\x7d'] :: ts) := rfl
  have hentry : entry (n + 7) (entryLexemes k v ts) =
      some ((.value (.str x), .value (.str y)), .sign ['\x7d'] :: ts) := by
    simp only [entry, entryLexemes, expression_quotation hk (endsExpression_colon _), hcolon,
      expression_quotation hv (endsExpression_brace _), Option.bind_eq_bind, Option.bind_some]
    rfl
  simp only [entries, sign?, hentry, Option.map_some, Option.bind_eq_bind, Option.bind_some]
  rfl

theorem braced_pair (n : Nat) (ts : List Lexeme) :
    braced (n + 9) (entryLexemes k v ts) = some (.dict [(.value (.str x), .value (.str y))], ts) := by
  have hkey : element (n + 8) true (entryLexemes k v ts) =
      some (.value (.str x), .sign [':'] :: .quotation v :: .sign ['\x7d'] :: ts) := by
    simp only [element, entryLexemes, sign?, assignment, isAssignment, expression_quotation hk (endsExpression_colon _)]
    rfl
  have hvalue := expression_quotation hv (endsExpression_brace ts) (n + 2)
  simp only [braced, isAssignment, hkey, isStarred, List.drop_succ_cons, List.drop_zero, hvalue,
    entries_pair hk hv n ts, sign?, Option.bind_eq_bind, Option.bind_some]
  rfl

theorem expressions_pair (n : Nat) :
    expressions (n + 15) (mappingLexemes k v) = some [.dict [(.value (.str x), .value (.str y))]] := by
  have hatom : atom (n + 10) (mappingLexemes k v) = some (.dict [(.value (.str x), .value (.str y))], []) := by
    rw [mappingLexemes, atom]
    exact braced_pair hk hv n []
  have hexpression := expression_of_atom hatom (startsAtom_brace _) endsExpression_nil
  rw [expressions, hexpression]
  rfl

end

/-! ## What it stands for -/

theorem ofQuotations_quotationOf (t : Text) : ofQuotations [quotationOf t] = some (.value (.str t)) := by
  have h := ofQuotations_map_quotationOf t []
  rwa [List.flatten_cons, List.flatten_nil, List.append_nil] at h

theorem isQuotationWith_quotationOf (accepts : Text → Bool) (t : Text) :
    isQuotationWith accepts (quotationOf t) = true := by
  have hescapes : (unescape true (t.flatMap Text.escape)).isSome = true := by
    rw [unescape_escape]
    rfl
  exact hescapes

end Expr

namespace Arguments

/-- **A mapping of one text to another is read back.** -/
theorem read?_mapping (k v : Text) :
    read? (Expr.mappingText k v) = some ⟨[.dict [(.value (.str k), .value (.str v))]], false⟩ := by
  have hlexemes (accepts : Text → Bool) : (Expr.mappingLexemes (Expr.quotationOf k) (Expr.quotationOf v)).all
      (Expr.isLexemeWith accepts) = true := by
    simp only [Expr.mappingLexemes, Expr.entryLexemes, List.all_cons, List.all_nil, Expr.isLexemeWith,
      Expr.isQuotationWith_quotationOf, Bool.and_self]
  have hreads : Expr.ofLexemes (Expr.mappingLexemes (Expr.quotationOf k) (Expr.quotationOf v)) =
      some [.dict [(.value (.str k), .value (.str v))]] :=
    Expr.expressions_pair (Expr.ofQuotations_quotationOf k) (Expr.ofQuotations_quotationOf v) 97
  rw [read?, Expr.readWithin, Expr.lex_mapping]
  simp only [Option.bind_eq_bind, Option.bind_some, hlexemes, hreads, if_true]
  rfl

end Arguments

end CursorSpec
