/-
Quoted texts read as literals.

Quotes around a text are read back: the literal ends at its closing quote and stands for the text
(`readsLiteral_quote`). The body of the literal has no quote of its own, because every quote in it stands behind a
backslash, and a backslash is never the last character in it. So nothing in the text can end the literal, and nothing
behind it can go on with it, except that the empty text before another quote would begin a long literal. The same holds
of a text inside triple quotes (`readsLiteral_long`). Quoted texts keep to one line (`Text.ne_of_mem_quote`).
-/
import CursorSpec.Expr.Grammar
import CursorSpec.Text.Quoted
import Mathlib.Tactic

namespace CursorSpec

namespace Text

/-! ## Escaped characters -/

/-- **How a character stands inside quotes**: behind a backslash, as a code point, or for itself. -/
theorem escape_cases (c : Char) :
    (∃ d, escape c = ['\\', d] ∧ Expr.shortEscape? d = some c ∧ d ≠ '\n' ∧ d ≠ '\r') ∨
      (c.toNat < 32 ∧ escape c = ['\\', 'u', '0', '0', hexDigit (c.toNat / 16), hexDigit (c.toNat % 16)]) ∨
      (32 ≤ c.toNat ∧ c ≠ '\"' ∧ c ≠ '\\' ∧ escape c = [c]) := by
  unfold escape
  split_ifs with hspecial hn hr ht hf hb hcontrol
  · rcases hspecial with rfl | rfl
    · exact Or.inl ⟨'\"', rfl, rfl, by decide, by decide⟩
    · exact Or.inl ⟨'\\', rfl, rfl, by decide, by decide⟩
  · exact Or.inl ⟨'n', rfl, hn ▸ rfl, by decide, by decide⟩
  · exact Or.inl ⟨'r', rfl, hr ▸ rfl, by decide, by decide⟩
  · exact Or.inl ⟨'t', rfl, ht ▸ rfl, by decide, by decide⟩
  · have hc : c = Char.ofNat 12 := by rw [← Char.ofNat_toNat c, hf]
    exact Or.inl ⟨'f', rfl, hc ▸ rfl, by decide, by decide⟩
  · have hc : c = Char.ofNat 8 := by rw [← Char.ofNat_toNat c, hb]
    exact Or.inl ⟨'b', rfl, hc ▸ rfl, by decide, by decide⟩
  · exact Or.inr (Or.inl ⟨hcontrol, rfl⟩)
  · exact Or.inr (Or.inr ⟨Nat.le_of_not_lt hcontrol, fun h => hspecial (Or.inl h), fun h => hspecial (Or.inr h), rfl⟩)

/-- the characters of hexadecimal digits -/
theorem isHex_hexDigit {n : Nat} (h : n < 16) :
    hexDigit n ≠ '\"' ∧ hexDigit n ≠ '\\' ∧ hexDigit n ≠ '\n' ∧ hexDigit n ≠ '\r' := by
  revert n
  decide

/-- Inside quotes stand no line ends. -/
theorem ne_of_mem_escape {c d : Char} (h : d ∈ escape c) : d ≠ '\n' ∧ d ≠ '\r' := by
  rcases escape_cases c with ⟨e, he, -, hn, hr⟩ | ⟨hc, he⟩ | ⟨hc, -, -, he⟩ <;> rw [he] at h
  · simp only [List.mem_cons, List.not_mem_nil, or_false] at h
    rcases h with rfl | rfl
    · decide
    · exact ⟨hn, hr⟩
  · simp only [List.mem_cons, List.not_mem_nil, or_false] at h
    rcases h with rfl | rfl | rfl | rfl | rfl | rfl
    · decide
    · decide
    · decide
    · decide
    · exact (isHex_hexDigit (by omega)).2.2
    · exact (isHex_hexDigit (by omega)).2.2
  · rw [List.mem_singleton] at h
    subst h
    constructor <;> rintro rfl <;> simp at hc

/-- Quoted texts keep to one line. -/
theorem ne_of_mem_quote {t : Text} {d : Char} (h : d ∈ quote t) : d ≠ '\n' ∧ d ≠ '\r' := by
  rcases List.mem_cons.1 h with rfl | h
  · decide
  rcases List.mem_append.1 h with h | h
  · obtain ⟨c, -, hd⟩ := List.mem_flatMap.1 h
    exact ne_of_mem_escape hd
  · rw [List.mem_singleton.1 h]
    decide

theorem lineFeeds_cons {c : Char} (hc : c ≠ '\r') (t : Text) : lineFeeds (c :: t) = c :: lineFeeds t :=
  lineFeeds.eq_3 c t (fun _ h _ => hc h) hc

/-- Line ends of other kinds are not changed where there are none. -/
theorem lineFeeds_append {t : Text} (h : '\r' ∉ t) (u : Text) : lineFeeds (t ++ u) = t ++ lineFeeds u := by
  induction t with
  | nil => rfl
  | cons c t ih =>
    have hc : c ≠ '\r' := fun hc => h (hc ▸ List.mem_cons_self)
    have ht : '\r' ∉ t := fun ht => h (List.mem_cons_of_mem c ht)
    rw [List.cons_append, lineFeeds_cons hc, ih ht, List.cons_append]

end Text

namespace Expr

/-! ## Bodies of literals -/

theorem takeBody_backslash (q c : Char) (t : Text) :
    takeBody q ('\\' :: c :: t) = (takeBody q t).map fun r => ('\\' :: c :: r.1, r.2) := by
  rw [takeBody]

theorem takeBody_plain {q c : Char} (hq : c ≠ q) (hn : c ≠ '\n') (hb : c ≠ '\\') (t : Text) :
    takeBody q (c :: t) = (takeBody q t).map fun r => (c :: r.1, r.2) := by
  rw [takeBody, if_neg hq, if_neg hn]
  exact fun _ _ h _ => hb h

/-- The body of a quoted text ends at its closing quote, and nowhere before. -/
theorem takeBody_escape (t rest : Text) :
    takeBody '\"' (t.flatMap Text.escape ++ '\"' :: rest) = some (t.flatMap Text.escape, rest) := by
  induction t with
  | nil => rfl
  | cons c t ih =>
    rw [List.flatMap_cons]
    rcases Text.escape_cases c with ⟨d, hd, -⟩ | ⟨hc, he⟩ | ⟨hc, hq, hb, he⟩
    · rw [hd]
      simp only [List.cons_append, List.nil_append]
      rw [takeBody_backslash, ih]
      rfl
    · have hhigh := Text.isHex_hexDigit (n := c.toNat / 16) (by omega)
      have hlow := Text.isHex_hexDigit (n := c.toNat % 16) (by omega)
      rw [he]
      simp only [List.cons_append, List.nil_append]
      rw [takeBody_backslash, takeBody_plain (by decide) (by decide) (by decide),
        takeBody_plain (by decide) (by decide) (by decide), takeBody_plain hhigh.1 hhigh.2.2.1 hhigh.2.1,
        takeBody_plain hlow.1 hlow.2.2.1 hlow.2.1, ih]
      rfl
    · have hn : c ≠ '\n' := by rintro rfl; simp at hc
      rw [he, List.singleton_append, List.cons_append, takeBody_plain hq hn hb, ih]
      rfl

theorem takeLongBody_backslash (q c : Char) (t : Text) :
    takeLongBody q ('\\' :: c :: t) = (takeLongBody q t).map fun r => ('\\' :: c :: r.1, r.2) := by
  rw [takeLongBody]

theorem takeLongBody_plain {q c : Char} (hq : c ≠ q) (hb : c ≠ '\\') (t : Text) :
    takeLongBody q (c :: t) = (takeLongBody q t).map fun r => (c :: r.1, r.2) := by
  rw [takeLongBody, if_neg (by simp [hq])]
  exact fun _ _ h _ => hb h

/-- The body of a long literal ends at its closing quotes, and nowhere before. -/
theorem takeLongBody_escapeInner (t rest : Text) :
    takeLongBody '\"' (Text.escapeInner t ++ '\"' :: '\"' :: '\"' :: rest) = some (Text.escapeInner t, rest) := by
  induction t with
  | nil => rfl
  | cons c t ih =>
    rw [Text.escapeInner, List.flatMap_cons, ← Text.escapeInner]
    split
    · simp only [List.cons_append, List.nil_append]
      rw [takeLongBody_backslash, ih]
      rfl
    · next h =>
      rw [List.singleton_append, List.cons_append,
        takeLongBody_plain (fun hq => h (Or.inl hq)) (fun hb => h (Or.inr hb)), ih]
      rfl

/-! ## What escapes stand for -/

theorem unescapeFrom_plain (wide : Bool) {c : Char} (hc : c ≠ '\\') (fuel : Nat) (t : Text) :
    unescapeFrom wide (fuel + 1) (c :: t) = (unescapeFrom wide fuel t).map (c :: ·) := by
  rw [unescapeFrom]
  · exact fun h _ => hc h
  · exact fun _ _ h _ => hc h

theorem unescapeFrom_short (wide : Bool) {c d : Char} (hd : shortEscape? d = some c) (fuel : Nat) (t : Text) :
    unescapeFrom wide (fuel + 1) ('\\' :: d :: t) = (unescapeFrom wide fuel t).map (c :: ·) := by
  have hn : d ≠ '\n' := by rintro rfl; cases hd
  rw [unescapeFrom.eq_def]
  simp only [if_neg hn, hd]

/-- The code point of a control. -/
theorem hexValue?_hexDigit {n : Nat} (h : n < 32) (t : Text) :
    hexValue? 4 ('0' :: '0' :: Text.hexDigit (n / 16) :: Text.hexDigit (n % 16) :: t) = some n := by
  unfold hexValue?
  rw [List.take_succ_cons, List.take_succ_cons, List.take_succ_cons, List.take_succ_cons, List.take_zero]
  revert n
  decide

theorem charOf_toNat (c : Char) : charOf c.toNat = c := dif_pos c.valid

theorem unescapeFrom_control {c : Char} (hc : c.toNat < 32) (fuel : Nat) (t : Text) :
    unescapeFrom true (fuel + 1)
        ('\\' :: 'u' :: '0' :: '0' :: Text.hexDigit (c.toNat / 16) :: Text.hexDigit (c.toNat % 16) :: t) =
      (unescapeFrom true fuel t).map (c :: ·) := by
  have hvalue := hexValue?_hexDigit hc t
  have hsmall : ¬ 0x110000 ≤ c.toNat := by omega
  rw [unescapeFrom.eq_def]
  have hu : shortEscape? 'u' = none := rfl
  simp only [hu, hvalue, charOf_toNat, if_neg hsmall, Option.bind_eq_bind, Option.bind_some, List.drop_succ_cons,
    List.drop_zero]
  rw [if_neg (by decide), if_neg (by decide), if_neg (by decide), if_pos (by decide)]
  cases unescapeFrom true fuel t <;> rfl

/-- **Escapes stand for the text that was escaped.** -/
theorem unescapeFrom_escape (t : Text) {fuel : Nat} (enough : (t.flatMap Text.escape).length ≤ fuel) :
    unescapeFrom true fuel (t.flatMap Text.escape) = some t := by
  induction t generalizing fuel with
  | nil => cases fuel <;> rfl
  | cons c t ih =>
    rw [List.flatMap_cons, List.length_append] at enough
    rw [List.flatMap_cons]
    rcases Text.escape_cases c with ⟨d, hd, hshort, -⟩ | ⟨hc, he⟩ | ⟨hc, -, hb, he⟩
    · rw [hd] at enough ⊢
      simp only [List.length_cons, List.length_nil] at enough
      obtain ⟨fuel, rfl⟩ : ∃ n, fuel = n + 1 := ⟨fuel - 1, by omega⟩
      simp only [List.cons_append, List.nil_append]
      rw [unescapeFrom_short true hshort, ih (by omega)]
      rfl
    · rw [he] at enough ⊢
      simp only [List.length_cons, List.length_nil] at enough
      obtain ⟨fuel, rfl⟩ : ∃ n, fuel = n + 1 := ⟨fuel - 1, by omega⟩
      simp only [List.cons_append, List.nil_append]
      rw [unescapeFrom_control hc, ih (by omega)]
      rfl
    · rw [he] at enough ⊢
      simp only [List.length_cons, List.length_nil] at enough
      obtain ⟨fuel, rfl⟩ : ∃ n, fuel = n + 1 := ⟨fuel - 1, by omega⟩
      rw [List.singleton_append, unescapeFrom_plain true hb, ih (by omega)]
      rfl

theorem unescape_escape (t : Text) : unescape true (t.flatMap Text.escape) = some t :=
  unescapeFrom_escape t le_rfl

theorem unescapeFrom_escapeInner (t : Text) {fuel : Nat} (enough : (Text.escapeInner t).length ≤ fuel) :
    unescapeFrom true fuel (Text.escapeInner t) = some t := by
  induction t generalizing fuel with
  | nil => cases fuel <;> rfl
  | cons c t ih =>
    rw [Text.escapeInner, List.flatMap_cons, ← Text.escapeInner] at enough ⊢
    obtain ⟨fuel, rfl⟩ : ∃ n, fuel = n + 1 := by
      refine ⟨fuel - 1, ?_⟩
      split at enough <;> simp only [List.length_append, List.length_cons, List.length_nil] at enough <;> omega
    split at enough
    · next h =>
      simp only [List.length_append, List.length_cons, List.length_nil] at enough
      have hshort : shortEscape? c = some c := by rcases h with rfl | rfl <;> rfl
      rw [if_pos h, List.cons_append, List.singleton_append, unescapeFrom_short true hshort, ih (by omega)]
      rfl
    · next h =>
      simp only [List.length_append, List.length_cons, List.length_nil] at enough
      rw [if_neg h, List.singleton_append, unescapeFrom_plain true (fun hb => h (Or.inr hb)), ih (by omega)]
      rfl

theorem unescape_escapeInner (t : Text) : unescape true (Text.escapeInner t) = some t :=
  unescapeFrom_escapeInner t le_rfl

/-! ## Literals -/

/-- the plain literal that quotes around a text make -/
def quotationOf (t : Text) : Quotation := ⟨false, false, false, t.flatMap Text.escape⟩

theorem quotationText_quotationOf (t : Text) : quotationText (quotationOf t) = some t := unescape_escape t

theorem mapM_quotationText (ts : List Text) : (ts.map quotationOf).mapM quotationText = some ts := by
  induction ts with
  | nil => rfl
  | cons t ts ih =>
    rw [List.map_cons, List.mapM_cons, quotationText_quotationOf, ih]
    rfl

/-- Adjacent literals stand for their texts, one after another. -/
theorem ofQuotations_map_quotationOf (t : Text) (ts : List Text) :
    ofQuotations ((t :: ts).map quotationOf) = some (.value (.str (t :: ts).flatten)) := by
  have hall : ((t :: ts).map quotationOf).all (·.bytes) = false := rfl
  have hany : ((t :: ts).map quotationOf).any (·.bytes) = false := by
    simp [quotationOf]
  have hformat : ((t :: ts).map quotationOf).any (·.format) = false := by
    simp [quotationOf]
  rw [ofQuotations, hall, hany, hformat, mapM_quotationText]
  rfl

/-- A literal begins with its quote or with a letter before it. -/
theorem quotationStart?_eq_none {c : Char} (hquote : isQuote c = false) (hletter : c.toLower ∉ ['u', 'r', 'b', 'f'])
    (t : Text) : quotationStart? (c :: t) = none := by
  have hletters (ls : Text) : quotationLetters (c :: ls) = none := by
    simp only [List.mem_cons, List.not_mem_nil, or_false, not_or] at hletter
    obtain ⟨hu, hr, hb, hf⟩ := hletter
    simp [quotationLetters, hu, hr, hb, hf]
  have hnone (n : Nat) : (if ((c :: t).drop n).head?.any isQuote then
      (quotationLetters ((c :: t).take n)).map fun k => (n, k) else none) = none := by
    cases n with
    | zero => simp [hquote]
    | succ n =>
      rw [List.take_succ_cons, hletters, Option.map_none, ite_self]
  rw [quotationStart?, List.findSome?_eq_none_iff]
  exact fun n _ => hnone n
theorem takeLexeme_quoted (t : Text) :
    takeLexeme ('\"' :: t) =
      (takeQuoted ⟨false, false, false, []⟩ ('\"' :: t)).map fun r => (.quotation r.1, r.2) := by
  have hstart : quotationStart? ('\"' :: t) = some (0, ⟨false, false, false, []⟩) := by
    unfold quotationStart?
    rfl
  rw [takeLexeme, hstart]
  rfl

theorem startsWith_cons_of_head? {t : Text} {q : Char} (qs : Text) (h : t.head? ≠ some q) :
    Text.startsWith t (q :: qs) = false := by
  cases t with
  | nil => rfl
  | cons c t =>
    have hq : (q == c) = false := beq_false_of_ne fun hq => h (congrArg some hq.symm)
    rw [Text.startsWith, List.isPrefixOf_cons_cons, hq, Bool.false_and]

/-- No escaped text begins with a quote. -/
theorem head?_escape (c : Char) (t : Text) : (Text.escape c ++ t).head? ≠ some '\"' := by
  rcases Text.escape_cases c with ⟨d, hd, -⟩ | ⟨hc, he⟩ | ⟨hc, hq, -, he⟩
  · rw [hd]; simp
  · rw [he]; simp
  · rw [he]; simpa using hq

/-- **A quoted text ends at its closing quote**: whatever follows, unless it is empty, and before anything but a quote,
even so. -/
theorem takeLexeme_quote {x rest : Text} (h : x ≠ [] ∨ rest.head? ≠ some '\"') :
    takeLexeme (Text.quote x ++ rest) = some (.quotation (quotationOf x), rest) := by
  have hquote : Text.quote x ++ rest = '\"' :: (x.flatMap Text.escape ++ '\"' :: rest) := by
    simp [Text.quote]
  have hshort : Text.startsWith (x.flatMap Text.escape ++ '\"' :: rest) ['\"', '\"'] = false := by
    cases x with
    | nil =>
      have hrest := startsWith_cons_of_head? [] (h.resolve_left fun h => h rfl)
      simpa [Text.startsWith, List.isPrefixOf] using hrest
    | cons c x =>
      rw [List.flatMap_cons, List.append_assoc]
      exact startsWith_cons_of_head? _ (head?_escape c _)
  rw [hquote, takeLexeme_quoted, takeQuoted, hshort, takeBody_escape]
  rfl

/-- whether a text begins with a plain string literal that stands for another, and what follows it -/
def ReadsLiteral (t x rest : Text) : Prop :=
  ∃ body, takeLexeme t = some (.quotation ⟨false, false, false, body⟩, rest) ∧ unescape true body = some x

/-- **A quoted text is read back.** -/
theorem readsLiteral_quote {x rest : Text} (h : x ≠ [] ∨ rest.head? ≠ some '\"') :
    ReadsLiteral (Text.quote x ++ rest) x rest :=
  ⟨x.flatMap Text.escape, takeLexeme_quote h, unescape_escape x⟩

/-- **A text inside triple quotes is read back**, and ends at its closing quotes, whatever follows. -/
theorem readsLiteral_long (x rest : Text) :
    ReadsLiteral ('\"' :: '\"' :: '\"' :: (Text.escapeInner x ++ '\"' :: '\"' :: '\"' :: rest)) x rest := by
  refine ⟨Text.escapeInner x, ?_, unescape_escapeInner x⟩
  rw [takeLexeme_quoted, takeQuoted, if_pos (by simp [Text.startsWith]), List.drop_succ_cons, List.drop_succ_cons,
    List.drop_zero, takeLongBody_escapeInner]
  rfl

end Expr

end CursorSpec
