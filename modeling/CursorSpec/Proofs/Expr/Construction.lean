/-
How expressions that build documents are read.

Words, integers and literals are read up to what cannot belong to them: a comma or a closing bracket (`Reads`). What
stands between brackets is a row of arguments with commas and blanks between (`IsRow`), and the readers take such a row
up to its closing bracket (`arguments_row`); a call, a tuple and adjacent literals in brackets are read from there. More
calls than the text has characters are enough.
-/
import CursorSpec.Expr.Construction
import CursorSpec.Proofs.Expr.Literal

namespace CursorSpec.Expr.Construction

/-! ## Gaps -/

theorem skip_append {inside : Bool} {g : Text} (hg : ∀ c ∈ g, isGap inside c = true) (t : Text) :
    skip inside (g ++ t) = skip inside t :=
  List.dropWhile_append_of_pos hg

theorem skip_of_not_gap {inside : Bool} {c : Char} (hc : isGap inside c = false) (t : Text) :
    skip inside (c :: t) = c :: t := by
  rw [skip, List.dropWhile_cons_of_neg (by simp [hc])]

/-- No character of a name is a gap. -/
theorem isGap_of_isNameChar (inside : Bool) {c : Char} (h : isNameChar c = true) : isGap inside c = false := by
  by_contra hc
  rw [Bool.not_eq_false] at hc
  simp only [isGap, isInlineBlank, Bool.or_eq_true, Bool.and_eq_true, decide_eq_true_eq] at hc
  rcases hc with ((rfl | rfl) | hc) | ⟨-, rfl⟩
  · exact absurd h (by decide)
  · exact absurd h (by decide)
  · obtain rfl : c = Char.ofNat 12 := by rw [← Char.ofNat_toNat c, hc]
    exact absurd h (by decide)
  · exact absurd h (by decide)

theorem isNameChar_of_isDigit {c : Char} (h : c.isDigit = true) : isNameChar c = true := by
  rw [isNameChar, h, Bool.or_true, Bool.true_or, Bool.true_or]

theorem length_le_length_flatMap {α : Type} {f : α → Text} (h : ∀ x, f x ≠ []) (xs : List α) :
    xs.length ≤ (xs.flatMap f).length := by
  induction xs with
  | nil => exact le_rfl
  | cons x xs ih =>
    have hx := List.length_pos_iff.2 (h x)
    rw [List.flatMap_cons, List.length_append, List.length_cons]
    omega

/-! ## Words -/

/-- a word that is a name and nothing else, whatever follows it -/
structure IsWord (w : Text) : Prop where
  /-- longer than the letters before a literal -/
  long : 3 ≤ w.length
  plain : w.all (fun c => isNameChar c && decide (c.toNat < 128)) = true
  first : w.head?.any Char.isDigit = false
  free : keywords.contains w = false

theorem isWord_iff (w : Text) : IsWord w ↔ 3 ≤ w.length ∧
    w.all (fun c => isNameChar c && decide (c.toNat < 128)) = true ∧ w.head?.any Char.isDigit = false ∧
    keywords.contains w = false :=
  ⟨fun h => ⟨h.1, h.2, h.3, h.4⟩, fun h => ⟨h.1, h.2.1, h.2.2.1, h.2.2.2⟩⟩

instance (w : Text) : Decidable (IsWord w) := decidable_of_iff' _ (isWord_iff w)

theorem IsWord.ne_nil {w : Text} (h : IsWord w) : w ≠ [] := by
  rintro rfl
  exact absurd h.long (by decide)

theorem IsWord.isNameChar_head {c : Char} {w : Text} (h : IsWord (c :: w)) : isNameChar c = true := by
  have hplain := h.plain
  rw [List.all_cons, Bool.and_eq_true, Bool.and_eq_true] at hplain
  exact hplain.1.1

theorem isQuote_of_isNameChar {c : Char} (h : isNameChar c = true) : isQuote c = false := by
  by_contra hc
  rw [Bool.not_eq_false, isQuote, Bool.or_eq_true, decide_eq_true_eq, decide_eq_true_eq] at hc
  rcases hc with rfl | rfl <;> exact absurd h (by decide)

theorem quotationStart?_word {w : Text} (h : IsWord w) (rest : Text) : quotationStart? (w ++ rest) = none := by
  obtain ⟨hlong, hplain, -, -⟩ := h
  rw [quotationStart?, List.findSome?_eq_none_iff]
  intro n hn
  have hlt : n < w.length := by
    simp only [List.mem_cons, List.not_mem_nil, or_false] at hn
    omega
  have hchar : isNameChar w[n] = true := by
    have h := List.all_eq_true.1 hplain w[n] (List.getElem_mem hlt)
    rw [Bool.and_eq_true] at h
    exact h.1
  have hhead : ((w ++ rest).drop n).head?.any isQuote = false := by
    rw [List.head?_drop, List.getElem?_append_left hlt, List.getElem?_eq_getElem hlt, Option.any_some,
      isQuote_of_isNameChar hchar]
  rw [hhead]
  rfl

theorem takeWhile_isNameChar {w rest : Text} (hname : ∀ c ∈ w, isNameChar c = true)
    (ends : rest.head?.any isNameChar = false) : (w ++ rest).takeWhile isNameChar = w := by
  rw [List.takeWhile_append_of_pos hname]
  cases rest with
  | nil => simp
  | cons c rest => rw [List.takeWhile_cons_of_neg (by simpa using ends), List.append_nil]

/-- **A word is read up to what cannot belong to it.** -/
theorem takeLexeme_word {w : Text} (h : IsWord w) {rest : Text} (ends : rest.head?.any isNameChar = false) :
    takeLexeme (w ++ rest) = some (.name w, rest) := by
  have hstart := quotationStart?_word h rest
  obtain ⟨hlong, hplain, hfirst, hfree⟩ := h
  have hname : ∀ c ∈ w, isNameChar c = true := fun c hc =>
    (Bool.and_eq_true_iff.1 (List.all_eq_true.1 hplain c hc)).1
  have hascii : w.all (fun c => decide (c.toNat < 128)) = true :=
    List.all_eq_true.2 fun c hc => (Bool.and_eq_true_iff.1 (List.all_eq_true.1 hplain c hc)).2
  have htaken : takeName (w ++ rest) = some (.name w, rest) := by
    rw [takeName, takeWhile_isNameChar hname ends]
    simp only [hfree, hascii, Bool.true_or, List.drop_left, if_true]
    rfl
  cases w with
  | nil => simp at hlong
  | cons c w =>
    have hdigit : c.isDigit = false := by simpa using hfirst
    rw [takeLexeme.eq_def, hstart]
    rw [List.cons_append] at htaken ⊢
    simp only [hdigit, hname c List.mem_cons_self, htaken, if_true, Bool.false_eq_true, if_false]

/-! ## Integers -/

theorem digitValue_of_isDigit {c : Char} (h : c.isDigit = true) :
    digitValue c = c.toNat - 48 ∧ isDigitOf 10 c = true := by
  have hvalue : digitValue c = c.toNat - 48 := by rw [digitValue, if_pos h]
  have hle : c.toNat ≤ 57 := by
    simp only [Char.isDigit, Bool.and_eq_true, decide_eq_true_eq] at h
    exact h.2
  refine ⟨hvalue, decide_eq_true ?_⟩
  rw [hvalue]
  omega

theorem takeDigits_cons {c : Char} (hu : c ≠ '_') (t : Text) :
    takeDigits 10 (c :: t) =
      if isDigitOf 10 c then (takeDigits 10 t).map fun r => (c :: r.1, r.2) else some ([], c :: t) := by
  rw [takeDigits.eq_def]
  simp only [if_neg hu]

theorem takeDigits_digits {ds : Text} (hds : ∀ c ∈ ds, c.isDigit = true) {c : Char} (hc : isDigitOf 10 c = false)
    (hu : c ≠ '_') (rest : Text) : takeDigits 10 (ds ++ c :: rest) = some (ds, c :: rest) := by
  induction ds with
  | nil => rw [List.nil_append, takeDigits_cons hu, if_neg (by simp [hc])]
  | cons d ds ih =>
    have hd := hds d List.mem_cons_self
    have hne : d ≠ '_' := by rintro rfl; exact absurd hd (by decide)
    rw [List.cons_append, takeDigits_cons hne, if_pos (digitValue_of_isDigit hd).2,
      ih fun c hc => hds c (List.mem_cons_of_mem d hc)]
    rfl

theorem exists_cons_ofNat (n : Nat) : ∃ d ds, Text.ofNat n = d :: ds ∧ d.isDigit = true := by
  obtain ⟨d, ds, hd⟩ := List.exists_cons_of_ne_nil (Nat.toDigits_ne_nil (n := n) (b := 10))
  refine ⟨d, ds, hd, Nat.isDigit_of_mem_toDigits (b := 10) (n := n) (by decide) (by decide) ?_⟩
  rw [hd]
  exact List.mem_cons_self

theorem isDigit_of_mem_ofNat {n : Nat} {c : Char} (h : c ∈ Text.ofNat n) : c.isDigit = true :=
  Nat.isDigit_of_mem_toDigits (by decide) (by decide) h

theorem digitsValue_ofNat (n : Nat) : digitsValue 10 (Text.ofNat n) = n := by
  have hsame : digitsValue 10 (Text.ofNat n) = Nat.ofDigitChars 10 (Text.ofNat n) 0 := by
    refine List.foldl_ext _ _ _ fun k c hc => ?_
    rw [(digitValue_of_isDigit (isDigit_of_mem_ofNat hc)).1, Nat.mul_comm]
    rfl
  rw [hsame, Text.ofNat, Nat.ofDigitChars_ten_toDigits]

/-- Only zero begins with a zero. -/
theorem eq_zero_of_head?_ofNat {n : Nat} (h : (Text.ofNat n).head? = some '0') : n = 0 := by
  unfold Text.ofNat at h
  induction n using Nat.base_induction 10 (by decide) with
  | single m hm =>
    rw [Nat.toDigits_of_lt_base hm] at h
    exact Nat.digitChar_eq_zero.1 (Option.some.inj h)
  | digit m k hk hm ih =>
    rw [← Nat.toDigits_append_toDigits (by decide) hm hk, List.head?_append_of_ne_nil _ Nat.toDigits_ne_nil] at h
    exact absurd (ih h) hm.ne'

/-- The digits of a number have no zeros before them. -/
theorem unpadded_ofNat (n : Nat) : ((Text.ofNat n).head? = some '0' && (Text.ofNat n).any (· ≠ '0')) = false := by
  by_cases h : (Text.ofNat n).head? = some '0'
  · rw [eq_zero_of_head?_ofNat h]
    rfl
  · simp [h]

/-- what may follow an argument -/
def IsEnd (c : Char) : Prop := c = ',' ∨ c = ')'

/-- **The digits of a number are read as the number.** -/
theorem integer?_ofNat (n : Nat) {c : Char} (hc : IsEnd c) (rest : Text) :
    integer? (Text.ofNat n ++ c :: rest) = some (n, c :: rest) := by
  have hstop : isDigitOf 10 c = false ∧ c ≠ '_' ∧ c ≠ '.' ∧ isNameChar c = false := by
    rcases hc with rfl | rfl <;> decide
  obtain ⟨hdigit, hu, hpoint, hname⟩ := hstop
  have hend : (decide ((c :: rest).head? = some '.') || !endsNumber (c :: rest)) = false := by
    simp [hpoint, endsNumber, hname]
  rw [integer?, takeDigits_digits (fun d hd => isDigit_of_mem_ofNat hd) hdigit hu]
  simp only [Option.bind_eq_bind, Option.bind_some, unpadded_ofNat, hend, Bool.false_eq_true, if_false, digitsValue_ofNat]

/-! ## Lexemes that are no literals and no names -/

theorem quotationStart?_isEnd {c : Char} (hc : IsEnd c) (rest : Text) : quotationStart? (c :: rest) = none := by
  rcases hc with rfl | rfl <;> exact quotationStart?_eq_none (by decide) (by decide) rest

/-- **What a lexeme begins with**: a literal with its letters and quote, and a name with a letter. -/
theorem of_takeLexeme {c : Char} {t u : Text} {l : Lexeme} (h : takeLexeme (c :: t) = some (l, u)) :
    (quotationStart? (c :: t) ≠ none ∧ ∃ q, l = .quotation q) ∨
      (quotationStart? (c :: t) = none ∧
        ((∃ x, l = .number x) ∨ (∃ w, l = .sign w) ∨
          (isNameChar c = true ∧ c.isDigit = false ∧ ∀ q, l ≠ .quotation q))) := by
  rw [takeLexeme.eq_def] at h
  cases hstart : quotationStart? (c :: t) with
  | some r =>
    rw [hstart] at h
    obtain ⟨x, -, hx⟩ := Option.map_eq_some_iff.1 h
    exact Or.inl ⟨nofun, x.1, (Prod.mk.inj hx).1.symm⟩
  | none =>
    rw [hstart] at h
    dsimp only at h
    refine Or.inr ⟨rfl, ?_⟩
    split_ifs at h with hdigit hname hpoint
    · obtain ⟨x, -, hx⟩ := Option.map_eq_some_iff.1 h
      exact Or.inl ⟨x.1, (Prod.mk.inj hx).1.symm⟩
    · refine Or.inr (Or.inr ⟨hname, Bool.eq_false_iff.2 hdigit, ?_⟩)
      rintro q rfl
      unfold takeName at h
      dsimp only at h
      split_ifs at h <;> cases h
    · obtain ⟨x, -, hx⟩ := Option.map_eq_some_iff.1 h
      exact Or.inl ⟨x.1, (Prod.mk.inj hx).1.symm⟩
    · obtain ⟨w, -, hw⟩ := Option.map_eq_some_iff.1 h
      exact Or.inr (Or.inl ⟨w, (Prod.mk.inj hw).1.symm⟩)

/-- Where no literal begins, adjacent literals end. -/
theorem literals_of_quotationStart? {inside : Bool} {t : Text} {c : Char} {u : Text} (hskip : skip inside t = c :: u)
    (h : quotationStart? (c :: u) = none) (n : Nat) : literals inside n t = ([], t) := by
  cases n with
  | zero => rfl
  | succ n =>
    rw [literals, hskip]
    split
    · next q v hq =>
      rcases of_takeLexeme hq with ⟨hstart, -⟩ | ⟨-, ⟨x, hx⟩ | ⟨w, hw⟩ | ⟨-, -, hnone⟩⟩
      · exact absurd h hstart
      · cases hx
      · cases hw
      · exact absurd rfl (hnone q)
    · rfl

/-- What begins with no letter is not named. -/
theorem named_of_not_nameChar {c : Char} (h : isNameChar c = false ∨ c.isDigit = true) (t : Text) :
    named (c :: t) = (none, c :: t) := by
  unfold named
  split
  · next w u hw =>
    rcases of_takeLexeme hw with ⟨-, q, hq⟩ | ⟨-, ⟨x, hx⟩ | ⟨w, hw⟩ | ⟨hname, hdigit, -⟩⟩
    · cases hq
    · cases hx
    · cases hw
    · rcases h with h | h
      · exact absurd (h.symm.trans hname) (by decide)
      · exact absurd (hdigit.symm.trans h) (by decide)
  · rfl

/-- A word before an equals sign is the name of an argument. -/
theorem named_word {w : Text} (h : IsWord w) (t : Text) : named (w ++ '=' :: t) = (some w, skip true t) := by
  rw [named, takeLexeme_word h (by rfl)]
  rfl

/-! ## Expressions that end before a comma or a bracket -/

/-- whether a text is read as an expression up to what may follow an argument -/
def Reads (t : Text) (x : Built) : Prop :=
  ∀ (n : Nat) (c : Char) (rest : Text), t.length < n → IsEnd c →
    expression true n (t ++ c :: rest) = some (x, c :: rest)

theorem expression_digit (inside : Bool) (n : Nat) {c : Char} (hc : c.isDigit = true) (t : Text) :
    expression inside (n + 1) (c :: t) = (integer? (c :: t)).map fun r => (.int r.1, r.2) := by
  have hminus : c ≠ '-' := by rintro rfl; exact absurd hc (by decide)
  have hopen : c ≠ '(' := by rintro rfl; exact absurd hc (by decide)
  rw [expression, if_neg hminus, if_neg hopen, if_pos hc]

theorem reads_ofNat (k : Nat) : Reads (Text.ofNat k) (.int k) := by
  intro n c rest hn hc
  obtain ⟨d, ds, hd, hdigit⟩ := exists_cons_ofNat k
  have hread := integer?_ofNat k hc rest
  rw [hd] at hn hread ⊢
  obtain ⟨n, rfl⟩ : ∃ m, n = m + 1 := ⟨n - 1, by omega⟩
  rw [List.cons_append, expression_digit true n hdigit, ← List.cons_append, hread]
  rfl

/-- **An integer is read as itself.** -/
theorem reads_ofInt (k : Int) : Reads (Text.ofInt k) (.int k) := by
  cases k with
  | ofNat k => exact reads_ofNat k
  | negSucc k =>
    intro n c rest hn hc
    rw [Text.ofInt, List.length_cons] at hn
    obtain ⟨n, rfl⟩ : ∃ m, n = m + 1 := ⟨n - 1, by omega⟩
    have hread := reads_ofNat (k + 1) n c rest (by omega) hc
    obtain ⟨d, ds, hd, hdigit⟩ := exists_cons_ofNat (k + 1)
    have hskip : skip true (Text.ofNat (k + 1) ++ c :: rest) = Text.ofNat (k + 1) ++ c :: rest := by
      rw [hd, List.cons_append, skip_of_not_gap (isGap_of_isNameChar true (isNameChar_of_isDigit hdigit))]
    rw [Text.ofInt, List.cons_append, expression, if_pos rfl, hskip, hread]
    rfl

theorem textOf?_quotationOf (t : Text) (ts : List Text) :
    textOf? ((t :: ts).map quotationOf) = some (.text (t :: ts).flatten) := by
  rw [textOf?, ofQuotations_map_quotationOf]

theorem expression_quote (inside : Bool) (n : Nat) {t rest : Text} (h : t ≠ [] ∨ rest.head? ≠ some '\"') :
    expression inside (n + 1) (Text.quote t ++ rest) =
      (textOf? (quotationOf t :: (literals inside n rest).1)).map fun x => (x, (literals inside n rest).2) := by
  have hlexeme := takeLexeme_quote h
  rw [Text.quote, List.cons_append] at hlexeme ⊢
  rw [expression, if_neg (by decide), if_neg (by decide), if_neg (by decide), hlexeme]

/-- **A quoted text is read as the text.** -/
theorem reads_quote (t : Text) : Reads (Text.quote t) (.text t) := by
  intro n c rest hn hc
  obtain ⟨n, rfl⟩ : ∃ m, n = m + 1 := ⟨n - 1, by omega⟩
  have hhead : (c :: rest).head? ≠ some '\"' := by rcases hc with rfl | rfl <;> simp
  have hgap : isGap true c = false := by rcases hc with rfl | rfl <;> rfl
  have hend := literals_of_quotationStart? (skip_of_not_gap hgap rest) (quotationStart?_isEnd hc rest) n
  have htext := textOf?_quotationOf t []
  rw [List.flatten_singleton] at htext
  rw [expression_quote true n (Or.inr hhead), hend]
  exact congrArg (Option.map fun x => (x, c :: rest)) htext

/-! ## Adjacent literals in brackets -/

/-- Literals with gaps before them are read up to what is none. -/
theorem literals_quotes {g u : Text} (hg : ∀ c ∈ g, isGap true c = true) {d : Char} {v : Text}
    (hskip : skip true u = d :: v) (hend : quotationStart? (d :: v) = none) {ts : List Text} (hts : ∀ t ∈ ts, t ≠ [])
    {n : Nat} (hn : ts.length ≤ n) :
    literals true n ((ts.flatMap fun t => g ++ Text.quote t) ++ u) = (ts.map quotationOf, u) := by
  induction ts generalizing n with
  | nil => exact literals_of_quotationStart? hskip hend n
  | cons t ts ih =>
    rw [List.length_cons] at hn
    obtain ⟨n, rfl⟩ : ∃ m, n = m + 1 := ⟨n - 1, by omega⟩
    have hrest := ih (fun t ht => hts t (List.mem_cons_of_mem _ ht)) (Nat.le_of_succ_le_succ hn)
    have hquote : ∀ w, skip true (Text.quote t ++ w) = Text.quote t ++ w := fun w => skip_of_not_gap rfl _
    rw [List.flatMap_cons, List.append_assoc, List.append_assoc, literals, skip_append hg, hquote,
      takeLexeme_quote (Or.inl (hts t List.mem_cons_self))]
    dsimp only
    rw [hrest]
    rfl

/-- **Literals in brackets are one text.** -/
theorem reads_quotes {g h : Text} (hg : ∀ c ∈ g, isGap true c = true) (hh : ∀ c ∈ h, isGap true c = true)
    {ts : List Text} (hts : ∀ t ∈ ts, t ≠ []) (hne : ts ≠ []) :
    Reads ('(' :: ((ts.flatMap fun t => g ++ Text.quote t) ++ (h ++ [')']))) (.text ts.flatten) := by
  intro n c rest hn hc
  cases ts with
  | nil => exact absurd rfl hne
  | cons t ts =>
    have hlength : ts.length ≤ (ts.flatMap fun t => g ++ Text.quote t).length :=
      length_le_length_flatMap (fun t => by simp [Text.quote]) ts
    simp only [List.length_cons, List.length_append, List.flatMap_cons] at hn
    obtain ⟨n, rfl⟩ : ∃ m, n = m + 3 := ⟨n - 3, by omega⟩
    set behind : Text := (ts.flatMap fun t => g ++ Text.quote t) ++ (h ++ ')' :: c :: rest) with hbehind
    have hskip : skip true (h ++ ')' :: c :: rest) = ')' :: c :: rest := by
      rw [skip_append hh, skip_of_not_gap rfl]
    have hliterals : literals true n behind = (ts.map quotationOf, h ++ ')' :: c :: rest) :=
      literals_quotes hg hskip (quotationStart?_isEnd (Or.inr rfl) _) (fun t ht => hts t (List.mem_cons_of_mem _ ht))
        (by omega)
    have hfirst : expression true (n + 1) (Text.quote t ++ behind) =
        some (.text (t :: ts).flatten, h ++ ')' :: c :: rest) := by
      rw [expression_quote true n (Or.inl (hts t List.mem_cons_self)), hliterals]
      exact congrArg (Option.map fun x => (x, h ++ ')' :: c :: rest)) (textOf?_quotationOf t ts)
    have hgroup : group (n + 2) (Text.quote t ++ behind) = some (.text (t :: ts).flatten, c :: rest) := by
      rw [Text.quote, List.cons_append] at hfirst ⊢
      rw [group, if_neg (by decide), hfirst]
      simp only [Option.bind_eq_bind, Option.bind_some, hskip]
    have htext : '(' :: (((t :: ts).flatMap fun t => g ++ Text.quote t) ++ (h ++ [')'])) ++ c :: rest =
        '(' :: (g ++ (Text.quote t ++ behind)) := by
      rw [hbehind, List.flatMap_cons]
      simp only [List.cons_append, List.append_assoc, List.nil_append]
    have hquote : skip true (Text.quote t ++ behind) = Text.quote t ++ behind := skip_of_not_gap rfl _
    rw [htext, expression, if_neg (by decide), if_pos rfl, skip_append hg, hquote, hgroup]

/-! ## Rows of arguments -/

/-- whether a text begins with what can be a lexeme, but no closing bracket -/
def Starts (t : Text) : Prop := ∃ d u, t = d :: u ∧ d ≠ ')' ∧ isGap true d = false

/-- whether a text is read as an argument up to what may follow it -/
structure ReadsArgument (t : Text) (a : Built.Argument) : Prop where
  starts : Starts t
  reads : ∀ (n : Nat) (c : Char) (rest : Text), t.length < n → IsEnd c →
    ∃ u, named (t ++ c :: rest) = (a.name, u) ∧ expression true n u = some (a.value, c :: rest)

/-- arguments as they stand between brackets: with commas between and perhaps behind them, and gaps before them -/
inductive IsRow : Text → List Built.Argument → Prop
  | nil {g : Text} : (∀ c ∈ g, isGap true c = true) → IsRow g []
  | last {g t : Text} {a : Built.Argument} : (∀ c ∈ g, isGap true c = true) → ReadsArgument t a → IsRow (g ++ t) [a]
  | cons {g t u : Text} {a : Built.Argument} {as : List Built.Argument} : (∀ c ∈ g, isGap true c = true) →
      ReadsArgument t a → IsRow u as → IsRow (g ++ (t ++ ',' :: u)) (a :: as)

/-- **A row of arguments is read up to its closing bracket.** -/
theorem arguments_row {t : Text} {as : List Built.Argument} (h : IsRow t as) {n : Nat} (hn : t.length + 1 < n)
    (rest : Text) : arguments n (skip true (t ++ ')' :: rest)) = some (as, rest) := by
  induction h generalizing n with
  | nil hg =>
    obtain ⟨n, rfl⟩ : ∃ m, n = m + 1 := ⟨n - 1, by omega⟩
    rw [skip_append hg, skip_of_not_gap rfl, arguments, if_pos rfl]
  | @last g t a hg ha =>
    rw [List.length_append] at hn
    obtain ⟨n, rfl⟩ : ∃ m, n = m + 1 := ⟨n - 1, by omega⟩
    obtain ⟨u, hnamed, hread⟩ := ha.reads n ')' rest (by omega) (Or.inr rfl)
    obtain ⟨d, v, rfl, hd, hgap⟩ := ha.starts
    rw [List.append_assoc, skip_append hg]
    rw [List.cons_append] at hnamed ⊢
    rw [skip_of_not_gap hgap, arguments, if_neg hd, hnamed, hread]
    simp only [Option.bind_eq_bind, Option.bind_some, skip_of_not_gap (show isGap true ')' = false from rfl)]
  | @cons g t u a as hg ha hu ih =>
    simp only [List.length_append, List.length_cons] at hn
    obtain ⟨n, rfl⟩ : ∃ m, n = m + 1 := ⟨n - 1, by omega⟩
    obtain ⟨v, hnamed, hread⟩ := ha.reads n ',' (u ++ ')' :: rest) (by omega) (Or.inl rfl)
    obtain ⟨d, w, rfl, hd, hgap⟩ := ha.starts
    have hrow := ih (n := n) (by omega)
    rw [List.append_assoc, skip_append hg, List.append_assoc, List.cons_append]
    rw [List.cons_append] at hnamed ⊢
    rw [skip_of_not_gap hgap, arguments, if_neg hd, hnamed, hread]
    simp only [Option.bind_eq_bind, Option.bind_some, skip_of_not_gap (show isGap true ',' = false from rfl), hrow,
      Option.pure_def]

/-- Arguments on lines of their own, each with its comma. -/
theorem isRow_flatMap {α : Type} {text : α → Text} {argument : α → Built.Argument}
    (reads : ∀ x, ReadsArgument (text x) (argument x)) {g h : Text} (hg : ∀ c ∈ g, isGap true c = true)
    (hh : ∀ c ∈ h, isGap true c = true) (xs : List α) :
    IsRow ((xs.flatMap fun x => g ++ (text x ++ [','])) ++ h) (xs.map argument) := by
  induction xs with
  | nil => exact .nil hh
  | cons x xs ih =>
    have htext : ((x :: xs).flatMap fun x => g ++ (text x ++ [','])) ++ h =
        g ++ (text x ++ ',' :: ((xs.flatMap fun x => g ++ (text x ++ [','])) ++ h)) := by
      simp only [List.flatMap_cons, List.append_assoc, List.cons_append, List.nil_append]
    exact htext ▸ .cons hg (reads x) ih

theorem IsWord.starts {w : Text} (h : IsWord w) (t : Text) : Starts (w ++ t) := by
  obtain ⟨d, v, rfl⟩ := List.exists_cons_of_ne_nil h.ne_nil
  have hname := h.isNameChar_head
  refine ⟨d, v ++ t, rfl, ?_, isGap_of_isNameChar true hname⟩
  rintro rfl
  exact absurd hname (by decide)

/-- An argument without a name. -/
theorem readsArgument_unnamed {t : Text} {x : Built} (starts : Starts t)
    (unnamed : ∀ c rest, IsEnd c → named (t ++ c :: rest) = (none, t ++ c :: rest)) (reads : Reads t x) :
    ReadsArgument t ⟨none, x⟩ :=
  ⟨starts, fun n c rest hn hc => ⟨_, unnamed c rest hc, reads n c rest hn hc⟩⟩

/-- An argument with a name. -/
theorem readsArgument_named {w t : Text} {x : Built} (hw : IsWord w) (starts : Starts t) (reads : Reads t x) :
    ReadsArgument (w ++ '=' :: t) ⟨some w, x⟩ := by
  refine ⟨hw.starts _, fun n c rest hn hc => ?_⟩
  obtain ⟨d, u, rfl, -, hgap⟩ := starts
  rw [List.length_append, List.length_cons] at hn
  refine ⟨d :: u ++ c :: rest, ?_, reads n c rest (by omega) hc⟩
  rw [List.append_assoc, List.cons_append, named_word hw, List.cons_append, skip_of_not_gap hgap]

/-- Integers are arguments. -/
theorem readsArgument_ofInt (k : Int) : ReadsArgument (Text.ofInt k) ⟨none, .int k⟩ := by
  obtain ⟨d, u, hd, hfirst⟩ : ∃ d u, Text.ofInt k = d :: u ∧ (d = '-' ∨ d.isDigit = true) := by
    cases k with
    | ofNat k =>
      obtain ⟨d, u, hd, hdigit⟩ := exists_cons_ofNat k
      exact ⟨d, u, hd, Or.inr hdigit⟩
    | negSucc k => exact ⟨'-', _, rfl, Or.inl rfl⟩
  have hnamed : ∀ t, named (d :: t) = (none, d :: t) := by
    refine named_of_not_nameChar ?_
    rcases hfirst with rfl | hdigit
    · exact Or.inl (by decide)
    · exact Or.inr hdigit
  refine readsArgument_unnamed ⟨d, u, hd, ?_⟩ (fun c rest _ => hd ▸ hnamed _) (reads_ofInt k)
  rcases hfirst with rfl | hdigit
  · decide
  · refine ⟨?_, isGap_of_isNameChar true (isNameChar_of_isDigit hdigit)⟩
    rintro rfl
    exact absurd hdigit (by decide)

/-! ## Calls -/

theorem attributes_words {ws : List Text} (hws : ∀ w ∈ ws, IsWord w) {n : Nat} (hn : ws.length ≤ n) (t : Text) :
    attributes n ((ws.flatMap fun w => '.' :: w) ++ '(' :: t) = (ws, '(' :: t) := by
  induction ws generalizing n with
  | nil => cases n <;> rfl
  | cons w ws ih =>
    rw [List.length_cons] at hn
    obtain ⟨n, rfl⟩ : ∃ m, n = m + 1 := ⟨n - 1, by omega⟩
    have hrest := ih (fun w hw => hws w (List.mem_cons_of_mem _ hw)) (Nat.le_of_succ_le_succ hn)
    have hstop : ((ws.flatMap fun w => '.' :: w) ++ '(' :: t).head?.any isNameChar = false := by
      cases ws <;> rfl
    rw [List.flatMap_cons, List.append_assoc, List.cons_append, attributes,
      takeLexeme_word (hws w List.mem_cons_self) hstop]
    dsimp only
    rw [hrest]

/-- a call as it is written: names with dots between, and a row of arguments -/
def callText (w : Text) (ws : List Text) (t : Text) : Text :=
  w ++ ((ws.flatMap fun w => '.' :: w) ++ '(' :: (t ++ [')']))

/-- **A call is read up to its closing bracket**, whatever follows. -/
theorem expression_call {w : Text} (hw : IsWord w) {ws : List Text} (hws : ∀ w ∈ ws, IsWord w) {t : Text}
    {as : List Built.Argument} (row : IsRow t as) {x : Built} (calls : Built.call? (w :: ws) as = some x)
    (inside : Bool) {n : Nat} (hn : (callText w ws t).length < n) (rest : Text) :
    expression inside n (callText w ws t ++ rest) = some (x, rest) := by
  have hlong := hw.long
  have hlength : ws.length ≤ (ws.flatMap fun w => '.' :: w).length :=
    length_le_length_flatMap (fun w => List.cons_ne_nil '.' w) ws
  simp only [callText, List.length_append, List.length_cons] at hn
  obtain ⟨n, rfl⟩ : ∃ m, n = m + 2 := ⟨n - 2, by omega⟩
  set behind : Text := (ws.flatMap fun w => '.' :: w) ++ '(' :: (t ++ ')' :: rest) with hbehind
  have htext : callText w ws t ++ rest = w ++ behind := by
    simp only [callText, hbehind, List.append_assoc, List.cons_append, List.nil_append]
  have hword : takeLexeme (w ++ behind) = some (.name w, behind) :=
    takeLexeme_word hw (by rw [hbehind]; cases ws <;> rfl)
  have hattributes : attributes (n + 1) behind = (ws, '(' :: (t ++ ')' :: rest)) := attributes_words hws (by omega) _
  have hcall : call (n + 1) (w :: ws) ('(' :: (t ++ ')' :: rest)) = some (x, rest) := by
    rw [call, arguments_row row (by omega)]
    simp only [Option.bind_eq_bind, Option.bind_some, calls, Option.pure_def]
  rw [htext]
  obtain ⟨c, v, rfl⟩ := List.exists_cons_of_ne_nil hw.ne_nil
  have hname : isNameChar c = true := hw.isNameChar_head
  have hdigit : c.isDigit = false := by simpa using hw.first
  have hminus : c ≠ '-' := by rintro rfl; exact absurd hname (by decide)
  have hopen : c ≠ '(' := by rintro rfl; exact absurd hname (by decide)
  rw [List.cons_append] at hword ⊢
  rw [expression, if_neg hminus, if_neg hopen, if_neg (by simp [hdigit]), hword]
  dsimp only
  rw [hattributes, hcall]

/-- A call is an argument. -/
theorem readsArgument_call {w : Text} (hw : IsWord w) {ws : List Text} (hws : ∀ w ∈ ws, IsWord w) {t : Text}
    {as : List Built.Argument} (row : IsRow t as) {x : Built} (calls : Built.call? (w :: ws) as = some x) :
    ReadsArgument (callText w ws t) ⟨none, x⟩ := by
  refine readsArgument_unnamed (hw.starts _) (fun c rest _ => ?_) fun n c rest hn _ =>
    expression_call hw hws row calls true hn (c :: rest)
  rw [callText, List.append_assoc, named, takeLexeme_word hw (by cases ws <;> rfl)]
  cases ws <;> rfl

/-- **Expressions in brackets are a tuple** if a comma stands behind the first, which may be the only one. -/
theorem reads_tuple {g t u : Text} {x : Built} (hg : ∀ c ∈ g, isGap true c = true) (starts : Starts t)
    (first : Reads t x) {as : List Built.Argument} (row : IsRow u as) {xs : List Built}
    (unnamed : as.mapM Built.Argument.unnamed? = some xs) :
    Reads ('(' :: (g ++ (t ++ ',' :: (u ++ [')'])))) (.tuple (x :: xs)) := by
  intro n c rest hn hc
  simp only [List.length_cons, List.length_append] at hn
  obtain ⟨n, rfl⟩ : ∃ m, n = m + 2 := ⟨n - 2, by omega⟩
  have htext : '(' :: (g ++ (t ++ ',' :: (u ++ [')']))) ++ c :: rest =
      '(' :: (g ++ (t ++ ',' :: (u ++ ')' :: c :: rest))) := by
    simp only [List.cons_append, List.append_assoc, List.nil_append]
  have hfirst := first n ',' (u ++ ')' :: c :: rest) (by omega) (Or.inl rfl)
  have hrow := arguments_row row (n := n) (by omega) (c :: rest)
  obtain ⟨d, v, rfl, hd, hgap⟩ := starts
  rw [List.cons_append] at hfirst
  rw [htext, expression, if_neg (by decide), if_pos rfl, skip_append hg, List.cons_append, skip_of_not_gap hgap, group,
    if_neg hd, hfirst]
  simp only [Option.bind_eq_bind, Option.bind_some, skip_of_not_gap (show isGap true ',' = false from rfl), hrow,
    unnamed, Option.pure_def]

end CursorSpec.Expr.Construction
