/-
No text breaks out of its literal.

In the module of a compiled suite every literal stands for its own text, ends at its own closing quotes and keeps to
one line (`literals_read_back`), whatever its text is. Two things carry this besides the quoting itself. What is written
behind a literal never begins with a quote (`IsGuarded`), so that an empty text is not taken for the beginning of a
longer literal. And the texts in triple quotes, whose line ends would not be escaped, have none, because they are made
of titles (`isOneLine_title`).
-/
import CursorSpec.Proofs.Suite.Fragments

namespace CursorSpec

/-! ## Single lines -/

def Text.IsOneLine (t : Text) : Prop := ∀ c ∈ t, c ≠ '\n' ∧ c ≠ '\r'

namespace Text

instance (t : Text) : Decidable t.IsOneLine := List.decidableBAll _ t

theorem isOneLine_append {t u : Text} : IsOneLine (t ++ u) ↔ IsOneLine t ∧ IsOneLine u := List.forall_mem_append

theorem isOneLine_of_isBlank {t : Text} (h : ∀ c ∈ t, isBlank c = false) : IsOneLine t := by
  intro c hc
  constructor <;> rintro rfl <;> cases h _ hc

theorem isOneLine_escapeInner {t : Text} (h : IsOneLine t) : IsOneLine (escapeInner t) := by
  intro d hd
  obtain ⟨c, hc, hd⟩ := List.mem_flatMap.1 hd
  split at hd
  · rcases List.mem_cons.1 hd with rfl | hd
    · decide
    · exact List.mem_singleton.1 hd ▸ h c hc
  · exact List.mem_singleton.1 hd ▸ h c hc

end Text

/-! ## What stands behind literals -/

/-- whether a text may stand behind a literal: it does not begin with a quote -/
def Text.isSeparate (t : Text) : Bool := t.head?.any (· ≠ '\"')

namespace Fragment

/-- whether code follows each literal at once -/
def IsGuarded : List Fragment → Prop
  | [] => True
  | f :: fs => (f.isLiteral = true → ∃ t rest, fs = code t :: rest ∧ t.isSeparate = true) ∧ IsGuarded fs

theorem isGuarded_code {t : Text} {fs : List Fragment} : IsGuarded (code t :: fs) ↔ IsGuarded fs := by
  rw [IsGuarded]
  exact and_iff_right nofun

theorem IsGuarded.append {fs gs : List Fragment} (hf : IsGuarded fs) (hg : IsGuarded gs) : IsGuarded (fs ++ gs) := by
  induction fs with
  | nil => exact hg
  | cons f fs ih =>
    refine ⟨fun hlit => ?_, ih hf.2⟩
    obtain ⟨t, rest, rfl, ht⟩ := hf.1 hlit
    exact ⟨t, rest ++ gs, rfl, ht⟩

theorem IsGuarded.of_append {fs gs : List Fragment} (h : IsGuarded (fs ++ gs)) : IsGuarded gs := by
  induction fs with
  | nil => exact h
  | cons f fs ih => exact ih h.2

/-- whether the literals of a line stay in it: none has a line end, and code or the end of the line follows each -/
structure IsSafe (l : List Fragment) : Prop where
  guarded : IsGuarded (l ++ [code ['\n']])
  oneLine : ∀ f ∈ l, f.isLiteral = true → f.text.IsOneLine

theorem isSafe_nil : IsSafe [] := ⟨⟨nofun, trivial⟩, nofun⟩

theorem isSafe_code_cons {t : Text} {l : List Fragment} : IsSafe (code t :: l) ↔ IsSafe l :=
  ⟨fun h => ⟨isGuarded_code.1 h.guarded, fun f hf => h.oneLine f (List.mem_cons_of_mem _ hf)⟩,
    fun h => ⟨isGuarded_code.2 h.guarded, List.forall_mem_cons.2 ⟨nofun, h.oneLine⟩⟩⟩

/-- Code may follow a quoted text, if it does not begin with a quote. -/
theorem isSafe_quoted_cons {x t : Text} {l : List Fragment} :
    IsSafe (quoted x :: code t :: l) ↔ t.isSeparate = true ∧ IsSafe (code t :: l) := by
  have hx : (quoted x).text.IsOneLine := fun _ hd => Text.ne_of_mem_quote hd
  constructor
  · intro h
    obtain ⟨u, rest, heq, hu⟩ := h.guarded.1 rfl
    cases heq
    exact ⟨hu, h.guarded.2, fun f hf => h.oneLine f (List.mem_cons_of_mem _ hf)⟩
  · rintro ⟨ht, h⟩
    exact ⟨⟨fun _ => ⟨t, _, rfl, ht⟩, h.guarded⟩, List.forall_mem_cons.2 ⟨fun _ => hx, h.oneLine⟩⟩

/-- A quoted text may end a line. -/
theorem isSafe_quoted (x : Text) : IsSafe [quoted x] where
  guarded := ⟨fun _ => ⟨['\n'], [], rfl, rfl⟩, isSafe_nil.guarded⟩
  oneLine f hf _ := by
    rw [List.mem_singleton.1 hf]
    exact fun _ hd => Text.ne_of_mem_quote hd

theorem isSafe_documentation {x : Text} (h : x.IsOneLine) : IsSafe [documentation x] where
  guarded := ⟨fun _ => ⟨['\n'], [], rfl, rfl⟩, isSafe_nil.guarded⟩
  oneLine f hf _ := by
    have hquotes : Text.IsOneLine ['\"', '\"', '\"'] := by decide
    rw [List.mem_singleton.1 hf]
    exact Text.isOneLine_append.2 ⟨hquotes, Text.isOneLine_append.2 ⟨Text.isOneLine_escapeInner h, hquotes⟩⟩

/-! ## Lines -/

theorem isSafe_of_mem_plain {ls : List Text} : ∀ l ∈ plain ls, IsSafe l := by
  intro l hl
  obtain ⟨t, -, rfl⟩ := List.mem_map.1 hl
  exact isSafe_code_cons.2 isSafe_nil

theorem isSafe_of_mem_indented {n : Nat} {ls : List (List Fragment)} (h : ∀ l ∈ ls, IsSafe l) :
    ∀ l ∈ indented n ls, IsSafe l := by
  intro l hl
  obtain ⟨m, hm, rfl⟩ := List.mem_map.1 hl
  exact isSafe_code_cons.2 (h m hm)

theorem isSafe_of_mem_set {ls : List (List Fragment)} (h : ∀ l ∈ ls, IsSafe l) (n : Nat) {x : List Fragment}
    (hx : IsSafe x) : ∀ l ∈ ls.set n x, IsSafe l := by
  intro l hl
  rcases List.mem_or_eq_of_mem_set hl with hl | rfl
  · exact h l hl
  · exact hx

/-- Lines that are safe are guarded one after another. -/
theorem isGuarded_of_isSafe {ls : List (List Fragment)} (h : ∀ l ∈ ls, IsSafe l) :
    IsGuarded (ls.flatMap (· ++ [code ['\n']])) := by
  induction ls with
  | nil => trivial
  | cons l ls ih =>
    obtain ⟨hl, hls⟩ := List.forall_mem_cons.1 h
    exact hl.guarded.append (ih hls)

end Fragment

open Fragment

theorem Flag.isSafe_fragments (names : CommandNames) (f : Flag) : IsSafe (f.fragments names) := by
  simp only [fragments, isSafe_code_cons, isSafe_quoted_cons]
  exact ⟨rfl, rfl, rfl, isSafe_nil⟩

namespace Invocation

theorem isSafe_fragments (i : Invocation) {l : List Fragment} (hl : IsSafe l) : IsSafe (i.fragments ++ l) := by
  unfold fragments fragmentsWith
  cases i.args <;>
    simp only [Option.toList_none, Option.toList_some, List.map_nil, List.map_cons, List.nil_append, List.cons_append,
      isSafe_code_cons, isSafe_quoted_cons] <;>
    exact ⟨rfl, hl⟩

theorem isSafe_typingFragments (i : Invocation) {l : List Fragment} (hl : IsSafe l) :
    IsSafe (i.typingFragments ++ l) := by
  unfold typingFragments
  split
  · simp only [fragmentsWith, List.nil_append, List.cons_append, isSafe_code_cons, isSafe_quoted_cons]
    exact ⟨rfl, rfl, hl⟩
  · exact i.isSafe_fragments hl

end Invocation

theorem TestStep.isSafe_of_mem {names : CommandNames} {s : TestStep} : ∀ l ∈ s.fragmentLines names, IsSafe l := by
  cases s with
  | configure f => exact List.forall_mem_singleton.2 (f.isSafe_fragments names)
  | invoke i is =>
    cases is with
    | nil =>
      have hi := i.isSafe_fragments isSafe_nil
      rw [List.append_nil] at hi
      exact List.forall_mem_singleton.2 (isSafe_code_cons.2 hi)
    | cons j is =>
      have hcomma : IsSafe [code [',']] := isSafe_code_cons.2 isSafe_nil
      have hcalls : ∀ l ∈ (i.fragments :: (j :: is).map Invocation.typingFragments).map (· ++ [code [',']]),
          IsSafe l := by
        rw [List.forall_mem_map, List.forall_mem_cons, List.forall_mem_map]
        exact ⟨i.isSafe_fragments hcomma, fun k _ => k.isSafe_typingFragments hcomma⟩
      refine List.forall_mem_cons.2 ⟨isSafe_code_cons.2 isSafe_nil, List.forall_mem_append.2 ⟨?_, ?_⟩⟩
      · exact isSafe_of_mem_indented hcalls
      · exact List.forall_mem_singleton.2 (isSafe_code_cons.2 isSafe_nil)

namespace SuiteTest

variable {t : SuiteTest}

/-- A line of the usual form: code, a quoted text and code again. -/
theorem isSafe_between (a x : Text) {b : Text} (hb : b.isSeparate = true) : IsSafe [code a, quoted x, code b] := by
  simp only [isSafe_code_cons, isSafe_quoted_cons]
  exact ⟨hb, isSafe_nil⟩

theorem isSafe_of_mem_opening (hlabel : t.label.IsOneLine) : ∀ l ∈ t.openingFragments, IsSafe l := by
  have hword : Text.IsOneLine "transition " := by decide
  refine isSafe_of_mem_set isSafe_of_mem_plain 1 (isSafe_code_cons.2 ?_)
  exact isSafe_documentation (Text.isOneLine_append.2 ⟨hword, hlabel⟩)

theorem isSafe_of_mem_wait {timeout : Option Int} : ∀ l ∈ t.waitFragments timeout, IsSafe l := by
  cases timeout with
  | none => exact isSafe_of_mem_set isSafe_of_mem_plain 0 (isSafe_between _ _ rfl)
  | some ms =>
    exact isSafe_of_mem_set (isSafe_of_mem_set isSafe_of_mem_plain 1 (isSafe_between _ _ rfl)) 3
      (isSafe_between _ _ rfl)

theorem isSafe_of_mem_setup : ∀ l ∈ t.setupFragments, IsSafe l :=
  isSafe_of_mem_set (isSafe_of_mem_set isSafe_of_mem_plain 2 (isSafe_between _ _ rfl)) 3 (isSafe_between _ _ rfl)

theorem isSafe_of_mem_closing : ∀ l ∈ t.closingFragments, IsSafe l :=
  isSafe_of_mem_set (isSafe_of_mem_set isSafe_of_mem_plain 3 (isSafe_between _ _ rfl)) 7 (isSafe_between _ _ rfl)

theorem isSafe_of_mem_steps {names : CommandNames} : ∀ l ∈ t.stepFragments names, IsSafe l := by
  have hsteps : ∀ l ∈ t.steps.flatMap (TestStep.fragmentLines names), IsSafe l :=
    List.forall_mem_flatMap.2 fun s _ => TestStep.isSafe_of_mem
  unfold stepFragments
  split
  · exact nofun
  · refine List.forall_mem_cons.2 ⟨isSafe_code_cons.2 isSafe_nil, List.forall_mem_append.2 ⟨?_, ?_⟩⟩
    · exact isSafe_of_mem_indented hsteps
    · exact List.forall_mem_singleton.2 isSafe_nil

/-- **Lines of a test's function are safe**, if its label has no line ends. -/
theorem isSafe_of_mem (hlabel : t.label.IsOneLine) {settings : Settings} :
    ∀ l ∈ t.fragmentLines settings, IsSafe l := by
  simp only [fragmentLines, List.forall_mem_append]
  exact ⟨⟨⟨⟨isSafe_of_mem_opening hlabel, isSafe_of_mem_wait⟩, isSafe_of_mem_setup⟩, isSafe_of_mem_steps⟩,
    isSafe_of_mem_closing⟩

end SuiteTest

namespace Suite

variable {s : Suite}

theorem isSafe_of_mem_head : ∀ l ∈ s.headFragments, IsSafe l :=
  isSafe_of_mem_set (isSafe_of_mem_set isSafe_of_mem_plain 13 (isSafe_code_cons.2 (isSafe_quoted _))) 20
    (isSafe_code_cons.2 (Flag.isSafe_fragments _ _))

theorem isSafe_of_mem (hlabels : ∀ t ∈ s.tests, t.label.IsOneLine) : ∀ l ∈ s.fragmentLines, IsSafe l := by
  simp only [fragmentLines, List.forall_mem_append, List.forall_mem_flatMap, List.forall_mem_map]
  refine ⟨⟨⟨isSafe_of_mem_head, fun x _ => ?_⟩, fun t _ => ?_⟩,
    fun t ht => ⟨?_, SuiteTest.isSafe_of_mem (hlabels t ht)⟩⟩
  · exact isSafe_of_mem_set isSafe_of_mem_plain 1 (SuiteTest.isSafe_between _ _ rfl)
  · simp only [declarationFragments, isSafe_code_cons, isSafe_quoted_cons]
    exact ⟨rfl, rfl, isSafe_nil⟩
  · exact List.forall_mem_cons.2 ⟨isSafe_nil, List.forall_mem_singleton.2 isSafe_nil⟩

/-! ## Compiled suites -/

variable {settings : Settings} {name text : Text}

/-- Labels are made of titles, which have no line ends. -/
theorem isOneLine_label (h : compile settings name text = .ok s) : ∀ t ∈ s.tests, t.label.IsOneLine := by
  intro t ht
  obtain ⟨spec, r, hspec, hr, hof⟩ := of_compile h
  obtain ⟨hdeclared, rfl⟩ := Spec.resolve_eq_ok_iff.1 hr
  obtain ⟨i, hi⟩ := List.getElem?_of_mem ht
  obtain ⟨tr, htr, htitle, hafter, -⟩ := getElem?_of_forall₂ hof.tests hi
  have hown : tr.title ∈ spec.titles :=
    List.mem_append_right _ (List.mem_map_of_mem (List.mem_of_getElem? htr))
  have hbefore : tr.comesAfter ∈ spec.titles := by
    rcases hdeclared.after i tr htr with hmem | hmem
    · exact List.mem_append_left _ hmem
    · exact List.mem_append_right _ (List.map_subset _ (List.take_subset _ _) hmem)
  have hline {x : Text} (hx : x ∈ spec.titles) : x.IsOneLine :=
    Text.isOneLine_of_isBlank fun _ hc => Spec.isBlank_of_mem_titles hspec hx hc
  have hsign : Text.IsOneLine " > " := by decide
  unfold SuiteTest.label
  rw [htitle, hafter]
  exact Text.isOneLine_append.2 ⟨Text.isOneLine_append.2 ⟨hline hbefore, hsign⟩, hline hown⟩

theorem isOneLine_of_mem_fragments (safe : ∀ l ∈ s.fragmentLines, IsSafe l) {f : Fragment} (hf : f ∈ s.fragments)
    (literal : f.isLiteral = true) : f.text.IsOneLine := by
  obtain ⟨l, hl, hf⟩ := List.mem_flatMap.1 hf
  rcases List.mem_append.1 hf with hf | hf
  · exact (safe l hl).oneLine f hf literal
  · rw [List.mem_singleton.1 hf] at literal
    cases literal

end Suite

namespace Fragment

theorem readsLiteral_documentation (x rest : Text) : Expr.ReadsLiteral ((documentation x).text ++ rest) x rest := by
  have hquotes : (documentation x).text ++ rest =
      '\"' :: '\"' :: '\"' :: (Text.escapeInner x ++ '\"' :: '\"' :: '\"' :: rest) := by simp [text]
  rw [hquotes]
  exact Expr.readsLiteral_long x rest

/-- A literal is read back, except where it is empty and a quote follows. -/
theorem readsLiteral {f : Fragment} {x rest : Text} (hf : f.literal? = some x)
    (h : x ≠ [] ∨ rest.head? ≠ some '\"') : Expr.ReadsLiteral (f.text ++ rest) x rest := by
  cases f with
  | code t => cases hf
  | quoted t =>
    cases hf
    exact Expr.readsLiteral_quote h
  | documentation t =>
    cases hf
    exact readsLiteral_documentation x rest

end Fragment

namespace Suite

def documentation (s : Suite) : Text :=
  "Transition tests generated from " ++ s.name ++
    " by statebook.\n\nDo not edit: regenerate with \x60statebook build\x60.\n"

theorem escapeInner_documentation (s : Suite) : Text.escapeInner s.documentation =
    "Transition tests generated from " ++ Text.escapeInner s.name ++
      " by statebook.\n\nDo not edit: regenerate with \x60statebook build\x60.\n" := by
  have hfront : Text.escapeInner "Transition tests generated from " = "Transition tests generated from " := by decide
  have hback : Text.escapeInner " by statebook.\n\nDo not edit: regenerate with \x60statebook build\x60.\n" =
      " by statebook.\n\nDo not edit: regenerate with \x60statebook build\x60.\n" := by decide
  unfold documentation
  rw [Text.escapeInner, List.flatMap_append, List.flatMap_append, ← Text.escapeInner, ← Text.escapeInner,
    ← Text.escapeInner, hfront, hback]

/-- **A module begins with what it says of itself**, and no name breaks out of that either. -/
theorem readsLiteral_source (s : Suite) : ∃ rest, Expr.ReadsLiteral s.source s.documentation rest := by
  have hopening : ("\"\"\"Transition tests generated from " : Text) =
      '\"' :: '\"' :: '\"' :: "Transition tests generated from ".toList := by decide
  have hclosing : ("\"\"\"" : Text) = ['\"', '\"', '\"'] := by decide
  have hlines : (" by statebook.\n\nDo not edit: regenerate with \x60statebook build\x60.\n" : Text) =
      " by statebook." ++ (['\n'] ++ (['\n'] ++
        ("Do not edit: regenerate with \x60statebook build\x60.".toList ++ ['\n']))) := by decide
  obtain ⟨ls, hls⟩ : ∃ ls, s.sourceLines =
      ["\"\"\"Transition tests generated from " ++ Text.escapeInner s.name ++ " by statebook.", [],
        "Do not edit: regenerate with \x60statebook build\x60.", "\"\"\""] ++ ls := by
    unfold sourceLines headLines
    exact ⟨_, rfl⟩
  have hsource : s.source = (Fragment.documentation s.documentation).text ++
      (['\n'] ++ ls.flatMap (· ++ ['\n'])) := by
    rw [source, Text.unlines_concat (by rw [hls]; exact List.cons_ne_nil _ _), hls, Fragment.text,
      escapeInner_documentation, hopening, hlines, hclosing]
    simp only [List.flatMap_cons, List.append_assoc, List.nil_append, List.cons_append]
  rw [hsource]
  exact ⟨_, readsLiteral_documentation _ _⟩

/-- **No text breaks out of its literal.** The fragments of a compiled module are its text, and the literals among them
are those of the spec, where each typed text is one character. Each of these literals keeps to one line and is read
back as its own text, up to its own closing quotes: behind it stands a character before which it ends, whatever else
follows, and unless its text is empty it ends there whatever follows at all. What the module says of itself, which is
longer than a line, is read back as well. -/
theorem literals_read_back {settings : Settings} {name text : Text} {s : Suite}
    (h : compile settings name text = .ok s) :
    s.fragments.flatMap Fragment.text = s.source ∧
      (∃ spec r, Spec.read text = .ok spec ∧ spec.resolve = .ok r ∧
        s.fragments.filter Fragment.isLiteral = r.literals settings name ∧
        ∀ t ∈ r.tests, ∀ o ∈ t.operations, o.isTyping = true → ∃ c, o.text = some [c]) ∧
      (∀ before f after x, s.fragments = before ++ f :: after → f.literal? = some x →
        f.text.IsOneLine ∧
          (∃ c u, after.flatMap Fragment.text = c :: u ∧
            ∀ rest, Expr.ReadsLiteral (f.text ++ c :: rest) x (c :: rest)) ∧
          (x ≠ [] → ∀ rest, Expr.ReadsLiteral (f.text ++ rest) x rest)) ∧
      ∃ rest, Expr.ReadsLiteral s.source s.documentation rest := by
  have safe : ∀ l ∈ s.fragmentLines, IsSafe l := isSafe_of_mem (isOneLine_label h)
  refine ⟨s.text_fragments, ?_, fun before f after x hsplit hf => ⟨?_, ?_, fun hx rest => ?_⟩, s.readsLiteral_source⟩
  · obtain ⟨spec, r, hspec, hr, hliterals⟩ := literals_of_compile h
    obtain ⟨-, rfl⟩ := Spec.resolve_eq_ok_iff.1 hr
    exact ⟨spec, _, hspec, hr, hliterals, fun t ht o => Spec.text_of_isTyping hspec ht⟩
  · have hmem : f ∈ s.fragments := hsplit ▸ List.mem_append_right _ List.mem_cons_self
    exact isOneLine_of_mem_fragments safe hmem (by rw [isLiteral, hf]; rfl)
  · have hguarded : IsGuarded s.fragments := isGuarded_of_isSafe safe
    rw [hsplit] at hguarded
    obtain ⟨t, rest, rfl, ht⟩ := hguarded.of_append.1 (by rw [isLiteral, hf]; rfl)
    cases t with
    | nil => cases ht
    | cons c t =>
      have hc : c ≠ '\"' := of_decide_eq_true ht
      exact ⟨c, t ++ rest.flatMap Fragment.text, rfl, fun u => readsLiteral hf (Or.inr fun h => hc (Option.some.inj h))⟩
  · exact readsLiteral hf (Or.inl hx)

/-- a spec with a title that ends in a quote and a backslash, and a test that types a quote -/
def quotingText : Text :=
  let fence : Text := "\x60\x60\x60"
  Text.unlines ["# A", fence, ['|'], fence, "# say \"\\", "[to](#A)", "- run", "- type:\"", fence, ['|'], fence]

def quoting : Suite where
  name := "s"
  seeds := [⟨"A", .make [] [.caret ⟨0, 0⟩]⟩]
  tests := [⟨"test_a_to_say", "say-\"\\", "A",
    [.invoke ⟨"run", none, 0⟩ [⟨"type", some "\x7b\"text\": \"\\\"\"\x7d", 20⟩]], .make [] [.caret ⟨0, 0⟩]⟩]
  settings := .default

theorem compile_quoting : compile .default "s" quotingText = .ok quoting := by decide +kernel

/-- The title, what the test says of itself, and what it types stay inside their literals, whatever follows. -/
theorem literals_read_back_quoting :
    compile .default "s" quotingText = .ok quoting ∧
      ∀ f ∈ [Fragment.quoted "say-\"\\", .documentation "transition A > say-\"\\", .quoted "\""],
        f ∈ quoting.fragments ∧ f.text.IsOneLine ∧
          ∃ x, f.literal? = some x ∧ ∀ rest, Expr.ReadsLiteral (f.text ++ rest) x rest := by
  refine ⟨compile_quoting, fun f hf => ?_⟩
  have hmem : f ∈ quoting.fragments := by
    revert f
    decide +kernel
  obtain ⟨x, hx, hne⟩ : ∃ x, f.literal? = some x ∧ x ≠ [] := by
    revert f
    simp [Fragment.literal?]
  obtain ⟨before, after, hsplit⟩ := List.append_of_mem hmem
  obtain ⟨hline, -, hread⟩ := (literals_read_back compile_quoting).2.2.1 before f after x hsplit hx
  exact ⟨hmem, hline, x, hx, hread hne⟩

end Suite

end CursorSpec
