/-
What checking a spec promises about compiling it.

The check command reads a spec and resolves it, and looks no further (`exit_check_eq_zero_iff`). Compiling goes on from
there: the block of every entry is decoded, and the operations of every transition become steps. So a text compiles if
and only if it is checked, all of its blocks are documents and no transition begins by typing (`compiles_iff_checked`),
and a text that is checked and does not compile has one of these two things wrong with it (`Hides`).
-/
import CursorSpec.CommandLine.Commands
import CursorSpec.Proofs.Lists
import CursorSpec.Proofs.Suite.Loading

namespace CursorSpec

namespace Spec

/-- whether a text reads as a spec that resolves, and to what -/
def Checks (text : Text) (r : ResolvedSpec) : Prop := (do (← read text).resolve) = .ok r

end Spec

def Entry.IsDecodable (e : Entry) : Prop := ∃ d, Document.decode e.content = .ok d

def Transition.BeginsWithCommand (t : Transition) : Prop := ∀ o, t.operations.head? = some o → o.isTyping = false

namespace ResolvedSpec

/-- the entries in the order they run -/
def entries (r : ResolvedSpec) : List Entry := r.setups.map .initial ++ r.tests.map .transition

/-- what checking does not look at: blocks, and what typing joins -/
structure IsPlayable (r : ResolvedSpec) : Prop where
  documents : ∀ e ∈ r.entries, e.IsDecodable
  steps : ∀ t ∈ r.tests, t.BeginsWithCommand

/-- the problems that a spec may have though it resolves -/
inductive Hides (r : ResolvedSpec) : Problem → Prop where
  | markers {e : Entry} {m : MarkerProblem} (mem : e ∈ r.entries) (wrong : Document.decode e.content = .error m) :
    Hides r ⟨.entryMarker e.title m, e.line⟩
  | typing {t : Transition} {o : Operation} (mem : t ∈ r.tests) (first : t.operations.head? = some o)
    (types : o.isTyping = true) : Hides r ⟨.nothingToJoin o.command t.title, o.line⟩

variable {r : ResolvedSpec} {p : Problem}

theorem Hides.not_isPlayable (h : r.Hides p) : ¬ r.IsPlayable := by
  intro playable
  cases h with
  | markers mem wrong =>
    obtain ⟨d, hd⟩ := playable.documents _ mem
    cases wrong.symm.trans hd
  | typing mem first types => exact absurd types (by simp [playable.steps _ mem _ first])

end ResolvedSpec

/-! ## Passes behind the check -/

theorem Entry.document_eq_error_iff {e : Entry} {p : Problem} :
    e.document = .error p ↔ ∃ m, Document.decode e.content = .error m ∧ p = ⟨.entryMarker e.title m, e.line⟩ := by
  unfold document
  cases Document.decode e.content with
  | ok d => simp [Except.mapError]
  | error m => simp [Except.mapError, eq_comm]

namespace Transition

variable {names : CommandNames} {stagger : Int}

/-- What follows the characters typed at the front does not begin by typing. -/
theorem not_isTyping_of_head?_dropWhile {os : List Operation} {o : Operation}
    (h : (os.dropWhile Operation.isTyping).head? = some o) : o.isTyping = false := by
  have hnot := List.head?_dropWhile_not Operation.isTyping os
  rw [h] at hnot
  simpa using hnot

theorem exists_invokeSteps {title : Text} {os : List Operation}
    (h : ∀ o, os.head? = some o → o.isTyping = false) : ∃ steps, invokeSteps names stagger title os = .ok steps := by
  induction os using invokeSteps.induct names stagger with
  | case1 => exact ⟨[], by rw [invokeSteps]⟩
  | case2 o os typing => cases typing.symm.trans (h o rfl)
  | case3 o os typing ih =>
    obtain ⟨steps, hsteps⟩ := ih fun _ => not_isTyping_of_head?_dropWhile
    rw [invokeSteps, if_neg typing, hsteps]
    exact ⟨_, rfl⟩

/-- The operations of a transition fail to become steps only at the first of them, which types. -/
theorem steps_eq_error_iff {t : Transition} {p : Problem} :
    t.steps names stagger = .error p ↔
      ∃ o, t.operations.head? = some o ∧ o.isTyping = true ∧ p = ⟨.nothingToJoin o.command t.title, o.line⟩ := by
  have hsteps : t.steps names stagger = .error p ↔ invokeSteps names stagger t.title t.operations = .error p := by
    unfold steps
    cases invokeSteps names stagger t.title t.operations <;> simp [bind, Except.bind, pure, Except.pure]
  rw [hsteps]
  cases hos : t.operations with
  | nil => simp [invokeSteps]
  | cons o os =>
    by_cases typing : o.isTyping = true
    · rw [invokeSteps, if_pos typing]
      constructor
      · intro h
        exact ⟨o, rfl, typing, (Except.error.inj h).symm⟩
      · rintro ⟨o', ho', -, rfl⟩
        cases ho'
        rfl
    · obtain ⟨steps, hok⟩ : ∃ steps, invokeSteps names stagger t.title (o :: os) = .ok steps :=
        exists_invokeSteps fun o' ho' => by cases ho'; simpa using typing
      rw [hok]
      constructor
      · intro h; cases h
      · rintro ⟨o', ho', htypes, -⟩
        cases ho'
        exact absurd htypes typing

end Transition

namespace Suite

variable {settings : Settings} {r : ResolvedSpec} {p : Problem}

theorem exists_of_seedsOf_eq_error {is : List InitialState} (h : seedsOf is = .error p) :
    ∃ i ∈ is, (Entry.initial i).document = .error p := by
  induction is with
  | nil => cases h
  | cons i is ih =>
    rw [seedsOf] at h
    rcases bind_eq_error_iff.1 h with h | ⟨d, -, h⟩
    · exact ⟨i, List.mem_cons_self, h⟩
    · rcases bind_eq_error_iff.1 h with h | ⟨seeds, -, h⟩
      · obtain ⟨j, hj, hdocument⟩ := ih h
        exact ⟨j, List.mem_cons_of_mem i hj, hdocument⟩
      · cases h

theorem exists_of_testsOf_eq_error {used : List Text} {ts : List Transition}
    (h : testsOf settings used ts = .error p) :
    ∃ t ∈ ts, t.steps settings.commands settings.generator.typeStagger = .error p ∨
      (Entry.transition t).document = .error p := by
  induction ts generalizing used with
  | nil => cases h
  | cons t ts ih =>
    rw [testsOf] at h
    rcases bind_eq_error_iff.1 h with h | ⟨steps, -, h⟩
    · exact ⟨t, List.mem_cons_self, Or.inl h⟩
    · rcases bind_eq_error_iff.1 h with h | ⟨d, -, h⟩
      · exact ⟨t, List.mem_cons_self, Or.inr h⟩
      · rcases bind_eq_error_iff.1 h with h | ⟨tests, -, h⟩
        · obtain ⟨u, hu, hfails⟩ := ih h
          exact ⟨u, List.mem_cons_of_mem t hu, hfails⟩
        · cases h

/-- What is wrong with a resolved spec that makes no suite is hidden from the check. -/
theorem hides_of_ofResolved_eq_error {name : Text} (h : ofResolved settings name r = .error p) : r.Hides p := by
  have hdocument : ∀ e ∈ r.entries, e.document = .error p → r.Hides p := by
    intro e he h
    obtain ⟨m, hm, rfl⟩ := Entry.document_eq_error_iff.1 h
    exact .markers he hm
  rcases bind_eq_error_iff.1 h with h | ⟨seeds, -, h⟩
  · obtain ⟨i, hi, h⟩ := exists_of_seedsOf_eq_error h
    exact hdocument _ (List.mem_append_left _ (List.mem_map_of_mem hi)) h
  · rcases bind_eq_error_iff.1 h with h | ⟨tests, -, h⟩
    · obtain ⟨t, ht, h | h⟩ := exists_of_testsOf_eq_error h
      · obtain ⟨o, first, types, rfl⟩ := Transition.steps_eq_error_iff.1 h
        exact .typing ht first types
      · exact hdocument _ (List.mem_append_right _ (List.mem_map_of_mem ht)) h
    · cases h

/-- A resolved spec that makes a suite is playable. -/
theorem isPlayable_of_ofResolved {name : Text} {s : Suite} (h : ofResolved settings name r = .ok s) :
    r.IsPlayable := by
  obtain ⟨seeds, hseeds, h⟩ := bind_eq_ok_iff.1 h
  obtain ⟨tests, htests, -⟩ := bind_eq_ok_iff.1 h
  have hseeds := forall₂_of_seedsOf hseeds
  have htests := forall₂_of_testsOf htests
  constructor
  · intro e he
    rcases List.mem_append.1 he with he | he
    · obtain ⟨i, hi, rfl⟩ := List.mem_map.1 he
      obtain ⟨x, -, hx⟩ := exists_of_mem_forall₂ hseeds hi
      exact ⟨_, hx.2⟩
    · obtain ⟨t, ht, rfl⟩ := List.mem_map.1 he
      obtain ⟨x, -, hx⟩ := exists_of_mem_forall₂ htests ht
      exact ⟨_, hx.1.2.2⟩
  · intro t ht o first
    obtain ⟨x, -, -, hsteps⟩ := exists_of_mem_forall₂ htests ht
    cases types : o.isTyping with
    | false => rfl
    | true => cases hsteps.symm.trans (Transition.steps_eq_error_iff.2 ⟨o, first, types, rfl⟩)

/-- A text that is checked compiles to what its resolved spec makes. -/
theorem compile_of_checks {name text : Text} (h : Spec.Checks text r) :
    compile settings name text = ofResolved settings name r := by
  obtain ⟨spec, hspec, hr⟩ := bind_eq_ok_iff.1 h
  rw [compile, hspec]
  show (do ofResolved settings name (← spec.resolve)) = _
  rw [hr]
  rfl

theorem checks_of_compile {name text : Text} {s : Suite} (h : compile settings name text = .ok s) :
    ∃ r, Spec.Checks text r ∧ ofResolved settings name r = .ok s := by
  obtain ⟨spec, hspec, h⟩ := bind_eq_ok_iff.1 h
  obtain ⟨r, hr, h⟩ := bind_eq_ok_iff.1 h
  exact ⟨r, bind_eq_ok_iff.2 ⟨spec, hspec, hr⟩, h⟩

end Suite

/-! ## The command -/

namespace Markup

/-- A tag at the head of a text is not shown. -/
theorem renderFrom_tag {t body after : Text} {opened opened' : List Text} (tag : tag? t = some (body, after))
    (opens : afterTag opened body = some opened') (n : Nat) :
    renderFrom (n + 1) opened t = renderFrom n opened' after := by
  obtain ⟨t, rfl⟩ : ∃ u, t = '[' :: u := by
    unfold tag? at tag
    split at tag
    · exact ⟨_, rfl⟩
    · cases tag
  simp [renderFrom, tag, opens, backslashes]

/-- whether a character begins neither a tag nor an escape -/
def IsPlain (c : Char) : Prop := c ≠ '[' ∧ c ≠ '\\'

theorem renderFrom_cons {c : Char} (plain : IsPlain c) (n : Nat) (opened : List Text) (t : Text) :
    renderFrom (n + 1) opened (c :: t) = (renderFrom n opened t).map (c :: ·) := by
  obtain ⟨hbracket, hbackslash⟩ := plain
  have htag : tag? (c :: t) = none := by
    unfold tag?
    split
    · next h => cases h; exact absurd rfl hbracket
    · rfl
  cases h : renderFrom n opened t <;> simp [renderFrom, hbackslash, htag, h]

/-- A text of plain characters shows as itself. -/
theorem renderFrom_plain {t : Text} (plain : ∀ c ∈ t, IsPlain c) {n : Nat} (enough : t.length ≤ n)
    (opened : List Text) : renderFrom n opened t = some t := by
  induction t generalizing n with
  | nil => cases n <;> rfl
  | cons c t ih =>
    cases n with
    | zero => simp at enough
    | succ n =>
      have hrest := ih (fun d hd => plain d (List.mem_cons_of_mem c hd)) (Nat.le_of_succ_le_succ enough)
      rw [renderFrom_cons (plain c List.mem_cons_self), hrest]
      rfl

theorem render?_ticked {t : Text} (plain : ∀ c ∈ t, IsPlain c) :
    render? ("[green]✓[/green]".toList ++ t) = some (layout ('✓' :: t)) := by
  have hopen : tag? ("[green]✓[/green]".toList ++ t) = some ("green".toList, '✓' :: ("[/green]".toList ++ t)) := rfl
  have hclose : tag? ("[/green]".toList ++ t) = some ("/green".toList, t) := rfl
  have hlength : ("[green]✓[/green]".toList ++ t).length = t.length + 13 + 1 + 1 + 1 := rfl
  have htick : IsPlain '✓' := ⟨by decide, by decide⟩
  rw [render?, hlength, renderFrom_tag hopen (by rfl), renderFrom_cons htick, renderFrom_tag hclose (by rfl),
    renderFrom_plain plain (by omega)]
  rfl
end Markup

/-- The digits of a number are plain. -/
theorem Text.isPlain_of_mem_ofNat {n : Nat} {c : Char} (h : c ∈ ofNat n) : Markup.IsPlain c := by
  have hdigit := Nat.isDigit_of_mem_toDigits (by decide) (by decide) h
  constructor <;> rintro rfl <;> exact absurd hdigit (by decide)

namespace CommandLine

/-- what the check command says of a spec that resolves, behind the tick -/
def validWords (r : ResolvedSpec) : Text :=
  " Valid: ".toList ++ Text.ofNat r.setups.length ++ " initial states, ".toList ++ Text.ofNat r.tests.length ++
    " transitions".toList

theorem isPlain_of_mem_validWords (r : ResolvedSpec) : ∀ c ∈ validWords r, Markup.IsPlain c := by
  unfold validWords
  simp only [List.forall_mem_append]
  have hfirst : ∀ c ∈ " Valid: ".toList, Markup.IsPlain c := by simp [Markup.IsPlain]
  have hsecond : ∀ c ∈ " initial states, ".toList, Markup.IsPlain c := by simp [Markup.IsPlain]
  have hthird : ∀ c ∈ " transitions".toList, Markup.IsPlain c := by simp [Markup.IsPlain]
  exact ⟨⟨⟨⟨hfirst, fun c => Text.isPlain_of_mem_ofNat⟩, hsecond⟩, fun c => Text.isPlain_of_mem_ofNat⟩, hthird⟩

theorem line_validWords (r : ResolvedSpec) :
    ∃ shown, line ("[green]✓[/green]".toList ++ validWords r) = .ok shown := by
  rw [line, Markup.render?_ticked (isPlain_of_mem_validWords r)]
  exact ⟨_, rfl⟩

/-- **The check command succeeds on a file exactly if its text reads and resolves.** -/
theorem exit_check_eq_zero_iff {t : FileTree} {p : Parsed} {path text : Text} (argument : p.arguments = [path])
    (file : isFile t path = true) (read : t.read (.parse path) = .ok text) :
    (check t p).exit = 0 ↔ ∃ r, Spec.Checks text r := by
  have hresolve : resolveFile t (.parse path) = Build.orReport (Spec.read text >>= Spec.resolve) := by
    simp [resolveFile, read, Except.mapError, bind, Except.bind]
  have hchecks (r : ResolvedSpec) : Spec.Checks text r ↔ Spec.read text >>= Spec.resolve = .ok r := Iff.rfl
  unfold check onFile
  rw [argument]
  simp only [file, hresolve, hchecks, Bool.not_true, Bool.false_eq_true, if_false]
  cases Spec.read text >>= Spec.resolve with
  | error problem =>
    have hexit (out : Except Abort Text) : (answer 1 t out).exit ≠ 0 := by cases out <;> simp [answer]
    refine iff_of_false ?_ nofun
    unfold Build.orReport
    dsimp only
    split
    · next h =>
      split at h
      · exact hexit _
      · cases h
    · exact hexit _
    · next h => split at h <;> cases h
  | ok r =>
    obtain ⟨shown, hshown⟩ := line_validWords r
    have hwords : "[green]✓[/green] Valid: ".toList ++ Text.ofNat r.setups.length ++ " initial states, ".toList ++
        Text.ofNat r.tests.length ++ " transitions".toList = "[green]✓[/green]".toList ++ validWords r := rfl
    refine iff_of_true ?_ ⟨r, rfl⟩
    simp only [Build.orReport]
    rw [hwords, hshown]
    rfl

end CommandLine

namespace Suite

/-- **A text compiles if and only if it is checked, its blocks are documents and no transition begins by typing.** The
check command, which succeeds exactly on texts that read and resolve, sees nothing of the latter two; of a text that it
accepts and that does not compile, one of them is what is wrong. -/
theorem compiles_iff_checked (settings : Settings) (name text : Text) :
    (∀ t p path, p.arguments = [path] → CommandLine.isFile t path = true → t.read (.parse path) = .ok text →
      ((CommandLine.check t p).exit = 0 ↔ ∃ r, Spec.Checks text r)) ∧
      ((∃ s, compile settings name text = .ok s) ↔ ∃ r, Spec.Checks text r ∧ r.IsPlayable) ∧
      ∀ r p, Spec.Checks text r → compile settings name text = .error p → r.Hides p := by
  have hhides : ∀ r p, Spec.Checks text r → compile settings name text = .error p → r.Hides p := by
    intro r p checks h
    rw [compile_of_checks checks] at h
    exact hides_of_ofResolved_eq_error h
  refine ⟨fun t p path argument file read => CommandLine.exit_check_eq_zero_iff argument file read, ?_, hhides⟩
  constructor
  · rintro ⟨s, h⟩
    obtain ⟨r, checks, hs⟩ := checks_of_compile h
    exact ⟨r, checks, isPlayable_of_ofResolved hs⟩
  · rintro ⟨r, checks, playable⟩
    cases h : compile settings name text with
    | ok s => exact ⟨s, rfl⟩
    | error p => exact absurd playable (hhides r p checks h).not_isPlayable

/-- a spec whose only block opens a selection that nothing closes -/
def unclosedText : Text :=
  let fence : Text := "\x60\x60\x60"
  Text.unlines ["# A", fence, "[a", fence, []]

def unclosedTree : FileTree := ⟨"/", [(["a.md"], .file (.text unclosedText))]⟩

theorem read_unclosed : unclosedTree.read (.parse "a.md") = .ok unclosedText := by decide

theorem checks_unclosed : Spec.Checks unclosedText ⟨[⟨"A", [], "[a\n", some 1⟩], []⟩ := by
  unfold Spec.Checks
  decide +kernel

/-- The check command succeeds on that spec; its only entry is what is wrong with it. -/
theorem compiles_iff_checked_unclosed :
    (CommandLine.check unclosedTree ⟨[], ["a.md"]⟩).exit = 0 ∧
      ∃ r p, compile .default "a.md" unclosedText = .error p ∧ ResolvedSpec.Hides r p := by
  obtain ⟨hcheck, hcompiles, hhides⟩ := compiles_iff_checked .default "a.md" unclosedText
  refine ⟨(hcheck unclosedTree ⟨[], ["a.md"]⟩ "a.md" rfl (by decide) read_unclosed).2 ⟨_, checks_unclosed⟩, ?_⟩
  have hfails : compile .default "a.md" unclosedText =
      .error ⟨.entryMarker "A" (.unclosed ⟨0, 0⟩), some 1⟩ := by decide +kernel
  exact ⟨_, _, hfails, hhides _ _ checks_unclosed hfails⟩

/-- Not every text that checks compiles. -/
theorem not_compiles_iff_checked :
    ¬∀ text, (∃ r, Spec.Checks text r) ↔ ∃ s, compile .default "spec.md" text = .ok s := by
  intro h
  obtain ⟨s, hs⟩ := (h unclosedText).1 ⟨_, checks_unclosed⟩
  have hfails : (compile .default "spec.md" unclosedText).toOption = none := by decide +kernel
  rw [hs] at hfails
  cases hfails

end Suite

end CursorSpec
