/-
The fragments of a suite's module.

Put one after another, they are the text of the module (`text_fragments`), line by line as it is written. The literals
among them are the texts of the resolved spec, in the order in which the module needs them (`literals_of_compile`).
-/
import CursorSpec.Proofs.Expr.Literal
import CursorSpec.Proofs.Spec.Parts
import CursorSpec.Proofs.Spec.Resolving
import CursorSpec.Proofs.Suite.Steps
import CursorSpec.Suite.Fragments

namespace CursorSpec

/-! ## The text of fragments -/

namespace Fragment

theorem text_plain (ls : List Text) : (plain ls).map (List.flatMap text) = ls := by
  simp [plain, text, Function.comp_def]

theorem text_indented (n : Nat) (ls : List (List Fragment)) :
    (indented n ls).map (List.flatMap text) = Text.indented n (ls.map (List.flatMap text)) := by
  simp [indented, Text.indented, text, Function.comp_def]

end Fragment

theorem Flag.text_fragments (names : CommandNames) (f : Flag) :
    (f.fragments names).flatMap Fragment.text = f.statement names := by
  unfold statement arguments
  simp only [fragments, List.flatMap_cons, List.flatMap_nil, Fragment.text, List.append_assoc, List.append_nil]

namespace Invocation

/-- **The text that a call types** is the one that its arguments quote. -/
theorem typedText?_eq_some_iff {i : Invocation} {x : Text} : i.typedText? = some x ↔ i.args = some (typing x) := by
  constructor
  · intro h
    unfold typedText? at h
    obtain ⟨a, -, h⟩ := Option.bind_eq_some_iff.1 h
    obtain ⟨t, -, h⟩ := Option.bind_eq_some_iff.1 h
    obtain ⟨⟨l, rest⟩, -, h⟩ := Option.bind_eq_some_iff.1 h
    cases l with
    | quotation q => exact of_decide_eq_true (Option.filter_eq_some_iff.1 h).2
    | _ => cases h
  · intro h
    have hcut : Text.afterStart? "\x7b\"text\": " (typing x) = some (Text.quote x ++ "\x7d") := by
      rw [Text.afterStart?_eq_some_iff]
      unfold typing
      rw [List.append_assoc]
    have hread : Expr.takeLexeme (Text.quote x ++ "\x7d") =
        some (Expr.Lexeme.quotation (Expr.quotationOf x), String.toList "\x7d") :=
      Expr.takeLexeme_quote (Or.inr (by decide))
    unfold typedText?
    simp only [h, Option.bind_eq_bind, Option.bind_some, hcut, hread, Expr.quotationText_quotationOf,
      Option.filter_some, decide_true, if_true]

theorem text_fragmentsWith {i : Invocation} {args : List Fragment}
    (h : Text.quote i.command ++ args.flatMap Fragment.text = Text.join ", " (Text.quote i.command :: i.args.toList)) :
    (i.fragmentsWith args).flatMap Fragment.text = i.source := by
  unfold source
  rw [← h, fragmentsWith]
  split <;> simp only [List.flatMap_append, List.flatMap_cons, List.flatMap_nil, Fragment.text, List.append_assoc,
    List.append_nil]

theorem text_fragments (i : Invocation) : i.fragments.flatMap Fragment.text = i.source := by
  refine text_fragmentsWith ?_
  cases i.args <;> simp only [Option.toList_some, Option.toList_none, List.map_cons, List.map_nil, List.flatMap_cons,
    List.flatMap_nil, Fragment.text, Text.join, List.append_assoc, List.append_nil]

theorem text_typingFragments (i : Invocation) : i.typingFragments.flatMap Fragment.text = i.source := by
  unfold typingFragments
  split
  · next x hx =>
    refine text_fragmentsWith ?_
    rw [typedText?_eq_some_iff.1 hx]
    unfold typing
    simp only [Option.toList_some, Text.join, List.flatMap_cons, List.flatMap_nil, Fragment.text, List.append_assoc,
      List.append_nil]
  · exact i.text_fragments

end Invocation

theorem TestStep.text_fragmentLines (names : CommandNames) (s : TestStep) :
    (s.fragmentLines names).map (List.flatMap Fragment.text) = s.statements names := by
  cases s with
  | configure f => exact congrArg (fun t => [t]) (f.text_fragments names)
  | invoke i is =>
    cases is with
    | nil => exact congrArg (fun t => [("await " : Text) ++ t]) i.text_fragments
    | cons j is =>
      have hcalls : ((i.fragments :: (j :: is).map Invocation.typingFragments).map (· ++ [.code [',']])).map
          (List.flatMap Fragment.text) = (i :: j :: is).map fun k => k.source ++ [','] := by
        simp [Fragment.text, Invocation.text_fragments, Invocation.text_typingFragments, Function.comp_def]
      show List.flatMap Fragment.text _ :: List.map _ (_ ++ _) = _
      rw [List.map_append, Fragment.text_indented, hcalls]
      simp [Fragment.text, statements]

namespace SuiteTest

variable (t : SuiteTest)

theorem text_openingFragments : t.openingFragments.map (List.flatMap Fragment.text) = t.openingLines := by
  have hfront : ("    \"\"\"transition " : Text) =
      "    " ++ '\"' :: '\"' :: '\"' :: Text.escapeInner "transition " := by decide
  have hback : ("\"\"\"" : Text) = ['\"', '\"', '\"'] := by decide
  have hinner : Text.escapeInner ("transition " ++ t.label) =
      Text.escapeInner "transition " ++ Text.escapeInner t.label := List.flatMap_append
  simp only [openingFragments, List.map_set, Fragment.text_plain, openingLines, List.set_cons_succ, List.set_cons_zero,
    List.flatMap_cons, List.flatMap_nil, Fragment.text, hinner, hfront, hback, List.append_assoc, List.append_nil,
    List.cons_append]

theorem text_waitFragments (timeout : Option Int) :
    (t.waitFragments timeout).map (List.flatMap Fragment.text) = t.waitLines timeout := by
  cases timeout <;> simp only [waitFragments, List.map_set, Fragment.text_plain, waitLines, List.set_cons_succ,
    List.set_cons_zero, List.flatMap_cons, List.flatMap_nil, Fragment.text, List.append_assoc, List.append_nil]

theorem text_setupFragments : t.setupFragments.map (List.flatMap Fragment.text) = t.setupLines := by
  simp only [setupFragments, List.map_set, Fragment.text_plain, setupLines, List.set_cons_succ, List.set_cons_zero,
    List.flatMap_cons, List.flatMap_nil, Fragment.text, List.append_assoc, List.append_nil]

theorem text_stepFragments (names : CommandNames) :
    (t.stepFragments names).map (List.flatMap Fragment.text) = t.stepLines names := by
  have hsteps : (t.steps.flatMap (TestStep.fragmentLines names)).map (List.flatMap Fragment.text) =
      t.steps.flatMap (TestStep.statements names) := by
    simp only [List.map_flatMap, TestStep.text_fragmentLines]
  unfold stepFragments stepLines
  split
  · rfl
  · rw [List.map_cons, List.map_append, Fragment.text_indented, hsteps]
    simp only [List.flatMap_cons, List.flatMap_nil, Fragment.text, List.append_nil, List.map_cons, List.map_nil]

theorem text_closingFragments : t.closingFragments.map (List.flatMap Fragment.text) = t.closingLines := by
  simp only [closingFragments, List.map_set, Fragment.text_plain, closingLines, List.set_cons_succ,
    List.set_cons_zero, List.flatMap_cons, List.flatMap_nil, Fragment.text, List.append_assoc, List.append_nil]

theorem text_fragmentLines (settings : Settings) :
    (t.fragmentLines settings).map (List.flatMap Fragment.text) = t.sourceLines settings := by
  simp only [fragmentLines, List.map_append, text_openingFragments, text_waitFragments, text_setupFragments,
    text_stepFragments, text_closingFragments, sourceLines]

end SuiteTest

theorem Seed.text_fragmentLines (s : Seed) : s.fragmentLines.map (List.flatMap Fragment.text) = s.sourceLines := by
  simp only [fragmentLines, List.map_set, Fragment.text_plain, sourceLines, List.set_cons_succ, List.set_cons_zero,
    List.flatMap_cons, List.flatMap_nil, Fragment.text, List.append_assoc, List.append_nil]

namespace Suite

variable (s : Suite)

theorem text_headFragments : s.headFragments.map (List.flatMap Fragment.text) = s.headLines := by
  simp only [headFragments, List.map_set, Fragment.text_plain, headLines, List.set_cons_succ, List.set_cons_zero,
    List.flatMap_cons, List.flatMap_nil, Fragment.text, Flag.text_fragments, List.append_nil]

theorem text_declarationFragments (t : SuiteTest) :
    (declarationFragments t).flatMap Fragment.text = declaration t := by
  unfold declaration
  simp only [declarationFragments, List.flatMap_cons, List.flatMap_nil, Fragment.text, List.append_assoc,
    List.append_nil]

theorem text_fragmentLines : s.fragmentLines.map (List.flatMap Fragment.text) = s.sourceLines := by
  simp only [fragmentLines, List.map_append, text_headFragments, List.map_flatMap, Seed.text_fragmentLines,
    List.map_map, Function.comp_def, text_declarationFragments, SuiteTest.text_fragmentLines, List.map_cons,
    List.map_nil, List.flatMap_nil, sourceLines]

/-- **The fragments are the module**, one after another. -/
theorem text_fragments : s.fragments.flatMap Fragment.text = s.source := by
  have hlines : s.sourceLines ≠ [] := by
    unfold sourceLines headLines
    exact List.cons_ne_nil _ _
  rw [source, Text.unlines_concat hlines, ← text_fragmentLines, fragments, List.flatMap_assoc, List.flatMap_map]
  refine List.flatMap_congr fun l _ => ?_
  rw [List.flatMap_append]
  rfl

end Suite

/-! ## What the literals of a spec are -/

open Fragment

/-- what the statement of a flag quotes -/
def Flag.literals (names : CommandNames) (f : Flag) : List Fragment :=
  [quoted names.selectionBehavior, quoted f.mode.text, quoted f.behavior.text]

/-- what the call of an operation quotes: its command, or the command that types and what it types -/
def Operation.literals (names : CommandNames) (o : Operation) : List Fragment :=
  if o.isTyping then quoted names.typing :: o.text.toList.map quoted else [quoted (o.fullCommand names)]

/-- what the function of a transition says of itself, and what it quotes -/
def Transition.literals (settings : Settings) (t : Transition) : List Fragment :=
  [documentation ("transition " ++ (t.comesAfter ++ " > " ++ t.title)), quoted t.comesAfter] ++
    (if settings.generator.waitTimeout.isSome then [quoted t.title] else []) ++
    [quoted t.title, quoted (t.comesAfter ++ " did not pass")] ++
    t.flags.flatMap (Flag.literals settings.commands) ++ t.operations.flatMap (Operation.literals settings.commands) ++
    [quoted t.title, quoted t.title]

/-- the literals of a spec's module, from its head on -/
def ResolvedSpec.literals (settings : Settings) (name : Text) (r : ResolvedSpec) : List Fragment :=
  quoted name :: (settings.generator.defaultFlag.literals settings.commands ++
    r.setups.map (fun x => quoted x.title) ++ r.tests.flatMap (fun t => [quoted t.title, quoted t.comesAfter]) ++
    r.tests.flatMap (Transition.literals settings))

namespace Fragment

theorem filter_code (t : Text) (l : List Fragment) : (code t :: l).filter isLiteral = l.filter isLiteral := rfl

theorem filter_quoted (t : Text) (l : List Fragment) :
    (quoted t :: l).filter isLiteral = quoted t :: l.filter isLiteral := rfl

def literalsOf (ls : List (List Fragment)) : List Fragment := ls.flatMap (List.filter isLiteral)

theorem literalsOf_nil : literalsOf [] = [] := rfl

theorem literalsOf_cons (l : List Fragment) (ls : List (List Fragment)) :
    literalsOf (l :: ls) = l.filter isLiteral ++ literalsOf ls := List.flatMap_cons

theorem literalsOf_append (ls ms : List (List Fragment)) : literalsOf (ls ++ ms) = literalsOf ls ++ literalsOf ms :=
  List.flatMap_append

theorem literalsOf_flatMap {α : Type} (xs : List α) (f : α → List (List Fragment)) :
    literalsOf (xs.flatMap f) = xs.flatMap fun x => literalsOf (f x) := List.flatMap_assoc

theorem literalsOf_indented (n : Nat) (ls : List (List Fragment)) : literalsOf (indented n ls) = literalsOf ls := by
  simp [literalsOf, indented, isLiteral, literal?, List.flatMap_map]

end Fragment

theorem Flag.filter_fragments (names : CommandNames) (f : Flag) :
    (f.fragments names).filter isLiteral = f.literals names := rfl

namespace Invocation

theorem filter_fragmentsWith (i : Invocation) (args : List Fragment) :
    (i.fragmentsWith args).filter isLiteral = .quoted i.command :: args.filter isLiteral := by
  rw [fragmentsWith, filter_code, filter_quoted, List.filter_append, filter_code, List.filter_nil, List.append_nil]

theorem filter_fragments (i : Invocation) : i.fragments.filter isLiteral = [.quoted i.command] := by
  rw [fragments, filter_fragmentsWith]
  cases i.args <;> rfl

theorem filter_typingFragments (i : Invocation) :
    i.typingFragments.filter isLiteral = .quoted i.command :: i.typedText?.toList.map .quoted := by
  unfold typingFragments
  split
  · next x hx => rw [filter_fragmentsWith, hx]; rfl
  · next hx => rw [hx, i.filter_fragments]; rfl

end Invocation

namespace TestStep

theorem literalsOf_configure (names : CommandNames) (f : Flag) :
    literalsOf ((TestStep.configure f).fragmentLines names) = f.literals names := by
  rw [fragmentLines, literalsOf_cons, Flag.filter_fragments, literalsOf_nil, List.append_nil]

theorem literalsOf_invoke (names : CommandNames) (i : Invocation) (is : List Invocation) :
    literalsOf ((TestStep.invoke i is).fragmentLines names) =
      .quoted i.command :: is.flatMap fun j => .quoted j.command :: j.typedText?.toList.map .quoted := by
  cases is with
  | nil =>
    simp only [fragmentLines, literalsOf_cons, filter_code, i.filter_fragments, literalsOf_nil, List.append_nil,
      List.flatMap_nil]
  | cons j is =>
    simp only [fragmentLines, literalsOf_cons, literalsOf_append, literalsOf_indented, filter_code, List.map_cons,
      List.filter_append, List.filter_nil, i.filter_fragments, Invocation.filter_typingFragments, literalsOf_nil,
      List.append_nil, List.nil_append, List.flatMap_cons]
    simp only [literalsOf, List.flatMap_map, List.filter_append, Invocation.filter_typingFragments, filter_code,
      List.filter_nil, List.append_nil, List.cons_append, List.nil_append]

end TestStep

namespace Transition

variable {names : CommandNames} {stagger : Int}

theorem typedText?_of_text {o : Operation} {x : Text} (h : o.text = some x) (k : Nat) :
    (o.typingInvocation names stagger k).typedText? = some x := by
  rw [Invocation.typedText?_eq_some_iff]
  refine congrArg some ?_
  unfold Operation.typingArguments Invocation.typing
  rw [h]

theorem literalsOf_typed (names : CommandNames) (stagger : Int) {os : List Operation}
    (typing : ∀ o ∈ os, o.isTyping = true) (typed : ∀ o ∈ os, o.isTyping = true → ∃ c, o.text = some [c]) :
    ((os.mapIdx fun k t => t.typingInvocation names stagger (k + 1)).flatMap fun j =>
      Fragment.quoted j.command :: j.typedText?.toList.map .quoted) = os.flatMap (Operation.literals names) := by
  rw [List.flatMap_def, List.flatMap_def]
  refine congrArg List.flatten (List.ext_getElem (by simp) fun k hk hk' => ?_)
  have hlt : k < os.length := by simpa using hk'
  have htyping := typing os[k] (List.getElem_mem hlt)
  obtain ⟨c, hc⟩ := typed os[k] (List.getElem_mem hlt) htyping
  simp only [List.getElem_map, List.getElem_mapIdx, typedText?_of_text hc, Operation.literals, htyping, if_true, hc]
  rfl

/-- **The literals of steps are those of the operations**, in their order. -/
theorem literals_of_invokeSteps {title : Text} {os : List Operation} {ss : List TestStep}
    (h : invokeSteps names stagger title os = .ok ss) (typed : ∀ o ∈ os, o.isTyping = true → ∃ c, o.text = some [c]) :
    literalsOf (ss.flatMap (TestStep.fragmentLines names)) = os.flatMap (Operation.literals names) := by
  induction os using invokeSteps.induct names stagger generalizing ss with
  | case1 =>
    rw [invokeSteps] at h
    cases h
    rfl
  | case2 o os typing =>
    rw [invokeSteps, if_pos typing] at h
    cases h
  | case3 o os typing ih =>
    rw [invokeSteps, if_neg typing] at h
    obtain ⟨steps, hsteps, h⟩ := bind_eq_ok_iff.1 h
    cases h
    have hrest := ih hsteps fun x hx => typed x (List.mem_cons_of_mem o ((List.dropWhile_suffix _).subset hx))
    have htyped : ∀ x ∈ os.takeWhile Operation.isTyping, x.isTyping = true → ∃ c, x.text = some [c] := fun x hx =>
      typed x (List.mem_cons_of_mem o ((List.takeWhile_prefix _).subset hx))
    have hgroup := literalsOf_typed names stagger (fun x hx => List.mem_takeWhile_imp hx) htyped
    rw [List.flatMap_cons, literalsOf_append, TestStep.literalsOf_invoke, hgroup, hrest, List.flatMap_cons,
      Operation.literals, if_neg typing, List.cons_append, ← List.flatMap_append, List.takeWhile_append_dropWhile]
    rfl

theorem literals_of_steps {t : Transition} {ss : List TestStep} (h : t.steps names stagger = .ok ss)
    (typed : ∀ o ∈ t.operations, o.isTyping = true → ∃ c, o.text = some [c]) :
    literalsOf (ss.flatMap (TestStep.fragmentLines names)) =
      t.flags.flatMap (Flag.literals names) ++ t.operations.flatMap (Operation.literals names) := by
  obtain ⟨invoking, hinvoking, h⟩ := bind_eq_ok_iff.1 h
  cases h
  rw [List.flatMap_append, literalsOf_append, literals_of_invokeSteps hinvoking typed, List.flatMap_map,
    literalsOf_flatMap]
  simp only [TestStep.literalsOf_configure]

end Transition

namespace SuiteTest

/-- **The literals of a test are those of its transition.** -/
theorem literalsOf_fragmentLines {t : SuiteTest} {settings : Settings} {tr : Transition} (isOf : t.IsOf tr)
    (h : tr.steps settings.commands settings.generator.typeStagger = .ok t.steps)
    (typed : ∀ o ∈ tr.operations, o.isTyping = true → ∃ c, o.text = some [c]) :
    literalsOf (t.fragmentLines settings) = tr.literals settings := by
  have hsteps : literalsOf (t.stepFragments settings.commands) =
      tr.flags.flatMap (Flag.literals settings.commands) ++
        tr.operations.flatMap (Operation.literals settings.commands) := by
    rw [← Transition.literals_of_steps h typed]
    unfold stepFragments
    split
    · next hempty => rw [List.isEmpty_iff.1 hempty]; rfl
    · simp only [literalsOf_cons, literalsOf_append, literalsOf_indented, filter_code, List.filter_nil, literalsOf_nil,
        List.append_nil, List.nil_append]
  have hwait : literalsOf (t.waitFragments settings.generator.waitTimeout) =
      .quoted t.comesAfter :: if settings.generator.waitTimeout.isSome then [.quoted t.title] else [] := by
    cases settings.generator.waitTimeout <;> rfl
  have hopening : literalsOf t.openingFragments = [.documentation ("transition " ++ t.label)] := rfl
  have hsetup : literalsOf t.setupFragments = [.quoted t.title, .quoted (t.comesAfter ++ " did not pass")] := rfl
  have hclosing : literalsOf t.closingFragments = [.quoted t.title, .quoted t.title] := rfl
  rw [fragmentLines, literalsOf_append, literalsOf_append, literalsOf_append, literalsOf_append, hopening, hwait,
    hsetup, hsteps, hclosing, label, isOf.1, isOf.2.1, Transition.literals]
  simp only [List.append_assoc, List.cons_append, List.nil_append]

end SuiteTest

namespace Suite

theorem filter_fragments (s : Suite) : s.fragments.filter isLiteral = literalsOf s.fragmentLines := by
  rw [fragments, List.filter_flatMap]
  refine List.flatMap_congr fun l _ => ?_
  rw [List.filter_append, filter_code, List.filter_nil, List.append_nil]

theorem literalsOf_headFragments (s : Suite) : literalsOf s.headFragments =
    .quoted s.name :: s.settings.generator.defaultFlag.literals s.settings.commands := rfl

theorem literalsOf_declarations (ts : List SuiteTest) :
    literalsOf (ts.map declarationFragments) = ts.flatMap fun t => [.quoted t.title, .quoted t.comesAfter] := by
  rw [literalsOf, List.flatMap_map]
  rfl

/-- **The literals of a compiled module are those of its spec**, in order. -/
theorem literals_of_compile {settings : Settings} {name text : Text} {s : Suite}
    (h : compile settings name text = .ok s) :
    ∃ spec r, Spec.read text = .ok spec ∧ spec.resolve = .ok r ∧
      s.fragments.filter isLiteral = r.literals settings name := by
  obtain ⟨spec, hspec, h⟩ := bind_eq_ok_iff.1 h
  obtain ⟨r, hr, h⟩ := bind_eq_ok_iff.1 h
  obtain ⟨seeds, hseeds, h⟩ := bind_eq_ok_iff.1 h
  obtain ⟨tests, htests, h⟩ := bind_eq_ok_iff.1 h
  cases h
  obtain ⟨-, rfl⟩ := Spec.resolve_eq_ok_iff.1 hr
  have hinitial : literalsOf (seeds.flatMap Seed.fragmentLines) = spec.initial.map fun x => .quoted x.title := by
    rw [literalsOf_flatMap, List.map_eq_flatMap]
    exact flatMap_of_forall₂ (forall₂_of_seedsOf hseeds) fun x i _ hx => congrArg (fun t => [quoted t]) hx.1
  have hdeclared : literalsOf (tests.map declarationFragments) =
      spec.transitions.flatMap fun t => [.quoted t.title, .quoted t.comesAfter] := by
    rw [literalsOf_declarations]
    refine flatMap_of_forall₂ (forall₂_of_testsOf htests) fun t tr _ ht => ?_
    rw [ht.1.1, ht.1.2.1]
  have hfunctions : literalsOf (tests.flatMap fun t => [[], []] ++ t.fragmentLines settings) =
      spec.transitions.flatMap (Transition.literals settings) := by
    rw [literalsOf_flatMap]
    refine flatMap_of_forall₂ (forall₂_of_testsOf htests) fun t tr htr ht => ?_
    exact SuiteTest.literalsOf_fragmentLines ht.1 ht.2 fun o => Spec.text_of_isTyping hspec htr
  refine ⟨spec, spec.resolved, hspec, hr, ?_⟩
  rw [filter_fragments, fragmentLines, literalsOf_append, literalsOf_append, literalsOf_append,
    literalsOf_headFragments, hinitial, hdeclared, hfunctions, ResolvedSpec.literals]
  simp only [List.append_assoc, List.cons_append]

end Suite

end CursorSpec
