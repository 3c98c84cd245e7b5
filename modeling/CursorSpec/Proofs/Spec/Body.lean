/-
The body of a transition is mirrored by its flags and operations.

What is read of a transition is read of a section that stands behind others (`exists_section`), and its body is what
stands between the reference and the first fence below the heading (`IsBodyOf`), which is one body only. The flags are
what its flag lines say, and the operations are what its operation lines say, each line by itself and in their order;
all else is passed over. Every line that sets out to type something is an operation line, or nothing would be read
(`mirrors_body`).
-/
import CursorSpec.Proofs.Lists
import CursorSpec.Proofs.Spec.Operation
import CursorSpec.Proofs.Spec.Zero

namespace CursorSpec

/-! ## What lines say -/

/-- whether a line says a flag: behind its bracket and blanks it reads `mode.behavior <- behavior` -/
def Flag.IsSaidBy (f : Flag) (l : NumberedLine) : Prop :=
  ∃ rest, l.text = '>' :: rest ∧ Text.strip rest = f.mode.text ++ ".behavior <- " ++ f.behavior.text

/-- whether a line says an operation: the token is its command, what the token begins with is its kind, and what follows
the token are its arguments; an operation that types has the one character of its token and no arguments -/
structure Operation.IsSaidBy (o : Operation) (l : NumberedLine) : Prop where
  reads : ∃ rest, Line.IsOperation l.text o.command rest ∧ o.args = Line.argumentsOf rest
  line : o.line = some (l.number : Int)
  typing_iff : o.kind = .typing ↔ Line.typingStart <+: o.command
  namespaced_iff : o.kind = .namespaced ↔ o.command.head? = some '.'
  typed : o.kind = .typing → ∃ c, Text.isBlank c = false ∧ o.command = Line.typingStart ++ [c] ∧ o.text = some [c] ∧
    o.args = none
  untyped : o.kind ≠ .typing → o.text = none

namespace RawEntry

variable {title : Text} {l : NumberedLine} {command : Text} {args : Option Text} {o : Operation}

theorem isSaidBy_of_flagOf? {t : Text} {f : Flag} (ht : Line.flag? l.text = some t) (hf : flagOf? t = some f) :
    f.IsSaidBy l := by
  obtain ⟨rest, -, hline, rfl⟩ := Line.flag?_eq_some_iff.1 ht
  have hreads := List.find?_some hf
  exact ⟨rest, hline, (of_decide_eq_true hreads).symm⟩

/-- **The flags of a body are what its flag lines say**, in their order. -/
theorem forall₂_of_readFlags {ls : List NumberedLine} {fs : List Flag} (h : readFlags title ls = .ok fs) :
    List.Forall₂ (fun l f => f.IsSaidBy l) (ls.filter fun l => Line.IsFlagLine l.text) fs := by
  induction ls generalizing fs with
  | nil => cases h; exact .nil
  | cons l ls ih =>
    rw [readFlags] at h
    cases ht : Line.flag? l.text with
    | none =>
      have hline : ¬ Line.IsFlagLine l.text := by simp [Line.isFlagLine_iff, ht]
      rw [ht] at h
      rw [List.filter_cons_of_neg (by simpa using hline)]
      exact ih h
    | some t =>
      have hline : Line.IsFlagLine l.text := by simp [Line.isFlagLine_iff, ht]
      simp only [ht] at h
      split at h
      · cases h
      · next f hf =>
        obtain ⟨fs', hfs, h⟩ := bind_eq_ok_iff.1 h
        cases h
        rw [List.filter_cons_of_pos (by simpa using hline)]
        exact .cons (isSaidBy_of_flagOf? ht hf) (ih hfs)

theorem isSaidBy_of_readTyping {rest : Option Text} (hline : Line.IsOperation l.text command rest)
    (typing : Line.typingStart <+: command) (h : readTyping title l command (Line.argumentsOf rest) = .ok o) :
    o.IsSaidBy l := by
  unfold readTyping at h
  dsimp only at h
  split at h
  · cases h
  · next hlength =>
    split at h
    · cases h
    · next hargs =>
      cases h
      have hnone : Line.argumentsOf rest = none := Option.not_isSome_iff_eq_none.1 hargs
      obtain ⟨u, rfl⟩ := typing
      rw [List.drop_left, not_not, List.length_eq_one_iff] at hlength
      obtain ⟨c, rfl⟩ := hlength
      have hblank : Text.isBlank c = false := Line.isBlank_of_isToken hline.token
      exact {
        reads := ⟨rest, hline, hnone.symm⟩
        line := rfl
        typing_iff := iff_of_true rfl (List.prefix_append _ _)
        namespaced_iff := iff_of_false nofun nofun
        typed := fun _ => ⟨c, hblank, rfl, congrArg some List.drop_left, rfl⟩
        untyped := fun h => absurd rfl h }

theorem isSaidBy_of_readCommand {rest : Option Text} (hline : Line.IsOperation l.text command rest)
    (runs : ¬ Line.typingStart <+: command) (h : readCommand title l command (Line.argumentsOf rest) = .ok o) :
    o.IsSaidBy l := by
  unfold readCommand at h
  split at h
  · cases h
  · split at h
    · cases h
      have hkind : (if command.head? = some '.' then OperationKind.namespaced else .command) ≠ .typing := by
        split
        · exact nofun
        · exact nofun
      exact {
        reads := ⟨rest, hline, rfl⟩
        line := rfl
        typing_iff := iff_of_false hkind runs
        namespaced_iff := by simp
        typed := fun h => absurd h hkind
        untyped := fun _ => rfl }
    · cases h

/-- What a line is read as, by itself, is what it says. -/
theorem isSaidBy_of_operationsOf {os : List Operation} (h : operationsOf title l = .ok os) :
    (¬ Line.IsOperationLine l.text ∧ os = []) ∨ (Line.IsOperationLine l.text ∧ ∃ o, os = [o] ∧ o.IsSaidBy l) := by
  unfold operationsOf at h
  cases hop : Line.operation? l.text with
  | none =>
    rw [hop] at h
    cases h
    exact Or.inl ⟨by simp [Line.isOperationLine_iff, hop], rfl⟩
  | some r =>
    obtain ⟨command, args⟩ := r
    rw [hop] at h
    obtain ⟨o, ho, h⟩ := bind_eq_ok_iff.1 h
    cases h
    obtain ⟨rest, hline, rfl⟩ := Line.operation?_eq_some_iff.1 hop
    refine Or.inr ⟨⟨command, rest, hline⟩, o, rfl, ?_⟩
    split at ho
    · next htyping => exact isSaidBy_of_readTyping hline (Text.startsWith_iff.1 htyping) ho
    · next hruns => exact isSaidBy_of_readCommand hline (Text.startsWith_iff.not.1 hruns) ho

/-- **The operations of a body are what its operation lines say**, in their order. -/
theorem forall₂_of_readOperations {ls : List NumberedLine} {os : List Operation}
    (h : readOperations title ls = .ok os) :
    List.Forall₂ (fun l o => o.IsSaidBy l) (ls.filter fun l => Line.IsOperationLine l.text) os := by
  rw [readOperations_eq, map_eq_ok_iff] at h
  obtain ⟨oss, hoss, rfl⟩ := h
  induction ls generalizing oss with
  | nil => cases hoss; exact .nil
  | cons l ls ih =>
    obtain ⟨os, oss, hos, hrest, rfl⟩ := mapM_cons_eq_ok_iff.1 hoss
    rcases isSaidBy_of_operationsOf hos with ⟨hline, rfl⟩ | ⟨hline, o, rfl, ho⟩
    · rw [List.filter_cons_of_neg (by simpa using hline), List.flatten_cons, List.nil_append]
      exact ih _ hrest
    · rw [List.filter_cons_of_pos (by simpa using hline), List.flatten_cons, List.singleton_append]
      exact .cons ho (ih _ hrest)

theorem isOperationLine_of_beginsTyping (h : isUnreadableTyping l = false) (typing : Line.BeginsTyping l.text) :
    Line.IsOperationLine l.text := by
  rw [isUnreadableTyping, Line.looksLikeTyping_iff.2 typing, Bool.true_and] at h
  rw [Line.isOperationLine_iff, ← Option.not_isNone, h]
  rfl

end RawEntry

/-! ## Where a body stands -/

theorem Fenced.front_eq {ls front block rest : List Text} (h : Fenced ls front block rest) :
    front = ls.takeWhile fun l => !Line.isFence l := by
  rw [h.lines, List.takeWhile_append_of_pos fun l hl => by rw [h.front_open l hl]; rfl]
  exact (List.append_nil front).symm

namespace Layout

/-- the number of the header behind some sections of a layout -/
def numberBehind (y : Layout) (before : List Section) : Nat :=
  1 + y.prose.length + (before.flatMap Section.lines).length

variable {y : Layout} {before after : List Section} {r : Section}

theorem entriesFrom_of_split (split : y.sections = before ++ r :: after) :
    y.entriesFrom 1 = Section.entriesFrom (1 + y.prose.length) before ++ r.entryAt (y.numberBehind before) ::
      Section.entriesFrom (y.numberBehind before + r.lines.length) after := by
  rw [entriesFrom, split, Section.entriesFrom_append]
  rfl

theorem lines_of_split (split : y.sections = before ++ r :: after) :
    y.lines = (y.prose ++ before.flatMap Section.lines) ++
      r.header :: (r.below ++ after.flatMap Section.lines) := by
  rw [lines, split, List.flatMap_append, List.flatMap_cons, Section.lines]
  simp only [List.append_assoc, List.cons_append]

/-- A section has a heading. -/
theorem mem_headings_of_split (split : y.sections = before ++ r :: after) :
    ⟨y.numberBehind before, r.header, r.below ++ after.flatMap Section.lines⟩ ∈ headings 1 y.lines := by
  have hlength : 1 + (y.prose ++ before.flatMap Section.lines).length = y.numberBehind before := by
    rw [List.length_append, numberBehind, Nat.add_assoc]
  rw [lines_of_split split]
  refine mem_headings_append _ ?_
  rw [hlength, headings_cons r.looksLikeHeader_header]
  exact List.mem_cons_self

end Layout

namespace Spec

/-- whether these are the body of a transition among the lines of a source: what stands between the reference below its
heading and the first fence, with the numbers of the lines -/
def IsBodyOf (ls : List Text) (tr : Transition) (body : List NumberedLine) : Prop :=
  ∃ h ∈ headings 1 ls, h.IsHeadOf (.transition tr) ∧ ∃ reference lines block rest,
    Line.RefersTo reference tr.comesAfter ∧ Fenced h.below (reference :: lines) block rest ∧
      body = numberFrom (h.number + 2) lines

/-- The body is what stands below the heading with the number of the transition: up to the first fence, less one line. -/
theorem IsBodyOf.eq_of_heading {ls : List Text} {tr : Transition} {body : List NumberedLine}
    (hbody : IsBodyOf ls tr body) {h : Heading} (hh : h ∈ headings 1 ls) (number : tr.line = some (h.number : Int)) :
    body = numberFrom (h.number + 2) (h.below.takeWhile fun l => !Line.isFence l).tail := by
  obtain ⟨g, hg, hhead, reference, lines, block, rest, -, hfenced, rfl⟩ := hbody
  have hnumber : g.number = h.number := by
    have hline := hhead.line.symm.trans number
    exact Int.ofNat_inj.1 (Option.some.inj hline)
  obtain rfl := eq_of_mem_headings hg hh hnumber
  rw [← hfenced.front_eq]
  rfl

/-- **A transition has one body.** -/
theorem IsBodyOf.unique {ls : List Text} {tr : Transition} {body body' : List NumberedLine}
    (h : IsBodyOf ls tr body) (h' : IsBodyOf ls tr body') : body = body' := by
  obtain ⟨g, hg, hhead, -⟩ := id h'
  rw [h.eq_of_heading hg hhead.line, h'.eq_of_heading hg hhead.line]

variable {t : Text} {s : Spec} {tr : Transition}

/-- **What is read where one section is looked at**: the sections before it, the section, and those behind it. -/
theorem read_eq_ok_iff {y : Layout} (tidy : y.IsTidy) (hlines : y.lines = sourceLines t)
    {before after : List Section} {r : Section} (split : y.sections = before ++ r :: after) :
    read t = .ok s ↔ ∃ xs x xs', (Section.entriesFrom (1 + y.prose.length) before).mapM RawEntry.read = .ok xs ∧
      (r.entryAt (y.numberBehind before)).read = .ok x ∧
      (Section.entriesFrom (y.numberBehind before + r.lines.length) after).mapM RawEntry.read = .ok xs' ∧
      s = ofEntries (xs ++ x :: xs') y.sections.length := by
  rw [read_of_tidy tidy hlines, Layout.entriesFrom_of_split split]
  constructor
  · intro h
    obtain ⟨all, hall, h⟩ := bind_eq_ok_iff.1 h
    obtain ⟨xs, ys, hxs, hys, rfl⟩ := mapM_append_eq_ok_iff.1 hall
    obtain ⟨x, xs', hx, hxs', rfl⟩ := mapM_cons_eq_ok_iff.1 hys
    exact ⟨xs, x, xs', hxs, hx, hxs', (Except.ok.inj h).symm⟩
  · rintro ⟨xs, x, xs', hxs, hx, hxs', rfl⟩
    have hall := mapM_append_eq_ok_iff.2 ⟨xs, _, hxs, mapM_cons_eq_ok_iff.2 ⟨x, xs', hx, hxs', rfl⟩, rfl⟩
    rw [hall]
    rfl

/-- a section of a layout that a source is read as, with the transition that it is read as -/
structure IsSectionOf (t : Text) (tr : Transition) (y : Layout) (before : List Section) (r : Section)
    (after : List Section) : Prop where
  tidy : y.IsTidy
  lines : y.lines = sourceLines t
  split : y.sections = before ++ r :: after
  read : (r.entryAt (y.numberBehind before)).read = .ok (.transition tr)

/-- **A transition is read of a section.** -/
theorem exists_section (h : read t = .ok s) (htr : tr ∈ s.transitions) :
    ∃ y before r after, IsSectionOf t tr y before r after := by
  obtain ⟨y, tidy, hlines⟩ := exists_tidy_of_read h
  rw [read_of_tidy tidy hlines] at h
  obtain ⟨xs, hxs, h⟩ := bind_eq_ok_iff.1 h
  cases h
  have hmem : Entry.transition tr ∈ xs :=
    (ofEntries_perm xs _).mem_iff.1 (List.mem_append_right _ (List.mem_map_of_mem htr))
  obtain ⟨e, he, hread⟩ := exists_of_mem_forall₂ (forall₂_of_mapM hxs) hmem
  obtain ⟨before, r, after, hsplit, rfl⟩ := Section.exists_of_mem_entriesFrom he
  exact ⟨y, before, r, after, tidy, hlines, hsplit, hread⟩

namespace IsSectionOf

variable {y : Layout} {before after : List Section} {r : Section}

theorem headless (h : IsSectionOf t tr y before r after) : ∀ l ∈ r.below, Line.looksLikeHeader l = false := by
  intro l hl
  refine h.tidy l (List.mem_append_right _ (List.mem_flatMap.2 ⟨r, ?_, hl⟩))
  rw [h.split]
  exact List.mem_append_right _ List.mem_cons_self

theorem exists_reference (h : IsSectionOf t tr y before r after) :
    ∃ reference, r.reference = some reference ∧ Line.reference? reference = some tr.comesAfter := by
  have hkeeps := (RawEntry.keeps_of_read h.read).comesAfter
  exact Option.bind_eq_some_iff.1 hkeeps.symm

/-- **The body of the section is that of the transition.** -/
theorem isBodyOf (h : IsSectionOf t tr y before r after) :
    IsBodyOf (sourceLines t) tr (numberFrom (y.numberBehind before + 2) r.body) := by
  obtain ⟨reference, hreference, htarget⟩ := h.exists_reference
  have hbegins := Section.begins_entryAt h.headless (y.numberBehind before) (after.flatMap Section.lines)
  have hfenced := r.fenced_below (after.flatMap Section.lines)
  rw [hreference] at hfenced
  exact ⟨_, h.lines ▸ Layout.mem_headings_of_split h.split, hbegins.isHeadOf (RawEntry.keeps_of_read h.read), reference,
    r.body, r.block, _, Line.reference?_eq_some_iff.1 htarget, hfenced, rfl⟩

theorem body_entryAt (h : IsSectionOf t tr y before r after) :
    (r.entryAt (y.numberBehind before)).body = numberFrom (y.numberBehind before + 2) r.body := by
  obtain ⟨reference, hreference, -⟩ := h.exists_reference
  rw [Section.entryAt, hreference]
  rfl

end IsSectionOf

/-- **What is read of a transition is read of its body**, flags and operations apart. -/
theorem exists_body (h : read t = .ok s) (htr : tr ∈ s.transitions) :
    ∃ body, IsBodyOf (sourceLines t) tr body ∧ RawEntry.readFlags tr.title body = .ok tr.flags ∧
      (∀ l ∈ body, RawEntry.isUnreadableTyping l = false) ∧
      RawEntry.readOperations tr.title body = .ok tr.operations := by
  obtain ⟨y, before, r, after, hsection⟩ := exists_section h htr
  obtain ⟨target, flags, operations, -, hflags, htyping, hoperations, rfl⟩ :=
    RawEntry.read_eq_transition_iff.1 hsection.read
  rw [hsection.body_entryAt] at hflags htyping hoperations
  exact ⟨_, hsection.isBodyOf, hflags, htyping, hoperations⟩

/-- **Operations and flags mirror the body lines.** The body of a transition stands between its reference and its opening
fence. Its flag lines say the flags, its operation lines say the operations with their numbers, both in their order, and
every line that sets out to type something says an operation that types. -/
theorem mirrors_body (h : read t = .ok s) (htr : tr ∈ s.transitions) :
    ∃ body, IsBodyOf (sourceLines t) tr body ∧
      List.Forall₂ (fun l f => f.IsSaidBy l) (body.filter fun l => Line.IsFlagLine l.text) tr.flags ∧
      List.Forall₂ (fun l o => o.IsSaidBy l) (body.filter fun l => Line.IsOperationLine l.text) tr.operations ∧
      ∀ l ∈ body, Line.BeginsTyping l.text → ∃ o ∈ tr.operations, o.IsSaidBy l ∧ o.kind = .typing := by
  obtain ⟨body, hbody, hflags, htyping, hoperations⟩ := exists_body h htr
  have hsaid := RawEntry.forall₂_of_readOperations hoperations
  refine ⟨body, hbody, RawEntry.forall₂_of_readFlags hflags, hsaid, fun l hl htypes => ?_⟩
  have hline := RawEntry.isOperationLine_of_beginsTyping (htyping l hl) htypes
  obtain ⟨o, ho, hol⟩ := exists_of_mem_forall₂ hsaid.flip (List.mem_filter.2 ⟨hl, decide_eq_true hline⟩)
  obtain ⟨rest, hreads, -⟩ := hol.reads
  exact ⟨o, ho, hol, hol.typing_iff.2 (hreads.beginsTyping_token htypes)⟩

/-- a transition with a flag, operations of every kind, and lines that are none -/
def mixedText : Text :=
  Text.unlines ["# A", Line.fence, "|", Line.fence, "# B", "[up](#A)", ">  insert.behavior <- caret ", "-  .move  1 ",
    "- bad!name", ">", "-type:(  ", "- a.b:c", Line.fence, "x|", Line.fence]

def mixedBody : List NumberedLine :=
  [⟨7, ">  insert.behavior <- caret "⟩, ⟨8, "-  .move  1 "⟩, ⟨9, "- bad!name"⟩, ⟨10, ">"⟩, ⟨11, "-type:(  "⟩,
    ⟨12, "- a.b:c"⟩]

def mixed : Transition where
  title := "B"
  comesAfter := "A"
  operations := [⟨.namespaced, ".move", some "1", none, some 8⟩, ⟨.typing, "type:(", none, some "(", some 11⟩,
    ⟨.command, "a.b:c", none, none, some 12⟩]
  flags := [⟨.insert, .caret⟩]
  content := "x|\n"
  line := some 5

/-- Four lines of the body say something, the others nothing. -/
theorem mirrors_body_mixed :
    ∃ s, read mixedText = .ok s ∧ mixed ∈ s.transitions ∧ IsBodyOf (sourceLines mixedText) mixed mixedBody ∧
      List.Forall₂ (fun l f => f.IsSaidBy l) [⟨7, ">  insert.behavior <- caret "⟩] mixed.flags ∧
      List.Forall₂ (fun l o => o.IsSaidBy l) [⟨8, "-  .move  1 "⟩, ⟨11, "-type:(  "⟩, ⟨12, "- a.b:c"⟩]
        mixed.operations ∧
      ∃ o ∈ mixed.operations, o.IsSaidBy ⟨11, "-type:(  "⟩ ∧ o.kind = .typing := by
  have hread : read mixedText = .ok ⟨[⟨"A", [], "|\n", some 1⟩], [mixed], 2⟩ := by decide +kernel
  obtain ⟨body, hbody, hflags, hoperations, htyping⟩ := mirrors_body hread (List.mem_singleton.2 rfl)
  obtain rfl : body = mixedBody :=
    (hbody.eq_of_heading (h := ⟨5, "# B", (sourceLines mixedText).drop 5⟩) (by decide +kernel) rfl).trans
      (by decide +kernel)
  have hflagLines : (mixedBody.filter fun l => Line.IsFlagLine l.text) = [⟨7, ">  insert.behavior <- caret "⟩] := by
    decide +kernel
  have hoperationLines : (mixedBody.filter fun l => Line.IsOperationLine l.text) =
      [⟨8, "-  .move  1 "⟩, ⟨11, "-type:(  "⟩, ⟨12, "- a.b:c"⟩] := by decide +kernel
  exact ⟨_, hread, List.mem_singleton.2 rfl, hbody, hflagLines ▸ hflags, hoperationLines ▸ hoperations,
    htyping ⟨11, "-type:(  "⟩ (by decide +kernel) ⟨0, "(  ", rfl⟩⟩

end Spec

end CursorSpec
