/-
Zero characters in the arguments of operations.

The expression reader refuses to look at arguments with a zero character, and what comes of it is the only problem that
is of none of the documented kinds. `RawEntry.read_eq_internal_iff` and `Spec.read_eq_internal_iff` say exactly which
sources run into it: the first thing that is wrong with them is such an operation (`StopsAtZero`). The character is one
of the source (`StopsAtZero.zero_mem`).
-/
import CursorSpec.Proofs.Spec.Operation
import CursorSpec.Proofs.Spec.Reading

namespace CursorSpec

namespace RawEntry

/-! ## Operations, line by line -/

def operationsOf (title : Text) (l : NumberedLine) : Except Problem (List Operation) :=
  match Line.operation? l.text with
  | none => .ok []
  | some (command, args) => do
    let read := if Text.startsWith command Line.typingStart then readTyping else readCommand
    return [← read title l command args]

theorem readOperations_eq (title : Text) (ls : List NumberedLine) :
    readOperations title ls = (ls.mapM (operationsOf title)).map List.flatten := by
  induction ls with
  | nil => rfl
  | cons l ls ih =>
    rw [readOperations, List.mapM_cons, operationsOf, ih]
    cases Line.operation? l.text with
    | none => cases ls.mapM (operationsOf title) <;> rfl
    | some o =>
      obtain ⟨command, args⟩ := o
      dsimp only
      generalize (if Text.startsWith command Line.typingStart = true then readTyping else readCommand) = read
      cases read title l command args with
      | error p => rfl
      | ok x => cases ls.mapM (operationsOf title) <;> rfl

variable {title : Text} {l : NumberedLine} {p : Problem}

theorem readCommand_eq_internal_iff {command : Text} {args : Option Text} :
    readCommand title l command args = .error p ∧ p.cause.kind = .internal ↔
      (∃ a, args = some a ∧ Text.zero ∈ a) ∧ p = problemAt l (.nulArguments command title) := by
  have hzero : (args.any fun t => t.contains (Char.ofNat 0)) = true ↔ ∃ a, args = some a ∧ Text.zero ∈ a := by
    cases args <;> simp [Text.zero]
  rw [← hzero, readCommand]
  by_cases h : (args.any fun t => t.contains (Char.ofNat 0)) = true
  · rw [if_pos h]
    constructor
    · rintro ⟨hp, -⟩
      exact ⟨h, (Except.error.inj hp).symm⟩
    · rintro ⟨-, rfl⟩
      exact ⟨rfl, rfl⟩
  · rw [if_neg h]
    constructor
    · rintro ⟨hp, hkind⟩
      split at hp
      · cases hp
      · cases hp
        cases hkind
    · rintro ⟨hz, -⟩
      exact absurd hz h

/-- whether a line runs a command whose arguments have a zero character -/
structure HasZero (l : NumberedLine) (command args : Text) : Prop where
  operation : Line.operation? l.text = some (command, some args)
  runs : Text.startsWith command Line.typingStart = false
  zero : Text.zero ∈ args

theorem operationsOf_eq_internal_iff :
    operationsOf title l = .error p ∧ p.cause.kind = .internal ↔
      ∃ command args, HasZero l command args ∧ p = problemAt l (.nulArguments command title) := by
  unfold operationsOf
  cases hop : Line.operation? l.text with
  | none =>
    constructor
    · rintro ⟨h, -⟩
      cases h
    · rintro ⟨command, args, h, -⟩
      cases hop.symm.trans h.operation
  | some o =>
    obtain ⟨command, args⟩ := o
    have hbind (read : Except Problem Operation) :
        (do return [← read] : Except Problem (List Operation)) = .error p ↔ read = .error p := by
      cases read <;> simp [bind, Except.bind, pure, Except.pure]
    dsimp only
    rw [hbind]
    by_cases hruns : Text.startsWith command Line.typingStart = true
    · rw [if_pos hruns]
      constructor
      · rintro ⟨h, hkind⟩
        obtain ⟨cause, rfl, -, hinvalid⟩ := exists_of_readTyping h
        exact absurd (hinvalid.symm.trans hkind) (by decide)
      · rintro ⟨command', args', h, -⟩
        cases hop.symm.trans h.operation
        cases hruns.symm.trans h.runs
    · rw [if_neg hruns, readCommand_eq_internal_iff]
      constructor
      · rintro ⟨⟨a, rfl, ha⟩, rfl⟩
        exact ⟨command, a, ⟨hop, Bool.eq_false_of_not_eq_true hruns, ha⟩, rfl⟩
      · rintro ⟨command', args', h, rfl⟩
        cases hop.symm.trans h.operation
        exact ⟨⟨args', rfl, h.zero⟩, rfl⟩

/-! ## Entries -/

/-- whether a line with a zero character is the first thing that is wrong with an entry -/
structure StopsAtZero (e : RawEntry) (l : NumberedLine) (command args : Text) : Prop where
  comesAfter : e.comesAfter ≠ none
  flags : ∃ flags, readFlags e.title e.body = .ok flags
  typing : e.body.find? isUnreadableTyping = none
  body : ∃ before after, e.body = before ++ l :: after ∧ ∀ m ∈ before, ∃ os, operationsOf e.title m = .ok os
  zero : HasZero l command args

/-- **Which entries stop at a zero character**, and the problem that comes of it. -/
theorem read_eq_internal_iff {e : RawEntry} : e.read = .error p ∧ p.cause.kind = .internal ↔
    ∃ l command args, e.StopsAtZero l command args ∧ p = problemAt l (.nulArguments command e.title) := by
  have hops : readOperations e.title e.body = .error p ↔ e.body.mapM (operationsOf e.title) = .error p := by
    rw [readOperations_eq, map_eq_error_iff]
  constructor
  · rintro ⟨h, hkind⟩
    -- a fault of a flag or of what is typed is of a documented kind, so it is an operation that fails
    rcases bind_eq_error_iff.1 h with h | ⟨flags, hflags, h⟩
    · obtain ⟨m, -, t, -, rfl⟩ := exists_of_readFlags h
      cases hkind
    · cases hafter : e.comesAfter with
      | none => rw [hafter] at h; cases h
      | some target =>
        simp only [hafter] at h
        split at h
        · cases h
          cases hkind
        · next htyping =>
          rcases bind_eq_error_iff.1 h with h | ⟨os, -, h⟩
          · obtain ⟨before, l, after, hbody, hbefore, hl⟩ := mapM_eq_error_iff.1 (hops.1 h)
            obtain ⟨command, args, hzero, rfl⟩ := operationsOf_eq_internal_iff.1 ⟨hl, hkind⟩
            refine ⟨l, command, args, ⟨?_, ⟨flags, hflags⟩, htyping, ⟨before, after, hbody, hbefore⟩, hzero⟩, rfl⟩
            rw [hafter]
            exact nofun
          · cases h
  · rintro ⟨l, command, args, ⟨hafter, ⟨flags, hflags⟩, htyping, ⟨before, after, hbody, hbefore⟩, hzero⟩, rfl⟩
    obtain ⟨target, htarget⟩ := Option.ne_none_iff_exists'.1 hafter
    obtain ⟨hl, -⟩ := operationsOf_eq_internal_iff.2 ⟨command, args, hzero, rfl⟩
    have hread := hops.2 (mapM_eq_error_iff.2 ⟨before, l, after, hbody, hbefore, hl⟩)
    refine ⟨?_, rfl⟩
    simp only [read, hflags, htarget, htyping, hread, bind, Except.bind]

end RawEntry

/-! ## Sources -/

namespace Spec

/-- whether an operation with a zero character is the first thing that is wrong with the entries of a text -/
structure StopsAtZero (t : Text) (e : RawEntry) (l : NumberedLine) (command args : Text) : Prop where
  entries : ∃ before after,
    ReadingStage.entries? .prose (numberedLines (normalizeSource t)) = some (before ++ e :: after) ∧
      ∀ b ∈ before, ∃ x, b.read = .ok x
  entry : e.StopsAtZero l command args

/-- **Which texts stop at a zero character**, and the problem that comes of it. -/
theorem read_eq_internal_iff {t : Text} {p : Problem} : read t = .error p ∧ p.cause.kind = .internal ↔
    ∃ e l command args, StopsAtZero t e l command args ∧ p = RawEntry.problemAt l (.nulArguments command e.title) := by
  unfold read
  dsimp only
  cases hraw : ReadingStage.entries? .prose (numberedLines (normalizeSource t)) with
  | none =>
    constructor
    · rintro ⟨h, hkind⟩
      cases h
      cases hkind
    · rintro ⟨e, l, command, args, ⟨⟨before, after, h, -⟩, -⟩, -⟩
      cases hraw.symm.trans h
  | some raw =>
    constructor
    · rintro ⟨h, hkind⟩
      rcases bind_eq_error_iff.1 h with h | ⟨es, -, h⟩
      · obtain ⟨before, e, after, rfl, hbefore, he⟩ := mapM_eq_error_iff.1 h
        obtain ⟨l, command, args, hstops, rfl⟩ := RawEntry.read_eq_internal_iff.1 ⟨he, hkind⟩
        exact ⟨e, l, command, args, ⟨⟨before, after, hraw, hbefore⟩, hstops⟩, rfl⟩
      · split at h
        · cases h
        · cases h
          cases hkind
    · rintro ⟨e, l, command, args, ⟨⟨before, after, h, hbefore⟩, hstops⟩, rfl⟩
      cases hraw.symm.trans h
      obtain ⟨he, hkind⟩ := RawEntry.read_eq_internal_iff.2 ⟨l, command, args, hstops, rfl⟩
      exact ⟨bind_eq_error_iff.2 (Or.inl (mapM_eq_error_iff.2 ⟨before, e, after, rfl, hbefore, he⟩)), hkind⟩

end Spec

/-! ## Where the character comes from -/

namespace Text

variable {c : Char}

theorem mem_of_mem_strip {t : Text} (h : c ∈ strip t) : c ∈ t := by
  have hsuffix := (List.dropWhile_suffix isBlank).subset (List.mem_reverse.1 h)
  exact (List.dropWhile_suffix isBlank).subset (List.mem_reverse.1 hsuffix)

theorem mem_of_mem_lines {t l : Text} (hl : l ∈ lines t) (h : c ∈ l) : c ∈ t := by
  rw [← unlines_lines t]
  cases hls : lines t with
  | nil => exact absurd hls (lines_ne_nil t)
  | cons m ms =>
    rw [unlines_cons, List.mem_append, List.mem_flatMap]
    rcases List.mem_cons.1 (hls ▸ hl) with rfl | hl
    · exact Or.inl h
    · exact Or.inr ⟨l, hl, List.mem_cons_of_mem _ h⟩

theorem mem_of_mem_replacePair {a b r : Char} {t : Text} (h : c ∈ replacePair a b r t) (hr : c ≠ r) : c ∈ t := by
  induction t using replacePair.induct a b with
  | case1 x y t hxy ih =>
    rw [replacePair, if_pos hxy] at h
    exact List.mem_cons_of_mem x (List.mem_cons_of_mem y (ih ((List.mem_cons.1 h).resolve_left hr)))
  | case2 x y t hxy ih =>
    rw [replacePair, if_neg hxy] at h
    rcases List.mem_cons.1 h with rfl | h
    · exact List.mem_cons_self
    · exact List.mem_cons_of_mem x (ih h)
  | case3 t ht =>
    rw [replacePair] at h
    · exact h
    · exact ht

theorem mem_of_mem_normalizeSource {t : Text} (h : c ∈ Spec.normalizeSource t) (hc : c ≠ '\n') : c ∈ t := by
  unfold Spec.normalizeSource at h
  dsimp only at h
  split at h
  · exact mem_of_mem_replacePair h hc
  · rcases List.mem_append.1 h with h | h
    · exact mem_of_mem_replacePair h hc
    · exact absurd (List.mem_singleton.1 h) hc

end Text

namespace Line

variable {c : Char}

/-- The arguments of an operation are a part of its line. -/
theorem mem_of_operation? {l command args : Text} (h : operation? l = some (command, some args)) (hc : c ∈ args) :
    c ∈ l := by
  obtain ⟨rest, ⟨⟨n, tail, rfl, hrest⟩, -⟩, hargs⟩ := operation?_eq_some_iff.1 h
  cases hrest with
  | nothing => cases hargs
  | @rest k r hr =>
    have hmem : c ∈ r := Text.mem_of_mem_strip (strip_of_argumentsOf hargs ▸ hc)
    simp [hmem]

end Line

/-- The lines of an entry are lines of the section that spells it. -/
theorem Section.text_of_mem_body {n : Nat} {ss : List Section} {e : RawEntry} (he : e ∈ Section.entriesFrom n ss)
    {l : NumberedLine} (hl : l ∈ e.body) : l.text ∈ ss.flatMap Section.lines := by
  obtain ⟨before, s, after, rfl, rfl⟩ := Section.exists_of_mem_entriesFrom he
  obtain ⟨front, back, hbody, -⟩ := exists_of_mem_numberFrom hl
  refine List.mem_flatMap.2 ⟨s, List.mem_append_right _ List.mem_cons_self, List.mem_cons_of_mem _ ?_⟩
  rw [Section.below, hbody]
  simp

namespace Spec

/-- The lines of an entry are lines of its source. -/
theorem text_of_mem_body {t : Text} {es : List RawEntry}
    (h : ReadingStage.entries? .prose (numberedLines (normalizeSource t)) = some es) {e : RawEntry} (he : e ∈ es)
    {l : NumberedLine} (hl : l ∈ e.body) : l.text ∈ sourceLines t := by
  rw [entries?_numberedLines] at h
  obtain ⟨y, hlines, rfl⟩ := Layout.entries?_eq_some_iff.1 h
  exact hlines ▸ List.mem_append_right _ (Section.text_of_mem_body he hl)

/-- **A text that stops at a zero character has one.** -/
theorem StopsAtZero.zero_mem {t : Text} {e : RawEntry} {l : NumberedLine} {command args : Text}
    (h : StopsAtZero t e l command args) : Text.zero ∈ t := by
  obtain ⟨⟨before, after, hentries, -⟩, hstops⟩ := h
  obtain ⟨front, back, hbody, -⟩ := hstops.body
  have hl : l ∈ e.body := by rw [hbody]; exact List.mem_append_right _ List.mem_cons_self
  have hline := text_of_mem_body hentries (List.mem_append_right _ List.mem_cons_self) hl
  have hzero := Line.mem_of_operation? hstops.zero.operation hstops.zero.zero
  exact Text.mem_of_mem_normalizeSource (Text.mem_of_mem_lines hline hzero) (by decide)

end Spec

end CursorSpec
