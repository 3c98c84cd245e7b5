/-
Reading a spec accepts exactly its format, and no entry is lost.

A source is well-formed if each of its headings says something and has two fences below it before the next heading.
`reads_exactly_well_formed`: a well-formed source meets no problem of structure, every other source fails, and what is
read has one entry for each heading, in their order, with the title, number, block and reference that stand there.

Both directions go by layouts. What can be read is a layout, and the count of headings says that it is tidy
(`exists_tidy_of_read`); a well-formed source is a tidy layout, which is read entry by entry (`read_of_tidy`).
-/
import CursorSpec.Proofs.Spec.Entry
import CursorSpec.Proofs.Spec.Heading

namespace CursorSpec

namespace ReadingStage

/-- An empty line at the end changes nothing. -/
theorem entries?_concat_nil (stage : ReadingStage) (ls : List NumberedLine) (n : Nat) :
    entries? stage (ls ++ [⟨n, []⟩]) = entries? stage ls := by
  induction ls generalizing stage with
  | nil => cases stage <;> rfl
  | cons l ls ih =>
    rw [List.cons_append, entries?, entries?]
    rcases stage.step l with ⟨_ | e, stage'⟩
    · exact ih stage'
    · exact congrArg (Option.map (e :: ·)) (ih stage')

end ReadingStage

namespace Spec

/-! ## Sources -/

def sourceLines (t : Text) : List Text := Text.lines (normalizeSource t)

/-- whether every line that looks like a header begins an entry -/
def IsWellFormed (ls : List Text) : Prop := ∀ h ∈ headings 1 ls, h.IsComplete

instance (ls : List Text) : Decidable (IsWellFormed ls) :=
  inferInstanceAs (Decidable (∀ h ∈ headings 1 ls, h.IsComplete))

theorem exists_sourceLines (t : Text) : ∃ ls, sourceLines t = ls ++ [[]] := by
  unfold sourceLines normalizeSource
  dsimp only
  generalize Text.replacePair '\r' '\n' '\n' t = u
  split
  · next h =>
    rw [Bool.or_eq_true, List.isEmpty_iff, decide_eq_true_iff, List.getLast?_eq_some_iff] at h
    rcases h with rfl | ⟨v, rfl⟩
    · exact ⟨[], rfl⟩
    · exact ⟨Text.lines v, Text.lines_concat v⟩
  · exact ⟨Text.lines u, Text.lines_concat u⟩

theorem entries?_numberedLines (t : Text) : ReadingStage.entries? .prose (numberedLines (normalizeSource t)) =
    ReadingStage.entries? .prose (numberFrom 1 (sourceLines t)) := by
  obtain ⟨ls, hls⟩ := exists_sourceLines t
  rw [numberedLines, ← sourceLines, hls, List.dropLast_concat, mapIdx_eq_numberFrom, numberFrom_append]
  exact (ReadingStage.entries?_concat_nil .prose _ _).symm

/-! ## Reading -/

/-- **What is read is what its entries are read as**, as long as there is one for each heading. -/
theorem read_eq_ok_iff_entries {t : Text} {s : Spec} : read t = .ok s ↔
    ∃ es xs, ReadingStage.entries? .prose (numberFrom 1 (sourceLines t)) = some es ∧ es.mapM RawEntry.read = .ok xs ∧
      (sourceLines t).countP Line.looksLikeHeader = xs.length ∧ s = ofEntries xs xs.length := by
  unfold read
  dsimp only
  rw [entries?_numberedLines, countHeaders, ← sourceLines]
  constructor
  · intro h
    split at h
    · cases h
    · next es hes =>
      obtain ⟨xs, hxs, h⟩ := bind_eq_ok_iff.1 h
      split at h
      · next hcount =>
        cases h
        exact ⟨es, xs, hes, hxs, hcount, congrArg (ofEntries xs) hcount⟩
      · cases h
  · rintro ⟨es, xs, hes, hxs, hcount, rfl⟩
    rw [hes]
    refine bind_eq_ok_iff.2 ⟨xs, hxs, ?_⟩
    rw [if_pos hcount, hcount]
    rfl

/-- **A tidy source is read entry by entry.** -/
theorem read_of_tidy {t : Text} {y : Layout} (tidy : y.IsTidy) (hlines : y.lines = sourceLines t) :
    read t = do return ofEntries (← (y.entriesFrom 1).mapM RawEntry.read) y.sections.length := by
  have hcount : countHeaders (normalizeSource t) = y.sections.length := by
    rw [countHeaders, ← sourceLines, ← hlines]
    exact y.countP_lines.2 tidy
  unfold read
  dsimp only
  rw [entries?_numberedLines, ← hlines, ReadingStage.entries?_lines, hcount]
  dsimp only
  cases hes : (y.entriesFrom 1).mapM RawEntry.read with
  | error p => rfl
  | ok es =>
    have hlength := (forall₂_of_mapM hes).length_eq
    rw [y.length_entriesFrom] at hlength
    exact if_pos hlength

/-- **What can be read is a tidy layout.** -/
theorem exists_tidy_of_read {t : Text} {s : Spec} (h : read t = .ok s) :
    ∃ y : Layout, y.IsTidy ∧ y.lines = sourceLines t := by
  obtain ⟨es, xs, hes, hxs, hcount, -⟩ := read_eq_ok_iff_entries.1 h
  obtain ⟨y, hlines, rfl⟩ := Layout.entries?_eq_some_iff.1 hes
  rw [← (forall₂_of_mapM hxs).length_eq, y.length_entriesFrom, ← hlines] at hcount
  exact ⟨y, y.countP_lines.1 hcount, hlines⟩

theorem isWellFormed_iff {ls : List Text} : IsWellFormed ls ↔ ∃ y : Layout, y.IsTidy ∧ y.lines = ls := by
  constructor
  · exact exists_tidy
  · rintro ⟨y, tidy, rfl⟩
    exact Heading.complete_of_forall₂_begins (Layout.begins_entriesFrom tidy 1)

/-! ## Entries in their order -/

def entries (s : Spec) : List Entry :=
  sortBy (fun a b => decide (a.number ≤ b.number)) (s.initial.map .initial ++ s.transitions.map .transition)

theorem ofEntries_perm (es : List Entry) (n : Nat) :
    ((ofEntries es n).initial.map Entry.initial ++ (ofEntries es n).transitions.map Entry.transition).Perm es := by
  induction es with
  | nil => exact List.Perm.refl _
  | cons e es ih =>
    cases e with
    | initial s => exact ih.cons _
    | transition t => exact List.perm_middle.trans (ih.cons _)

/-- Entries on ascending lines are kept in their order. -/
theorem entries_ofEntries {es : List Entry} (ascending : es.Pairwise fun a b => a.number < b.number) (n : Nat) :
    (ofEntries es n).entries = es := by
  have hperm : (ofEntries es n).entries.Perm es := (sortBy_perm _ _).trans (ofEntries_perm es n)
  have hsorted : (ofEntries es n).entries.Pairwise fun a b => a.number ≤ b.number := by
    refine (sortBy_pairwise ?_ ?_ _).imp of_decide_eq_true
    · intro a b
      simpa only [decide_eq_true_iff] using Int.le_total _ _
    · intro a b c hab hbc
      exact decide_eq_true (Int.le_trans (of_decide_eq_true hab) (of_decide_eq_true hbc))
  -- two entries on one line are one entry
  have hdistinct : (es.map Entry.number).Nodup := List.pairwise_map.2 (ascending.imp Int.ne_of_lt)
  refine hperm.eq_of_pairwise (fun a b ha hb hab hba => ?_) hsorted (ascending.imp Int.le_of_lt)
  exact List.inj_on_of_nodup_map hdistinct (hperm.mem_iff.1 ha) hb (Int.le_antisymm hab hba)

theorem ascending_of_isHeadOf {ls : List Text} {n : Nat} {es : List Entry}
    (h : List.Forall₂ Heading.IsHeadOf (headings n ls) es) : es.Pairwise fun a b => a.number < b.number := by
  have hnumbers : (es.map Entry.number).Pairwise (· < ·) := by
    rw [Heading.map_number_of_isHeadOf h, List.pairwise_map]
    exact (headings_pairwise n ls).imp Int.ofNat_lt.2
  exact List.pairwise_map.1 hnumbers

/-! ## What is read -/

/-- **Specs are read from well-formed sources, entry by entry.** A well-formed source has no problem of structure, any
other source cannot be read, and the entries that are read are those at the headings of the source. -/
theorem reads_exactly_well_formed (t : Text) :
    (IsWellFormed (sourceLines t) → ∀ p, read t = .error p → p.cause.kind ≠ .parse) ∧
      (¬ IsWellFormed (sourceLines t) → ∃ p, read t = .error p) ∧
      ∀ s, read t = .ok s → List.Forall₂ Heading.IsHeadOf (headings 1 (sourceLines t)) s.entries := by
  refine ⟨fun wellFormed p hp => ?_, fun illFormed => ?_, fun s hs => ?_⟩
  · obtain ⟨y, tidy, hlines⟩ := isWellFormed_iff.1 wellFormed
    rw [read_of_tidy tidy hlines] at hp
    rcases bind_eq_error_iff.1 hp with hp | ⟨es, -, hp⟩
    · obtain ⟨-, e, -, -, -, he⟩ := mapM_eq_error_iff.1 hp
      rcases (RawEntry.problem_of_read he).kind with h | h | h <;> rw [h] <;> exact nofun
    · cases hp
  · cases hs : read t with
    | error p => exact ⟨p, rfl⟩
    | ok s => exact absurd (isWellFormed_iff.2 (exists_tidy_of_read hs)) illFormed
  · obtain ⟨y, tidy, hlines⟩ := exists_tidy_of_read hs
    rw [read_of_tidy tidy hlines] at hs
    obtain ⟨es, hes, hs⟩ := bind_eq_ok_iff.1 hs
    cases hs
    have hheads := Heading.forall₂_isHeadOf (Layout.begins_entriesFrom tidy 1) (forall₂_of_mapM hes)
    rw [hlines] at hheads
    rw [entries_ofEntries (ascending_of_isHeadOf hheads)]
    exact hheads

/-- prose with a fence, an initial state with a third fence behind it, and a transition from it, on lines that end in
both ways -/
def pairText : Text :=
  Text.unlines ["notes", Line.fence, "# A", Line.fence, "|", Line.fence, Line.fence, "# B C\r", "[from A](#A)\r",
    "> insert.behavior <- caret", Line.fence, "a|", Line.fence]

def pair : Spec where
  initial := [⟨"A", [], "|\n", some 3⟩]
  transitions := [⟨"B-C", "A", [], [⟨.insert, .caret⟩], "a|\n", some 8⟩]
  headerCount := 2

/-- The pair is read as its two entries, an unknown flag is no problem of structure, and an entry that swallows the
next header is not read. -/
theorem read_pair :
    List.Forall₂ Heading.IsHeadOf (headings 1 (sourceLines pairText)) pair.entries ∧
      (⟨.unrecognizedFlag "x" "A", some 2⟩ : Problem).cause.kind ≠ .parse ∧
      ∃ p, read (Text.unlines ["# A", Line.fence, "# B", Line.fence, Line.fence, Line.fence]) = .error p :=
  ⟨(reads_exactly_well_formed pairText).2.2 pair (by decide +kernel),
    (reads_exactly_well_formed (Text.unlines ["# A", "> x", Line.fence, Line.fence])).1 (by decide +kernel) _
      (by decide +kernel),
    (reads_exactly_well_formed _).2.1 (by decide +kernel)⟩

end Spec

end CursorSpec
