/-
Prose outside of entries.

Lines end in prose if the last heading among them, if there is one, has two fences below it (`EndsInProse`). More lines
may be put in there, as long as none of them looks like a header: fences, references, flags and operations mean nothing
outside of an entry. `prose_is_inert`: what is read is the same but for the line numbers behind the place, which grow by
the number of lines put in.

Of a source that is read, the lines up to such a place are those of a layout (`exists_layout_of_endsInProse`), and
reading stands in prose behind a layout, so it passes over the new lines and gives the others their new numbers
(`ReadingStage.entries?_insert`).
-/
import CursorSpec.Proofs.Lists
import CursorSpec.Proofs.Spec.Numbering
import CursorSpec.Proofs.Spec.Trailing

namespace CursorSpec

/-! ## Lines that end in prose -/

theorem headings_eq_nil_iff {n : Nat} {ls : List Text} :
    headings n ls = [] ↔ ∀ l ∈ ls, Line.looksLikeHeader l = false := by
  induction ls generalizing n with
  | nil => exact iff_of_true rfl nofun
  | cons l ls ih =>
    rw [headings, List.forall_mem_cons]
    cases Line.looksLikeHeader l with
    | true => simp
    | false => simp [ih]

namespace Spec

/-- whether lines end outside of an entry: the last heading among them, if there is one, has two fences below it -/
def EndsInProse (ls : List Text) : Prop := ∀ h ∈ (headings 1 ls).getLast?, 2 ≤ h.below.countP Line.isFence

instance (ls : List Text) : Decidable (EndsInProse ls) :=
  inferInstanceAs (Decidable (∀ h ∈ (headings 1 ls).getLast?, 2 ≤ h.below.countP Line.isFence))

/-- Headings that begin entries do so too if the lines end behind the last one's two fences. -/
theorem complete_of_append {n : Nat} {front back : List Text}
    (whole : ∀ h ∈ headings n (front ++ back), h.IsComplete)
    (place : ∀ h ∈ (headings n front).getLast?, 2 ≤ h.below.countP Line.isFence) :
    ∀ h ∈ headings n front, h.IsComplete := by
  induction front generalizing n with
  | nil => exact nofun
  | cons l front ih =>
    cases hl : Line.looksLikeHeader l with
    | false =>
      simp only [List.cons_append, headings, hl, Bool.false_eq_true, if_false] at whole place ⊢
      exact ih whole place
    | true =>
      rw [List.cons_append, headings_cons hl, List.forall_mem_cons] at whole
      rw [headings_cons hl] at place ⊢
      obtain ⟨⟨named, fenced⟩, whole⟩ := whole
      cases hrest : headings (n + 1) front with
      | nil =>
        -- this is the last heading, so all that is below it counts
        have headless := headings_eq_nil_iff.1 hrest
        have hbelow : (front.takeWhile fun m => !Line.looksLikeHeader m) = front :=
          List.takeWhile_eq_self_iff.2 fun m hm => by rw [headless m hm]; rfl
        rw [hrest] at place
        refine List.forall_mem_singleton.2 ⟨named, ?_⟩
        rw [hbelow]
        exact place _ rfl
      | cons g gs =>
        -- the next heading is among these lines, so nothing behind them counts
        have hnext : ∃ m ∈ front, (!Line.looksLikeHeader m) = false := by
          by_contra hnone
          have hnil : headings (n + 1) front = [] := headings_eq_nil_iff.2 fun m hm =>
            Bool.eq_false_iff.2 fun h => hnone ⟨m, hm, by rw [h]; rfl⟩
          rw [hrest] at hnil
          cases hnil
        rw [takeWhile_append_of_exists hnext] at fenced
        rw [← hrest]
        refine List.forall_mem_cons.2 ⟨⟨named, fenced⟩, ih whole ?_⟩
        intro h hh
        rw [hrest] at place hh
        exact place h (by rwa [List.getLast?_cons_cons])

/-- **Lines of a source that end in prose are those of a layout.** -/
theorem exists_layout_of_endsInProse {t : Text} {s : Spec} (h : read t = .ok s) {front back : List Text}
    (split : sourceLines t = front ++ back) (place : EndsInProse front) : ∃ y : Layout, y.lines = front := by
  have whole : IsWellFormed (front ++ back) := isWellFormed_iff.2 (split ▸ exists_tidy_of_read h)
  obtain ⟨y, -, hlines⟩ := exists_tidy (complete_of_append whole place)
  exact ⟨y, hlines⟩

end Spec

/-! ## Lines put in -/

/-- the number of a line once some lines were put in behind the first ones -/
def numberBehind (first more n : Nat) : Nat := if first < n then n + more else n

namespace ReadingStage

/-- **Prose behind a layout is passed over**, and what comes behind it has other numbers. -/
theorem entries?_insert (y : Layout) {prose : List Text} (headless : ∀ l ∈ prose, Line.header? l = none)
    (back : List Text) :
    entries? .prose (numberFrom 1 (y.lines ++ (prose ++ back))) =
      (entries? .prose (numberFrom 1 (y.lines ++ back))).map
        (List.map (.renumber (numberBehind y.lines.length prose.length))) := by
  have hfront : (numberFrom 1 y.lines).map (.renumber (numberBehind y.lines.length prose.length)) =
      numberFrom 1 y.lines := map_renumber_numberFrom fun i hi => if_neg (by omega)
  have hback : (numberFrom (1 + y.lines.length) back).map (.renumber (numberBehind y.lines.length prose.length)) =
      numberFrom (1 + y.lines.length + prose.length) back := by
    refine map_renumber_numberFrom fun i _ => ?_
    rw [numberBehind, if_pos (by omega)]
    omega
  -- the entries of the layout keep their numbers, as its lines do
  have hentries : (y.entriesFrom 1).map (.renumber (numberBehind y.lines.length prose.length)) = y.entriesFrom 1 := by
    have hread := entries?_renumber (numberBehind y.lines.length prose.length) .prose (numberFrom 1 y.lines)
    rw [hfront, entries?_lines, renumber, entries?_lines] at hread
    exact (Option.some.inj hread).symm
  calc entries? .prose (numberFrom 1 (y.lines ++ (prose ++ back)))
    _ = (entries? .prose (numberFrom (1 + y.lines.length + prose.length) back)).map (y.entriesFrom 1 ++ ·) := by
        rw [entries?_lines_append, numberFrom_append, entries?_prose headless]
    _ = ((entries? .prose (numberFrom (1 + y.lines.length) back)).map
          (List.map (.renumber (numberBehind y.lines.length prose.length)))).map (y.entriesFrom 1 ++ ·) := by
        rw [← hback, ← entries?_renumber, renumber]
    _ = (entries? .prose (numberFrom 1 (y.lines ++ back))).map
          (List.map (.renumber (numberBehind y.lines.length prose.length))) := by
        rw [entries?_lines_append, Option.map_map, Option.map_map]
        simp only [Function.comp_def, List.map_append, hentries]

end ReadingStage

/-! ## Texts of lines -/

namespace Text

def ofLines (ls : List Text) : Text := ls.flatMap (· ++ ['\n'])

theorem replacePair_of_notMem {a b r : Char} {t : Text} (h : a ∉ t) : replacePair a b r t = t := by
  induction t using replacePair.induct a b with
  | case1 x y t hxy ih => exact absurd (hxy.1 ▸ List.mem_cons_self) h
  | case2 x y t hxy ih => rw [replacePair, if_neg hxy, ih fun hmem => h (List.mem_cons_of_mem x hmem)]
  | case3 t ht =>
    rw [replacePair]
    exact ht

end Text

namespace Spec

/-- **Lines are read again from their text** if none of them has an end of a line in it. -/
theorem sourceLines_ofLines {ls : List Text} (plain : ∀ l ∈ ls, '\n' ∉ l ∧ '\r' ∉ l) :
    sourceLines (Text.ofLines ls) = ls ++ [[]] := by
  have hreturn : '\r' ∉ Text.ofLines ls := by
    intro h
    obtain ⟨l, hl, h⟩ := List.mem_flatMap.1 h
    rcases List.mem_append.1 h with h | h
    · exact (plain l hl).2 h
    · exact absurd (List.mem_singleton.1 h) (by decide)
  have hnormal : normalizeSource (Text.ofLines ls) = Text.ofLines ls := by
    rw [normalizeSource, Text.replacePair_of_notMem hreturn]
    rcases List.eq_nil_or_concat' ls with rfl | ⟨ms, m, rfl⟩
    · rfl
    · refine if_pos ?_
      simp [Text.ofLines]
  rw [sourceLines, hnormal]
  exact Text.lines_flatMap fun l hl => (plain l hl).1

/-- **Prose is inert.** Lines that do not look like headers can be put in wherever the lines before them end outside of
an entry. What is read is the same, on other lines behind that place. -/
theorem prose_is_inert {t : Text} {s : Spec} (h : read t = .ok s) (unix : '\r' ∉ t) {front back : List Text}
    (split : sourceLines t = front ++ back ++ [[]]) (place : EndsInProse front) {prose : List Text}
    (plain : ∀ l ∈ prose, '\n' ∉ l ∧ '\r' ∉ l ∧ Line.looksLikeHeader l = false) :
    read (Text.ofLines (front ++ prose ++ back)) =
      .ok (s.renumber fun n => if front.length < n then n + prose.length else n) := by
  obtain ⟨y, rfl⟩ := exists_layout_of_endsInProse h (split.trans (List.append_assoc _ _ _)) place
  -- the lines of the new source
  have hold : ∀ l ∈ y.lines ++ back, '\n' ∉ l ∧ '\r' ∉ l := by
    intro l hl
    have hmem : l ∈ sourceLines t := by
      rw [split]
      exact List.mem_append_left _ hl
    refine ⟨Text.notMem_of_mem_lines hmem, fun hreturn => unix ?_⟩
    exact Text.mem_of_mem_normalizeSource (Text.mem_of_mem_lines hmem hreturn) (by decide)
  have hnew : sourceLines (Text.ofLines (y.lines ++ prose ++ back)) = y.lines ++ prose ++ back ++ [[]] := by
    refine sourceLines_ofLines fun l hl => ?_
    rcases List.mem_append.1 hl with hl | hl
    · rcases List.mem_append.1 hl with hl | hl
      · exact hold l (List.mem_append_left _ hl)
      · exact ⟨(plain l hl).1, (plain l hl).2.1⟩
    · exact hold l (List.mem_append_right _ hl)
  obtain ⟨es, xs, hes, hxs, hcount, rfl⟩ := read_eq_ok_iff_entries.1 h
  have agrees : ∀ n : Nat, (fun n : Int => if (y.lines.length : Int) < n then n + prose.length else n) n =
      (numberBehind y.lines.length prose.length n : Nat) := by
    intro n
    simp only [numberBehind, Nat.cast_lt]
    split <;> simp
  rw [renumber_ofEntries, ← List.length_map (f := Entry.renumber _)]
  refine read_eq_ok_iff_entries.2 ⟨_, _, ?_, RawEntry.mapM_read_renumber agrees hxs, ?_, rfl⟩
  · have headless : ∀ l ∈ prose, Line.header? l = none := fun l hl =>
      Line.header?_of_not_looksLikeHeader (plain l hl).2.2
    rw [split, List.append_assoc] at hes
    rw [hnew, List.append_assoc, List.append_assoc, ReadingStage.entries?_insert y headless, hes]
    rfl
  · have hnone : prose.countP Line.looksLikeHeader = 0 :=
      List.countP_eq_zero.2 fun l hl => by rw [(plain l hl).2.2]; exact Bool.false_ne_true
    rw [hnew, List.length_map, ← hcount, split]
    simp only [List.countP_append, hnone, Nat.add_zero]

/-- a source up to the fence that closes its first block -/
def unrulyFront : List Text := ["notes", Line.fence, "# A", Line.fence, "|", Line.fence]

/-- lines that would mean something in an entry -/
def unruly : List Text := ["[x](#A)", "- type:", "> nothing", "- insert.a (", Line.fence, "#", "## C"]

def unrulyBack : List Text := ["# B", "[x](#A)", "- insert.a", "-type:(", Line.fence, "X(|", Line.fence]

/-- what the source says if the heading of the transition has a given number -/
def unrulySpec (n : Int) : Spec where
  initial := [⟨"A", [], "|\n", some 3⟩]
  transitions := [⟨"B", "A", [⟨.command, "insert.a", none, none, some (n + 2)⟩,
    ⟨.typing, "type:(", none, some "(", some (n + 3)⟩], [], "X(|\n", some n⟩]
  headerCount := 2

/-- Seven such lines behind the first block only move the transition. -/
theorem prose_is_inert_unruly :
    read (Text.ofLines (unrulyFront ++ unrulyBack)) = .ok (unrulySpec 7) ∧ EndsInProse unrulyFront ∧
      (∀ l ∈ unruly, '\n' ∉ l ∧ '\r' ∉ l ∧ Line.looksLikeHeader l = false) ∧
      read (Text.ofLines (unrulyFront ++ unruly ++ unrulyBack)) = .ok (unrulySpec 14) := by
  have hread : read (Text.ofLines (unrulyFront ++ unrulyBack)) = .ok (unrulySpec 7) := by decide +kernel
  have place : EndsInProse unrulyFront := by decide
  have plain : ∀ l ∈ unruly, '\n' ∉ l ∧ '\r' ∉ l ∧ Line.looksLikeHeader l = false := by decide
  exact ⟨hread, place, plain, prose_is_inert hread (by decide) (by decide) place plain⟩

end Spec

end CursorSpec
