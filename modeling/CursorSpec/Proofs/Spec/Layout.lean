/-
How the lines of a spec are laid out.

A `Section` is what one entry takes of a source: its header, perhaps a reference, a body, a fenced block, and the prose
up to the next header. A `Layout` is prose and sections. Reading the lines of a layout gives one entry for each section
(`entries?_lines`), and lines that can be read are those of a layout (`entries?_eq_some_iff`).
-/
import CursorSpec.Proofs.Spec.Line
import CursorSpec.Spec.Reader

namespace CursorSpec

/-- lines numbered from a number on -/
def numberFrom (n : Nat) : List Text → List NumberedLine
  | [] => []
  | l :: ls => ⟨n, l⟩ :: numberFrom (n + 1) ls

theorem numberFrom_append (n : Nat) (ls ms : List Text) :
    numberFrom n (ls ++ ms) = numberFrom n ls ++ numberFrom (n + ls.length) ms := by
  induction ls generalizing n with
  | nil => rfl
  | cons l ls ih =>
    rw [List.cons_append, numberFrom, ih, numberFrom, List.length_cons, Nat.add_right_comm n 1]
    rfl

/-- A numbered line stands behind as many lines as its number says. -/
theorem exists_of_mem_numberFrom {n : Nat} {ls : List Text} {l : NumberedLine} (h : l ∈ numberFrom n ls) :
    ∃ front back, ls = front ++ l.text :: back ∧ l.number = n + front.length := by
  induction ls generalizing n with
  | nil => cases h
  | cons m ls ih =>
    rcases List.mem_cons.1 h with rfl | h
    · exact ⟨[], ls, rfl, rfl⟩
    · obtain ⟨front, back, hls, hnumber⟩ := ih h
      refine ⟨m :: front, back, congrArg (m :: ·) hls, ?_⟩
      rw [hnumber, List.length_cons]
      omega

theorem mapIdx_eq_numberFrom (n : Nat) (ls : List Text) : (ls.mapIdx fun i l => ⟨i + n, l⟩) = numberFrom n ls := by
  induction ls generalizing n with
  | nil => rfl
  | cons l ls ih =>
    rw [List.mapIdx_cons, numberFrom, ← ih (n + 1), Nat.zero_add]
    simp only [Nat.add_right_comm _ 1 n, Nat.add_assoc]

/-- lines cut at their first two fences: what stands before them, between them and behind them -/
structure Fenced (ls front block rest : List Text) : Prop where
  lines : ls = front ++ Line.fence :: (block ++ Line.fence :: rest)
  front_open : ∀ l ∈ front, Line.isFence l = false
  block_open : ∀ l ∈ block, Line.isFence l = false

/-! ## Sections -/

/-- the lines of one entry, and the prose behind them -/
structure Section where
  /-- what the header says behind `# ` -/
  name : Text
  reference : Option Text
  body : List Text
  block : List Text
  prose : List Text
  named : name ≠ []
  refers : ∀ l ∈ reference, (Line.reference? l).isSome = true
  /-- a first line of the body would be the reference if it could be -/
  unreferring : reference = none → ∀ l ∈ body.head?, Line.reference? l = none
  body_open : ∀ l ∈ body, Line.isFence l = false
  block_open : ∀ l ∈ block, Line.isFence l = false
  prose_headless : ∀ l ∈ prose, Line.header? l = none

namespace Section

def header (s : Section) : Text := Line.headerStart ++ s.name

def below (s : Section) : List Text :=
  s.reference.toList ++ (s.body ++ Line.fence :: (s.block ++ Line.fence :: s.prose))

def lines (s : Section) : List Text := s.header :: s.below

/-- Without a reference, what follows the header does not begin with one: the first line is of the body, or the fence. -/
theorem unreferring_below {s : Section} (hr : s.reference = none) (ls : List Text) :
    ∀ l ∈ (s.below ++ ls).head?, Line.reference? l = none := by
  intro l hl
  rw [below, hr, Option.toList_none, List.nil_append] at hl
  cases hb : s.body with
  | nil =>
    rw [hb] at hl
    cases hl
    exact Line.reference?_fence
  | cons m body =>
    rw [hb] at hl
    cases hl
    exact s.unreferring hr l (by rw [hb]; rfl)

/-- the entry that a section spells if its header has a given number -/
def entryAt (n : Nat) (s : Section) : RawEntry where
  title := Line.titleOf s.name
  line := n
  comesAfter := s.reference.bind Line.reference?
  body := numberFrom (n + 1 + s.reference.toList.length) s.body
  block := s.block

def entriesFrom (n : Nat) : List Section → List RawEntry
  | [] => []
  | s :: ss => s.entryAt n :: entriesFrom (n + s.lines.length) ss

theorem entriesFrom_append (n : Nat) (ss ts : List Section) :
    entriesFrom n (ss ++ ts) = entriesFrom n ss ++ entriesFrom (n + (ss.flatMap lines).length) ts := by
  induction ss generalizing n with
  | nil => rfl
  | cons s ss ih =>
    rw [List.cons_append, entriesFrom, ih, entriesFrom, List.flatMap_cons, List.length_append, Nat.add_assoc]
    rfl

/-- An entry is that of a section, which stands behind the lines of the sections before it. -/
theorem exists_of_mem_entriesFrom {n : Nat} {ss : List Section} {e : RawEntry} (he : e ∈ entriesFrom n ss) :
    ∃ before s after, ss = before ++ s :: after ∧ e = s.entryAt (n + (before.flatMap lines).length) := by
  induction ss generalizing n with
  | nil => cases he
  | cons s ss ih =>
    rcases List.mem_cons.1 he with rfl | he
    · exact ⟨[], s, ss, rfl, rfl⟩
    · obtain ⟨before, r, after, rfl, rfl⟩ := ih he
      refine ⟨s :: before, r, after, rfl, ?_⟩
      rw [List.flatMap_cons, List.length_append, Nat.add_assoc]

end Section

structure Layout where
  prose : List Text
  sections : List Section
  prose_headless : ∀ l ∈ prose, Line.header? l = none

namespace Layout

def lines (y : Layout) : List Text := y.prose ++ y.sections.flatMap Section.lines

/-- the entries of a layout whose first line has a given number -/
def entriesFrom (n : Nat) (y : Layout) : List RawEntry := Section.entriesFrom (n + y.prose.length) y.sections

end Layout

/-! ## Reading line by line -/

namespace ReadingStage

theorem entries?_prose {n : Nat} {prose : List Text} (h : ∀ l ∈ prose, Line.header? l = none)
    (ls : List NumberedLine) : entries? .prose (numberFrom n prose ++ ls) = entries? .prose ls := by
  induction prose generalizing n with
  | nil => rfl
  | cons l prose ih =>
    have hl := h l List.mem_cons_self
    simp only [numberFrom, List.cons_append, entries?, step, hl]
    exact ih fun m hm => h m (List.mem_cons_of_mem l hm)

theorem entries?_header (n : Nat) {name : Text} (h : name ≠ []) (ls : List NumberedLine) :
    entries? .prose (⟨n, Line.headerStart ++ name⟩ :: ls) =
      entries? (.headed (.empty (Line.titleOf name) n)) ls := by
  have hl := Line.header?_eq_some_iff.2 ⟨name, rfl, h, rfl⟩
  simp only [entries?, step, hl]

theorem entries?_reference (e : RawEntry) (n : Nat) {l target : Text} (h : Line.reference? l = some target)
    (ls : List NumberedLine) :
    entries? (.headed e) (⟨n, l⟩ :: ls) = entries? (.body { e with comesAfter := some target }) ls := by
  simp only [entries?, step, h]

/-- Below a header, a line that is no reference is a line of the body. -/
theorem entries?_headed (e : RawEntry) {n : Nat} {ls : List Text} (h : ∀ l ∈ ls.head?, Line.reference? l = none) :
    entries? (.headed e) (numberFrom n ls) = entries? (.body e) (numberFrom n ls) := by
  cases ls with
  | nil => rfl
  | cons l ls =>
    have hl := h l rfl
    simp only [numberFrom, entries?, step, hl]

theorem entries?_body (e : RawEntry) {n k : Nat} {body : List Text} (h : ∀ l ∈ body, Line.isFence l = false)
    (ls : List NumberedLine) :
    entries? (.body e) (numberFrom n body ++ ⟨k, Line.fence⟩ :: ls) =
      entries? (.block { e with body := e.body ++ numberFrom n body }) ls := by
  induction body generalizing e n with
  | nil =>
    simp only [numberFrom, List.nil_append, List.append_nil, entries?, step, RawEntry.bodyLine, Line.isFence_fence,
      if_true]
  | cons l body ih =>
    rw [numberFrom, List.cons_append, entries?_body_cons e (h l List.mem_cons_self),
      ih _ fun m hm => h m (List.mem_cons_of_mem l hm), List.append_assoc]
    rfl

theorem entries?_block (e : RawEntry) {n k : Nat} {block : List Text} (h : ∀ l ∈ block, Line.isFence l = false)
    (ls : List NumberedLine) :
    entries? (.block e) (numberFrom n block ++ ⟨k, Line.fence⟩ :: ls) =
      (entries? .prose ls).map ({ e with block := e.block ++ block } :: ·) := by
  induction block generalizing e n with
  | nil => simp only [numberFrom, List.nil_append, List.append_nil, entries?, step, Line.isFence_fence, if_true]
  | cons l block ih =>
    rw [numberFrom, List.cons_append, entries?_block_cons e (h l List.mem_cons_self),
      ih _ fun m hm => h m (List.mem_cons_of_mem l hm), List.append_assoc]
    rfl

/-- Without a fence a body does not end. -/
theorem entries?_body_eq_none (e : RawEntry) {n : Nat} {ls : List Text} (h : ∀ l ∈ ls, Line.isFence l = false) :
    entries? (.body e) (numberFrom n ls) = none := by
  induction ls generalizing e n with
  | nil => rfl
  | cons l ls ih =>
    rw [numberFrom, entries?_body_cons e (h l List.mem_cons_self)]
    exact ih _ fun m hm => h m (List.mem_cons_of_mem l hm)

/-- Without a fence a block does not end. -/
theorem entries?_block_eq_none (e : RawEntry) {n : Nat} {ls : List Text} (h : ∀ l ∈ ls, Line.isFence l = false) :
    entries? (.block e) (numberFrom n ls) = none := by
  induction ls generalizing e n with
  | nil => rfl
  | cons l ls ih =>
    rw [numberFrom, entries?_block_cons e (h l List.mem_cons_self)]
    exact ih _ fun m hm => h m (List.mem_cons_of_mem l hm)

/-! ## Reading a layout -/

/-- **A section is read as its entry.** -/
theorem entries?_section (s : Section) (n : Nat) (ls : List Text) :
    entries? .prose (numberFrom n (s.lines ++ ls)) =
      (entries? .prose (numberFrom (n + s.lines.length) ls)).map (s.entryAt n :: ·) := by
  have hlength : n + s.lines.length = n + 1 + s.reference.toList.length + s.body.length + 1 + s.block.length + 1 +
      s.prose.length := by
    simp only [Section.lines, Section.below, List.length_cons, List.length_append]
    omega
  rw [hlength, Section.lines, Section.header, List.cons_append, numberFrom, entries?_header n s.named]
  cases hr : s.reference with
  | none =>
    rw [entries?_headed _ (s.unreferring_below hr ls)]
    simp only [Section.below, hr, Option.toList_none, List.nil_append, List.append_assoc, List.cons_append,
      numberFrom_append, numberFrom]
    rw [entries?_body _ s.body_open, entries?_block _ s.block_open, entries?_prose s.prose_headless]
    simp only [Section.entryAt, hr]
    rfl
  | some l =>
    obtain ⟨target, htarget⟩ := Option.isSome_iff_exists.1 (s.refers l hr)
    simp only [Section.below, hr, Option.toList_some, List.cons_append, List.nil_append, List.append_assoc,
      numberFrom_append, numberFrom]
    rw [entries?_reference _ _ htarget, entries?_body _ s.body_open, entries?_block _ s.block_open,
      entries?_prose s.prose_headless]
    simp only [Section.entryAt, hr, Option.bind_some, htarget]
    rfl

/-- Reading goes on behind a layout with the entries of its sections. -/
theorem entries?_lines_append (y : Layout) (n : Nat) (ls : List Text) :
    entries? .prose (numberFrom n (y.lines ++ ls)) =
      (entries? .prose (numberFrom (n + y.lines.length) ls)).map (y.entriesFrom n ++ ·) := by
  rw [Layout.lines, List.append_assoc, numberFrom_append, entries?_prose y.prose_headless, Layout.entriesFrom,
    List.length_append, ← Nat.add_assoc]
  generalize n + y.prose.length = k
  induction y.sections generalizing k with
  | nil => exact (congrFun Option.map_id _).symm
  | cons s ss ih =>
    rw [List.flatMap_cons, List.append_assoc, entries?_section, ih, Option.map_map, List.length_append, ← Nat.add_assoc]
    rfl

/-- **A layout is read as the entries of its sections.** -/
theorem entries?_lines (y : Layout) (n : Nat) : entries? .prose (numberFrom n y.lines) = some (y.entriesFrom n) := by
  have hread := entries?_lines_append y n []
  rw [List.append_nil] at hread
  rw [hread]
  exact congrArg some (List.append_nil _)

/-! ## Lines that can be read -/

theorem exists_of_block {e : RawEntry} {n : Nat} {ls : List Text} {es : List RawEntry}
    (h : entries? (.block e) (numberFrom n ls) = some es) :
    ∃ block rest k es', ls = block ++ Line.fence :: rest ∧ (∀ l ∈ block, Line.isFence l = false) ∧
      entries? .prose (numberFrom k rest) = some es' := by
  rcases Line.exists_cut ls with hnone | ⟨block, rest, rfl, hblock⟩
  · rw [entries?_block_eq_none e hnone] at h
    cases h
  · rw [numberFrom_append, numberFrom, entries?_block e hblock] at h
    obtain ⟨es', hes, -⟩ := Option.map_eq_some_iff.1 h
    exact ⟨block, rest, _, es', rfl, hblock, hes⟩

theorem exists_of_body {e : RawEntry} {n : Nat} {ls : List Text} {es : List RawEntry}
    (h : entries? (.body e) (numberFrom n ls) = some es) :
    ∃ front block rest k es', Fenced ls front block rest ∧ entries? .prose (numberFrom k rest) = some es' := by
  rcases Line.exists_cut ls with hnone | ⟨front, after, rfl, hfront⟩
  · rw [entries?_body_eq_none e hnone] at h
    cases h
  · rw [numberFrom_append, numberFrom, entries?_body e hfront] at h
    obtain ⟨block, rest, k, es', rfl, hblock, hrest⟩ := exists_of_block h
    exact ⟨front, block, rest, k, es', ⟨rfl, hfront, hblock⟩, hrest⟩

theorem exists_of_headed {e : RawEntry} {n : Nat} {ls : List Text} {es : List RawEntry}
    (h : entries? (.headed e) (numberFrom n ls) = some es) :
    ∃ front block rest k es', Fenced ls front block rest ∧ entries? .prose (numberFrom k rest) = some es' := by
  cases ls with
  | nil => cases h
  | cons l ls =>
    cases hl : Line.reference? l with
    | none =>
      rw [entries?_headed e fun m hm => by cases hm; exact hl] at h
      exact exists_of_body h
    | some target =>
      rw [numberFrom, entries?_reference e n hl] at h
      obtain ⟨front, block, rest, k, es', hfenced, hrest⟩ := exists_of_body h
      refine ⟨l :: front, block, rest, k, es', ⟨congrArg (l :: ·) hfenced.lines, ?_, hfenced.block_open⟩, hrest⟩
      intro m hm
      rcases List.mem_cons.1 hm with rfl | hm
      · exact Line.isFence_of_reference? hl
      · exact hfenced.front_open m hm

end ReadingStage

namespace Section

/-- What stands before the block may begin with a reference. -/
theorem exists_of_fenced {name : Text} (named : name ≠ []) {ls front block rest : List Text}
    (h : Fenced ls front block rest) {prose : List Text} (headless : ∀ l ∈ prose, Line.header? l = none) :
    ∃ s : Section, s.name = name ∧ s.reference.toList ++ s.body = front ∧ s.block = block ∧ s.prose = prose := by
  by_cases hfirst : ∃ l ∈ front.head?, (Line.reference? l).isSome = true
  · obtain ⟨l, hl, href⟩ := hfirst
    obtain ⟨body, rfl⟩ := List.head?_eq_some_iff.1 hl
    exact ⟨⟨name, some l, body, block, prose, named, fun m hm => by cases hm; exact href, nofun,
      fun m hm => h.front_open m (List.mem_cons_of_mem l hm), h.block_open, headless⟩, rfl, rfl, rfl, rfl⟩
  · refine ⟨⟨name, none, front, block, prose, named, nofun, fun _ l hl => ?_, h.front_open, h.block_open, headless⟩,
      rfl, rfl, rfl, rfl⟩
    cases href : Line.reference? l with
    | none => rfl
    | some target => exact absurd ⟨l, hl, by rw [href]; rfl⟩ hfirst

end Section

namespace Layout

/-- A header with a name and a block, prose before them and a layout behind them make up a layout. -/
theorem exists_cons {before : List Text} (headless : ∀ l ∈ before, Line.header? l = none) {name : Text}
    (named : name ≠ []) {ls front block : List Text} {y : Layout} (h : Fenced ls front block y.lines) :
    ∃ s : Section, s.name = name ∧ s.reference.toList ++ s.body = front ∧ s.block = block ∧ s.prose = y.prose ∧
      (⟨before, s :: y.sections, headless⟩ : Layout).lines = before ++ (Line.headerStart ++ name) :: ls := by
  obtain ⟨s, rfl, rfl, rfl, hprose⟩ := Section.exists_of_fenced named h y.prose_headless
  refine ⟨s, rfl, rfl, rfl, hprose, ?_⟩
  rw [h.lines, lines, List.flatMap_cons, Section.lines, Section.below, Section.header, hprose, lines]
  simp only [List.cons_append, List.append_assoc]

/-- **Lines that can be read are those of a layout.** -/
theorem exists_of_entries? {n : Nat} {ls : List Text} {es : List RawEntry}
    (h : ReadingStage.entries? .prose (numberFrom n ls) = some es) : ∃ y : Layout, y.lines = ls := by
  induction hk : ls.length using Nat.strong_induction_on generalizing n ls es with
  | _ k ih =>
    cases hfind : ls.find? fun l => (Line.header? l).isSome with
    | none =>
      refine ⟨⟨ls, [], fun l hl => ?_⟩, List.append_nil ls⟩
      simpa using List.find?_eq_none.1 hfind l hl
    | some l =>
      obtain ⟨hl, before, below, rfl, hbefore⟩ := List.find?_eq_some_iff_append.1 hfind
      have headless : ∀ m ∈ before, Line.header? m = none := fun m hm => by simpa using hbefore m hm
      obtain ⟨title, htitle⟩ := Option.isSome_iff_exists.1 hl
      obtain ⟨name, rfl, named, -⟩ := Line.header?_eq_some_iff.1 htitle
      rw [numberFrom_append, ReadingStage.entries?_prose headless, numberFrom,
        ReadingStage.entries?_header _ named] at h
      obtain ⟨front, block, rest, k', es', hfenced, hrest⟩ := ReadingStage.exists_of_headed h
      have hlength : rest.length < k := by
        rw [← hk, hfenced.lines]
        simp only [List.length_append, List.length_cons]
        omega
      obtain ⟨y, rfl⟩ := ih rest.length hlength hrest rfl
      obtain ⟨s, -, -, -, -, hlines⟩ := exists_cons headless named hfenced
      exact ⟨⟨before, s :: y.sections, headless⟩, hlines⟩

/-- **What lines are read as**: the entries of a layout that they have. -/
theorem entries?_eq_some_iff {n : Nat} {ls : List Text} {es : List RawEntry} :
    ReadingStage.entries? .prose (numberFrom n ls) = some es ↔ ∃ y : Layout, y.lines = ls ∧ y.entriesFrom n = es := by
  constructor
  · intro h
    obtain ⟨y, rfl⟩ := exists_of_entries? h
    rw [ReadingStage.entries?_lines, Option.some_inj] at h
    exact ⟨y, rfl, h⟩
  · rintro ⟨y, rfl, rfl⟩
    exact ReadingStage.entries?_lines y n

end Layout

end CursorSpec
