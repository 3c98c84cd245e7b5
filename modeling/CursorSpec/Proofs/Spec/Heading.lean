/-
The headings of a source.

A `Heading` is a line that looks like a header, with the lines below it; it is complete if it says something and has
two fences below it before the next heading. A layout is tidy if no body, block or prose of it hides a heading. That
can be counted (`countP_lines`), and the headings of a tidy layout are those of its sections (`begins_entriesFrom`).
Conversely, lines whose headings are all complete are those of a tidy layout (`exists_tidy`).
-/
import CursorSpec.Proofs.Spec.Entry
import CursorSpec.Proofs.Spec.Layout
import Mathlib.Data.List.TakeWhile

namespace CursorSpec

/-! ## Headings -/

/-- a line that looks like a header, its number, and the lines below it -/
structure Heading where
  number : Nat
  line : Text
  below : List Text
  deriving DecidableEq

/-- the headings among lines numbered from a number on -/
def headings (n : Nat) : List Text → List Heading
  | [] => []
  | l :: ls => if Line.looksLikeHeader l then ⟨n, l, ls⟩ :: headings (n + 1) ls else headings (n + 1) ls

namespace Heading

/-- whether a heading begins an entry: it says something, and there are two fences before the next heading or the end -/
structure IsComplete (h : Heading) : Prop where
  named : Line.headerStart.length < h.line.length
  fenced : 2 ≤ (h.below.takeWhile fun l => !Line.looksLikeHeader l).countP Line.isFence

theorem isComplete_iff (h : Heading) : h.IsComplete ↔ Line.headerStart.length < h.line.length ∧
    2 ≤ (h.below.takeWhile fun l => !Line.looksLikeHeader l).countP Line.isFence :=
  ⟨fun c => ⟨c.named, c.fenced⟩, fun c => ⟨c.1, c.2⟩⟩

instance (h : Heading) : Decidable h.IsComplete := decidable_of_iff' _ h.isComplete_iff

/-- whether an entry is what stands at a heading: the title behind `# `, the number of the line, the lines between the
next two fences, and the target of a reference in the very next line -/
structure IsHeadOf (h : Heading) (x : Entry) : Prop where
  title : x.title = Line.titleOf (h.line.drop Line.headerStart.length)
  line : x.line = some (h.number : Int)
  content : ∃ front block rest, Fenced h.below front block rest ∧ x.content = block.flatMap (· ++ ['\n'])
  comesAfter : ∀ target, x.comesAfter? = some target ↔ ∃ l ∈ h.below.head?, Line.RefersTo l target

/-- the same for an entry whose body is not read yet, at a heading that begins one -/
structure Begins (h : Heading) (e : RawEntry) : Prop where
  complete : h.IsComplete
  title : e.title = Line.titleOf (h.line.drop Line.headerStart.length)
  line : e.line = h.number
  block : ∃ front rest, Fenced h.below front e.block rest
  comesAfter : ∀ target, e.comesAfter = some target ↔ ∃ l ∈ h.below.head?, Line.RefersTo l target

theorem Begins.isHeadOf {h : Heading} {e : RawEntry} {x : Entry} (hb : h.Begins e) (hk : e.Keeps x) : h.IsHeadOf x := by
  obtain ⟨front, rest, hfenced⟩ := hb.block
  constructor
  · rw [hk.title, hb.title]
  · rw [hk.line, hb.line]
  · exact ⟨front, e.block, rest, hfenced, hk.content⟩
  · rw [hk.comesAfter]
    exact hb.comesAfter

theorem complete_of_forall₂_begins {hs : List Heading} {es : List RawEntry} (hb : List.Forall₂ Begins hs es) :
    ∀ h ∈ hs, h.IsComplete := by
  induction hb with
  | nil => exact nofun
  | cons h _ ih => exact List.forall_mem_cons.2 ⟨h.complete, ih⟩

theorem forall₂_isHeadOf {hs : List Heading} {es : List RawEntry} {xs : List Entry}
    (hb : List.Forall₂ Begins hs es) (hread : List.Forall₂ (fun e x => e.read = .ok x) es xs) :
    List.Forall₂ IsHeadOf hs xs := by
  induction hb generalizing xs with
  | nil => cases hread; exact List.Forall₂.nil
  | cons h _ ih =>
    cases hread with
    | cons hx hxs => exact List.Forall₂.cons (h.isHeadOf (RawEntry.keeps_of_read hx)) (ih hxs)

/-- Entries have the numbers of their headings. -/
theorem map_number_of_isHeadOf {hs : List Heading} {xs : List Entry} (h : List.Forall₂ IsHeadOf hs xs) :
    xs.map Entry.number = hs.map fun h => (h.number : Int) := by
  induction h with
  | nil => rfl
  | cons h _ ih => rw [List.map_cons, List.map_cons, ih, Entry.number, h.line, Option.getD_some]

end Heading

theorem headings_cons {l : Text} (hl : Line.looksLikeHeader l = true) (n : Nat) (ls : List Text) :
    headings n (l :: ls) = ⟨n, l, ls⟩ :: headings (n + 1) ls := by
  rw [headings, if_pos hl]

theorem headings_append {front : List Text} (headless : ∀ l ∈ front, Line.looksLikeHeader l = false) (n : Nat)
    (ls : List Text) : headings n (front ++ ls) = headings (n + front.length) ls := by
  induction front generalizing n with
  | nil => rfl
  | cons l front ih =>
    have hl := headless l List.mem_cons_self
    rw [List.cons_append, headings, hl, if_neg Bool.false_ne_true, ih fun m hm => headless m (List.mem_cons_of_mem l hm),
      List.length_cons, Nat.add_right_comm n 1]
    rfl

/-- The headings of the last lines are headings of all lines. -/
theorem mem_headings_append {n : Nat} (front : List Text) {ls : List Text} {h : Heading}
    (hh : h ∈ headings (n + front.length) ls) : h ∈ headings n (front ++ ls) := by
  induction front generalizing n with
  | nil => exact hh
  | cons l front ih =>
    have hlength : n + (l :: front).length = n + 1 + front.length := by
      rw [List.length_cons, Nat.add_right_comm, Nat.add_assoc]
    have hrest := ih (hlength ▸ hh)
    rw [List.cons_append, headings]
    split
    · exact List.mem_cons_of_mem _ hrest
    · exact hrest

theorem le_number_of_mem_headings {n : Nat} {ls : List Text} {h : Heading} (hh : h ∈ headings n ls) : n ≤ h.number := by
  induction ls generalizing n with
  | nil => cases hh
  | cons l ls ih =>
    rw [headings] at hh
    split at hh
    · rcases List.mem_cons.1 hh with rfl | hh
      · exact Nat.le_refl n
      · exact Nat.le_of_succ_le (ih hh)
    · exact Nat.le_of_succ_le (ih hh)

theorem headings_pairwise (n : Nat) (ls : List Text) : (headings n ls).Pairwise fun g h => g.number < h.number := by
  induction ls generalizing n with
  | nil => exact List.Pairwise.nil
  | cons l ls ih =>
    rw [headings]
    split
    · exact List.pairwise_cons.2 ⟨fun h hh => le_number_of_mem_headings hh, ih (n + 1)⟩
    · exact ih (n + 1)

/-- A heading is known by its number. -/
theorem eq_of_mem_headings {n : Nat} {ls : List Text} {g h : Heading} (hg : g ∈ headings n ls)
    (hh : h ∈ headings n ls) (number : g.number = h.number) : g = h := by
  have hdistinct : ((headings n ls).map Heading.number).Nodup :=
    List.pairwise_map.2 ((headings_pairwise n ls).imp Nat.ne_of_lt)
  exact List.inj_on_of_nodup_map hdistinct hg hh number

/-! ## Layouts that hide no heading -/

namespace Section

theorem looksLikeHeader_header (s : Section) : Line.looksLikeHeader s.header = true :=
  Line.looksLikeHeader_iff.2 ⟨s.name, rfl⟩

theorem isFence_of_mem_reference {s : Section} {l : Text} (hl : l ∈ s.reference.toList) : Line.isFence l = false := by
  obtain ⟨target, htarget⟩ := Option.isSome_iff_exists.1 (s.refers l (Option.mem_toList.1 hl))
  exact Line.isFence_of_reference? htarget

theorem fenced_below (s : Section) (ls : List Text) :
    Fenced (s.below ++ ls) (s.reference.toList ++ s.body) s.block (s.prose ++ ls) where
  lines := by simp only [below, List.append_assoc, List.cons_append]
  front_open l hl := (List.mem_append.1 hl).elim isFence_of_mem_reference (s.body_open l)
  block_open := s.block_open

/-- The line below the header is a reference only if the section has one. -/
theorem comesAfter_iff (s : Section) (ls : List Text) (target : Text) :
    s.reference.bind Line.reference? = some target ↔ ∃ l ∈ (s.below ++ ls).head?, Line.RefersTo l target := by
  simp only [← Line.reference?_eq_some_iff]
  cases hr : s.reference with
  | some l => simp [below, hr]
  | none =>
    constructor
    · intro h; cases h
    · rintro ⟨l, hl, href⟩
      rw [s.unreferring_below hr ls l hl] at href
      cases href

/-- **The heading of a section that hides no other begins its entry.** -/
theorem begins_entryAt {s : Section} (headless : ∀ l ∈ s.below, Line.looksLikeHeader l = false) (n : Nat)
    (ls : List Text) : (⟨n, s.header, s.below ++ ls⟩ : Heading).Begins (s.entryAt n) := by
  have hdrop : s.header.drop Line.headerStart.length = s.name := List.drop_left
  refine ⟨⟨?_, ?_⟩, ?_, rfl, ⟨_, _, s.fenced_below ls⟩, s.comesAfter_iff ls⟩
  · have hpos := List.length_pos_of_ne_nil s.named
    rw [header, List.length_append]
    omega
  · rw [List.takeWhile_append_of_pos fun l hl => by rw [headless l hl]; rfl]
    simp only [below, List.countP_append, List.countP_cons, Line.isFence_fence, if_true]
    omega
  · rw [hdrop]
    rfl

end Section

namespace Layout

/-- whether no line but the headers of sections looks like a header -/
def IsTidy (y : Layout) : Prop := ∀ l ∈ y.prose ++ y.sections.flatMap Section.below, Line.looksLikeHeader l = false

theorem countP_sections (ss : List Section) : (ss.flatMap Section.lines).countP Line.looksLikeHeader =
    ss.length + (ss.flatMap Section.below).countP Line.looksLikeHeader := by
  induction ss with
  | nil => rfl
  | cons s ss ih =>
    simp only [List.flatMap_cons, List.countP_append, ih, Section.lines, List.countP_cons_of_pos
      s.looksLikeHeader_header, List.length_cons]
    omega

/-- **There are as many headings as sections exactly if none is hidden.** -/
theorem countP_lines (y : Layout) : y.lines.countP Line.looksLikeHeader = y.sections.length ↔ y.IsTidy := by
  have hzero : (y.prose ++ y.sections.flatMap Section.below).countP Line.looksLikeHeader = 0 ↔ y.IsTidy := by
    simp only [List.countP_eq_zero, Bool.not_eq_true, IsTidy]
  rw [← hzero, lines, List.countP_append, countP_sections, List.countP_append]
  omega

theorem length_entriesFrom (y : Layout) (n : Nat) : (y.entriesFrom n).length = y.sections.length := by
  rw [entriesFrom]
  generalize n + y.prose.length = k
  induction y.sections generalizing k with
  | nil => rfl
  | cons s ss ih => rw [Section.entriesFrom, List.length_cons, List.length_cons, ih]

theorem begins_sections {ss : List Section}
    (headless : ∀ l ∈ ss.flatMap Section.below, Line.looksLikeHeader l = false) (n : Nat) :
    List.Forall₂ Heading.Begins (headings n (ss.flatMap Section.lines)) (Section.entriesFrom n ss) := by
  induction ss generalizing n with
  | nil => exact List.Forall₂.nil
  | cons s ss ih =>
    rw [List.flatMap_cons] at headless
    have hs : ∀ l ∈ s.below, Line.looksLikeHeader l = false := fun l hl => headless l (List.mem_append_left _ hl)
    have hss := ih (fun l hl => headless l (List.mem_append_right _ hl)) (n + s.lines.length)
    have hlength : n + 1 + s.below.length = n + s.lines.length := by
      rw [Section.lines, List.length_cons]
      omega
    rw [List.flatMap_cons, Section.entriesFrom, Section.lines, List.cons_append,
      headings_cons s.looksLikeHeader_header, headings_append hs, hlength]
    exact List.Forall₂.cons (Section.begins_entryAt hs n _) hss

/-- **The headings of a tidy layout begin its entries.** -/
theorem begins_entriesFrom {y : Layout} (tidy : y.IsTidy) (n : Nat) :
    List.Forall₂ Heading.Begins (headings n y.lines) (y.entriesFrom n) := by
  rw [lines, headings_append fun l hl => tidy l (List.mem_append_left _ hl)]
  exact begins_sections (fun l hl => tidy l (List.mem_append_right _ hl)) _

end Layout

/-! ## Lines whose headings are complete -/

theorem exists_fenced_of_two (ls : List Text)
    (h : 2 ≤ (ls.takeWhile fun l => !Line.looksLikeHeader l).countP Line.isFence) :
    ∃ front block rest, Fenced ls front block rest ∧ ∀ l ∈ front ++ block, Line.looksLikeHeader l = false := by
  have hlines := List.takeWhile_append_dropWhile (p := fun l => !Line.looksLikeHeader l) (l := ls)
  have headless : ∀ l ∈ ls.takeWhile fun l => !Line.looksLikeHeader l, Line.looksLikeHeader l = false := fun l hl => by
    simpa using List.mem_takeWhile_imp hl
  generalize (ls.takeWhile fun l => !Line.looksLikeHeader l) = seen at h hlines headless
  generalize (ls.dropWhile fun l => !Line.looksLikeHeader l) = unseen at hlines
  have hnone : ∀ {ms : List Text}, (∀ l ∈ ms, Line.isFence l = false) → ms.countP Line.isFence = 0 := fun hms =>
    List.countP_eq_zero.2 fun l hl => by rw [hms l hl]; exact Bool.false_ne_true
  rcases Line.exists_cut seen with hno | ⟨front, after, rfl, hfront⟩
  · rw [hnone hno] at h
    omega
  · rcases Line.exists_cut after with hno | ⟨block, rest, rfl, hblock⟩
    · rw [List.countP_append, List.countP_cons, hnone hfront, hnone hno] at h
      split at h <;> omega
    · refine ⟨front, block, rest ++ unseen, ⟨?_, hfront, hblock⟩, fun l hl => headless l ?_⟩
      · rw [← hlines]
        simp only [List.append_assoc, List.cons_append]
      · simp only [List.mem_append, List.mem_cons] at hl ⊢
        tauto

/-- Where no heading stands among lines up to the second fence, all are behind it. -/
theorem Fenced.headings_eq {ls front block rest : List Text} (h : Fenced ls front block rest)
    (headless : ∀ l ∈ front ++ block, Line.looksLikeHeader l = false) (n : Nat) :
    ∃ k, headings n ls = headings k rest := by
  have hseen : ∀ l ∈ front ++ Line.fence :: (block ++ [Line.fence]), Line.looksLikeHeader l = false := by
    intro l hl
    by_cases hfence : l = Line.fence
    · rw [hfence]
      exact Line.looksLikeHeader_fence
    · refine headless l ?_
      simpa [hfence] using hl
  have hlines : ls = (front ++ Line.fence :: (block ++ [Line.fence])) ++ rest := by
    simp only [h.lines, List.append_assoc, List.cons_append, List.nil_append]
  exact ⟨_, hlines ▸ headings_append hseen n rest⟩

theorem Section.headless_below {s : Section}
    (hseen : ∀ l ∈ s.reference.toList ++ s.body ++ s.block, Line.looksLikeHeader l = false)
    (hprose : ∀ l ∈ s.prose, Line.looksLikeHeader l = false) : ∀ l ∈ s.below, Line.looksLikeHeader l = false := by
  intro l hl
  by_cases hfence : l = Line.fence
  · rw [hfence]
    exact Line.looksLikeHeader_fence
  · by_cases hl' : l ∈ s.prose
    · exact hprose l hl'
    · refine hseen l ?_
      simpa [below, hfence, hl', or_assoc] using hl

/-- **Lines whose headings are all complete are those of a tidy layout.** -/
theorem exists_tidy {n : Nat} {ls : List Text} (complete : ∀ h ∈ headings n ls, h.IsComplete) :
    ∃ y : Layout, y.IsTidy ∧ y.lines = ls := by
  induction hk : ls.length using Nat.strong_induction_on generalizing n ls with
  | _ k ih =>
    cases hfind : ls.find? Line.looksLikeHeader with
    | none =>
      have headless : ∀ l ∈ ls, Line.looksLikeHeader l = false := by simpa using List.find?_eq_none.1 hfind
      refine ⟨⟨ls, [], fun l hl => Line.header?_of_not_looksLikeHeader (headless l hl)⟩, ?_, List.append_nil ls⟩
      exact fun l hl => headless l (by simpa using hl)
    | some l =>
      obtain ⟨hl, before, below, rfl, hbefore⟩ := List.find?_eq_some_iff_append.1 hfind
      have headless : ∀ m ∈ before, Line.looksLikeHeader m = false := fun m hm => by simpa using hbefore m hm
      rw [headings_append headless, headings_cons hl, List.forall_mem_cons] at complete
      obtain ⟨⟨hname, htwo⟩, complete⟩ := complete
      obtain ⟨name, rfl⟩ := Line.looksLikeHeader_iff.1 hl
      have named : name ≠ [] := by
        rintro rfl
        simp at hname
      obtain ⟨front, block, rest, hfenced, hseen⟩ := exists_fenced_of_two below htwo
      have hlength : rest.length < k := by
        rw [← hk, hfenced.lines]
        simp only [List.length_append, List.length_cons]
        omega
      obtain ⟨m, hm⟩ := hfenced.headings_eq hseen (n + before.length + 1)
      obtain ⟨y, tidy, rfl⟩ := ih rest.length hlength (hm ▸ complete) rfl
      obtain ⟨s, -, hfront, hblock, hprose, hlines⟩ := Layout.exists_cons
        (fun m hm => Line.header?_of_not_looksLikeHeader (headless m hm)) named hfenced
      refine ⟨_, ?_, hlines⟩
      have hs : ∀ l ∈ s.below, Line.looksLikeHeader l = false := Section.headless_below
        (by rw [hfront, hblock]; exact hseen) (by rw [hprose]; exact fun l hl => tidy l (List.mem_append_left _ hl))
      simp only [Layout.IsTidy, List.flatMap_cons, List.forall_mem_append] at tidy ⊢
      exact ⟨headless, hs, tidy.2⟩

end CursorSpec
