/-
What replacing all selections makes of a text.

A replacement goes through the extents of the selections in order, and each extent counts only from where the ones
before it end (`Extent.stopFrom`). So the text falls into pieces that are kept, one before each extent and one behind
the last (`kept`, `reach`), and each kept piece but the last one is followed by the replacement and a caret (`typed`,
`carets`). `replaceSelections?_eq_replaced` says that this is all that replacing does. The carets come out in textual
order, so neither the order of the selections nor the sorting of the carets matters (`replaced_selections`).
-/
import CursorSpec.Editor.Edit
import CursorSpec.Proofs.Document.Offset
import CursorSpec.Proofs.Document.RoundTrip
import CursorSpec.Proofs.Sorting

namespace CursorSpec

/-- the offsets where a piece of a text begins and ends -/
structure Extent where
  start : Nat
  stop : Nat
  deriving DecidableEq, Inhabited

/-- where an extent ends that is cut at a cursor: what lies before the cursor does not count -/
def Extent.stopFrom (cursor : Nat) (x : Extent) : Nat := max x.stop (max x.start cursor)

/-- the order in which extents are replaced -/
def Extent.Before (x y : Extent) : Prop := x.start < y.start ∨ (x.start = y.start ∧ x.stop ≤ y.stop)

namespace DocState

def Span.extent (x : Span) : Extent := ⟨x.start.toNat, x.stop.toNat⟩

/-- the extents of spans in the order in which they are replaced -/
def extents (spans : List Span) : List Extent := (sortBy Span.le spans).map Span.extent

/-! ## What is kept, and what is typed -/

/-- the texts that stand before extents, each from where the extent before it ends -/
def kept (old : Text) (cursor : Nat) : List Extent → List Text
  | [] => []
  | x :: xs => (old.take (max x.start cursor)).drop cursor :: kept old (x.stopFrom cursor) xs

def reach (cursor : Nat) : List Extent → Nat
  | [] => cursor
  | x :: xs => reach (x.stopFrom cursor) xs

/-- kept texts with the replacement behind each -/
def typed (r : Text) (ks : List Text) : Text := ks.flatMap (· ++ r)

/-- the extent of each replacement, where kept texts and replacements follow so many characters -/
def copies (r : Text) (before : Nat) : List Text → List Extent
  | [] => []
  | k :: ks => ⟨before + k.length, before + k.length + r.length⟩ :: copies r (before + k.length + r.length) ks

/-- the caret behind each replacement, where kept texts and replacements follow a text -/
def carets (r before : Text) : List Text → List Selection
  | [] => []
  | k :: ks => .caret (.afterText (before ++ k ++ r)) :: carets r (before ++ k ++ r) ks

def replaced (old r : Text) (xs : List Extent) : DocState :=
  make (typed r (kept old 0 xs) ++ old.drop (reach 0 xs)) (carets r [] (kept old 0 xs))

theorem typed_cons (r k : Text) (ks : List Text) : typed r (k :: ks) = k ++ r ++ typed r ks := List.flatMap_cons

@[simp]
theorem length_kept (old : Text) (cursor : Nat) (xs : List Extent) : (kept old cursor xs).length = xs.length := by
  induction xs generalizing cursor with
  | nil => rfl
  | cons x xs ih => rw [kept, List.length_cons, ih, List.length_cons]

@[simp] theorem length_copies (r : Text) (n : Nat) (ks : List Text) : (copies r n ks).length = ks.length := by
  induction ks generalizing n with
  | nil => rfl
  | cons k ks ih => rw [copies, List.length_cons, ih, List.length_cons]

@[simp] theorem length_carets (r before : Text) (ks : List Text) : (carets r before ks).length = ks.length := by
  induction ks generalizing before with
  | nil => rfl
  | cons k ks ih => rw [carets, List.length_cons, ih, List.length_cons]

/-! ## Carets stand where replacements end -/

theorem typed_cons_append (before r k : Text) (ks : List Text) (rest : Text) :
    before ++ (typed r (k :: ks) ++ rest) = before ++ k ++ r ++ (typed r ks ++ rest) := by
  rw [typed_cons]
  simp only [List.append_assoc]

/-- Between its ends, each copy is the replacement. -/
theorem copy_eq {r : Text} (before : Text) {ks : List Text} {c : Extent} (h : c ∈ copies r before.length ks)
    (rest : Text) :
    c.start + r.length = c.stop ∧ c.stop ≤ (before ++ (typed r ks ++ rest)).length ∧
      ((before ++ (typed r ks ++ rest)).take c.stop).drop c.start = r := by
  induction ks generalizing before with
  | nil => cases h
  | cons k ks ih =>
    have hlength : (before ++ k ++ r).length = before.length + k.length + r.length := by
      simp only [List.length_append]
    rw [copies, ← hlength] at h
    rw [typed_cons_append]
    rcases List.mem_cons.1 h with rfl | h
    · refine ⟨hlength.symm, by simp, ?_⟩
      rw [List.take_left, List.drop_left']
      exact List.length_append
    · exact ih _ h

/-- The carets stand where the copies end. -/
theorem carets_eq_map_copies (r before : Text) (ks : List Text) (rest : Text) :
    carets r before ks = (copies r before.length ks).map fun c =>
      .caret (.afterText ((before ++ (typed r ks ++ rest)).take c.stop)) := by
  induction ks generalizing before with
  | nil => rfl
  | cons k ks ih =>
    have hlength : before.length + k.length + r.length = (before ++ k ++ r).length := by simp only [List.length_append]
    rw [carets, copies, List.map_cons, typed_cons_append, hlength, List.take_left, ih]

theorem map_positionAt_copies (r before : Text) (ks : List Text) (rest : Text) :
    ((copies r before.length ks).map fun c =>
      .caret (Document.positionAt (before ++ (typed r ks ++ rest)) c.stop)) = carets r before ks := by
  rw [carets_eq_map_copies r before ks rest]
  refine List.map_congr_left fun c hc => ?_
  rw [Document.positionAt_of_le (copy_eq before hc rest).2.1]

/-- No caret stands before the text in front of it. -/
theorem afterText_le_of_mem_carets {r before : Text} {ks : List Text} {x : Selection} (h : x ∈ carets r before ks) :
    (Position.afterText before).le x.start = true := by
  induction ks generalizing before with
  | nil => cases h
  | cons k ks ih =>
    have hstep : (Position.afterText before).le (.afterText (before ++ k ++ r)) = true := by
      have hplace := Document.afterText_mem_places before (k ++ r)
      rw [← List.append_assoc] at hplace
      exact Document.le_of_mem_places hplace
    rcases List.mem_cons.1 h with rfl | h
    · rwa [Selection.start_caret]
    · exact Position.le_trans hstep (ih h)

theorem pairwise_isBefore_carets (r before : Text) (ks : List Text) :
    (carets r before ks).Pairwise fun x y => x.isBefore y = true := by
  induction ks generalizing before with
  | nil => exact List.Pairwise.nil
  | cons k ks ih =>
    refine List.pairwise_cons.2 ⟨fun x hx => ?_, ih _⟩
    rw [Selection.isBefore, Selection.stop_caret]
    exact afterText_le_of_mem_carets hx

theorem exists_caret_of_mem_carets {r before : Text} {ks : List Text} {x : Selection} (h : x ∈ carets r before ks) :
    ∃ p, x = .caret p := by
  induction ks generalizing before with
  | nil => cases h
  | cons k ks ih =>
    rcases List.mem_cons.1 h with rfl | h
    · exact ⟨_, rfl⟩
    · exact ih h

/-- Carets that stand at one place are one caret. -/
theorem eq_of_le_of_le_carets {r before : Text} {ks : List Text} {x y : Selection} (hx : x ∈ carets r before ks)
    (hy : y ∈ carets r before ks) (hxy : x.le y = true) (hyx : y.le x = true) : x = y := by
  obtain ⟨p, rfl⟩ := exists_caret_of_mem_carets hx
  obtain ⟨q, rfl⟩ := exists_caret_of_mem_carets hy
  simp only [Selection.le_iff, Selection.start_caret, Selection.stop_caret] at hxy hyx
  rcases hxy with hxy | ⟨rfl, -⟩
  · rcases hyx with hyx | ⟨rfl, -⟩
    · exact absurd (Position.le_of_lt hyx) (Position.not_le_of_lt hxy)
    · rfl
  · rfl

@[simp] theorem replaced_text (old r : Text) (xs : List Extent) :
    (replaced old r xs).text = typed r (kept old 0 xs) ++ old.drop (reach 0 xs) := rfl

/-- **The carets after a replacement are in textual order as they stand.** -/
@[simp] theorem replaced_selections (old r : Text) (xs : List Extent) :
    (replaced old r xs).selections = carets r [] (kept old 0 xs) :=
  make_selections_of_pairwise _ (pairwise_isBefore_carets r [] _)

/-! ## The loop -/

/-- Spans replaced one after the other. -/
theorem foldl_step (old r : Text) (spans : List Span) (text : Text) (cursor : Nat) (done : List (Nat × Nat)) :
    spans.foldl (Replacing.step old r) ⟨text, cursor, done⟩ =
      ⟨text ++ typed r (kept old cursor (spans.map Span.extent)), reach cursor (spans.map Span.extent),
        done ++ (spans.map Span.index).zip
          ((copies r text.length (kept old cursor (spans.map Span.extent))).map Extent.stop)⟩ := by
  induction spans generalizing text cursor done with
  | nil => simp [typed, kept, reach]
  | cons x spans ih =>
    have hstep : Replacing.step old r ⟨text, cursor, done⟩ x =
        ⟨text ++ (old.take (max x.extent.start cursor)).drop cursor ++ r, x.extent.stopFrom cursor,
          done ++ [(x.index, (text ++ (old.take (max x.extent.start cursor)).drop cursor ++ r).length)]⟩ := rfl
    rw [List.foldl_cons, hstep, ih]
    simp only [List.map_cons, kept, reach, copies, typed_cons, List.zip_cons_cons, List.append_assoc,
      List.length_append, Nat.add_assoc, List.singleton_append]

/-- **Replacing all selections** keeps the text between their extents and puts a replacement and a caret in the place of
each. -/
theorem replaceSelections?_eq_replaced {s : DocState} {spans : List Span} (h : s.spans? = some spans) (r : Text) :
    s.replaceSelections? r = some (replaced s.text r (extents spans)) := by
  set xs := extents spans with hxs
  set text := typed r (kept s.text 0 xs) ++ s.text.drop (reach 0 xs) with htext
  set placed := ((sortBy Span.le spans).map Span.index).zip ((copies r 0 (kept s.text 0 xs)).map Extent.stop)
    with hplaced
  have hloop : (sortBy Span.le spans).foldl (Replacing.step s.text r) ⟨[], 0, []⟩ =
      ⟨typed r (kept s.text 0 xs), reach 0 xs, placed⟩ :=
    foldl_step s.text r (sortBy Span.le spans) [] 0 []
  have hcarets : (placed.map fun c => Selection.caret (Document.positionAt text c.2)) =
      carets r [] (kept s.text 0 xs) := by
    have hsnd : placed.map Prod.snd = (copies r 0 (kept s.text 0 xs)).map Extent.stop :=
      List.map_snd_zip (by simp [hxs, extents])
    have hmap := congrArg (List.map fun e : Nat => Selection.caret (Document.positionAt text e)) hsnd
    rw [List.map_map, List.map_map] at hmap
    exact hmap.trans (map_positionAt_copies r [] _ _)
  have hperm : ((sortBy (fun a b => decide (a.1 ≤ b.1)) placed).map fun c =>
      Selection.caret (Document.positionAt text c.2)).Perm (carets r [] (kept s.text 0 xs)) :=
    hcarets ▸ (sortBy_perm _ _).map _
  have hsorted : make text ((sortBy (fun a b => decide (a.1 ≤ b.1)) placed).map fun c =>
      .caret (Document.positionAt text c.2)) = replaced s.text r xs := by
    refine DocState.ext rfl ?_
    rw [replaced_selections]
    exact sortBy_of_perm Selection.le_total Selection.le_trans hperm
      ((pairwise_isBefore_carets _ _ _).imp Selection.le_of_isBefore) fun x hx y hy => eq_of_le_of_le_carets hx hy
  rw [replaceSelections?, h, Option.bind_eq_bind, Option.bind_some, hloop, ← hsorted]
  rfl

/-! ## Extents that stand apart -/

/-- whether extents follow each other from an offset on -/
def AreApart (cursor : Nat) : List Extent → Prop
  | [] => True
  | x :: xs => cursor ≤ x.start ∧ x.start ≤ x.stop ∧ AreApart x.stop xs

theorem areApart_mono {c d : Nat} (hcd : c ≤ d) {xs : List Extent} (h : AreApart d xs) : AreApart c xs := by
  cases xs with
  | nil => trivial
  | cons x xs => exact ⟨hcd.trans h.1, h.2⟩

theorem le_of_areApart {c : Nat} {xs : List Extent} (h : AreApart c xs) {x : Extent} (hx : x ∈ xs) :
    c ≤ x.start ∧ x.start ≤ x.stop := by
  induction xs generalizing c with
  | nil => cases hx
  | cons y ys ih =>
    obtain ⟨hcy, hy, hys⟩ := h
    rcases List.mem_cons.1 hx with rfl | hx
    · exact ⟨hcy, hy⟩
    · exact ⟨(hcy.trans hy).trans (ih hys hx).1, (ih hys hx).2⟩

theorem pairwise_stop_of_areApart {c : Nat} {xs : List Extent} (h : AreApart c xs) :
    xs.Pairwise fun x y => x.stop ≤ y.start := by
  induction xs generalizing c with
  | nil => exact .nil
  | cons x xs ih => exact List.pairwise_cons.2 ⟨fun y hy => (le_of_areApart h.2.2 hy).1, ih h.2.2⟩

/-- Extents that stand apart are in the order in which they are replaced. -/
theorem pairwise_before_of_areApart {c : Nat} {xs : List Extent} (h : AreApart c xs) : xs.Pairwise Extent.Before := by
  refine (pairwise_stop_of_areApart h).imp_of_mem fun {x y} hx hy hxy => ?_
  have hx := (le_of_areApart h hx).2
  have hy := (le_of_areApart h hy).2
  unfold Extent.Before
  omega

/-! ## Selections as extents -/

/-- whether a selection stands for an extent of a text, once its ends are brought into the text -/
def IsExtentOf (text : Text) (x : Selection) (e : Extent) : Prop :=
  Document.offsetAt? text x.start = some (e.start : Int) ∧ Document.offsetAt? text x.stop = some (e.stop : Int)

instance (text : Text) (x : Selection) (e : Extent) : Decidable (IsExtentOf text x e) :=
  inferInstanceAs (Decidable (_ ∧ _))

theorem before_of_spanLe {x y : Span} (hx : 0 ≤ x.start ∧ 0 ≤ x.stop) (hy : 0 ≤ y.start ∧ 0 ≤ y.stop)
    (h : Span.le x y = true) : Extent.Before x.extent y.extent := by
  simp only [Span.le, Bool.or_eq_true, Bool.and_eq_true, decide_eq_true_eq] at h
  unfold Extent.Before Span.extent
  dsimp only
  omega

theorem spanLe_total (x y : Span) : Span.le x y = true ∨ Span.le y x = true := by
  simp only [Span.le, Bool.or_eq_true, Bool.and_eq_true, decide_eq_true_eq]
  omega

theorem spanLe_trans (x y z : Span) (hxy : Span.le x y = true) (hyz : Span.le y z = true) : Span.le x z = true := by
  simp only [Span.le, Bool.or_eq_true, Bool.and_eq_true, decide_eq_true_eq] at *
  omega

/-- The spans of selections are their extents, with places. -/
theorem mapM_span_of_forall₂ {text : Text} {xs : List Selection} {es : List Extent}
    (h : List.Forall₂ (IsExtentOf text) xs es) (place : Nat → Nat) :
    (xs.mapIdx fun i x => (place i, x)).mapM (fun (i, x) => (do
        return ⟨← Document.offsetAt? text x.start, ← Document.offsetAt? text x.stop, i⟩ : Option Span)) =
      some (es.mapIdx fun i e => ⟨e.start, e.stop, place i⟩) := by
  induction h generalizing place with
  | nil => rfl
  | @cons x e xs es he _ ih =>
    rw [List.mapIdx_cons, List.mapM_cons, ih fun i => place (i + 1), List.mapIdx_cons]
    simp only [he.1, he.2, Option.bind_eq_bind, Option.bind_some, Option.pure_def]

theorem spans?_of_forall₂ {s : DocState} {es : List Extent} (h : List.Forall₂ (IsExtentOf s.text) s.selections es) :
    s.spans? = some (es.mapIdx fun i e => ⟨e.start, e.stop, i⟩) :=
  mapM_span_of_forall₂ h id

/-- Extents are replaced in their order, whatever the order of the selections. -/
theorem extents_mapIdx (es : List Extent) :
    (extents (es.mapIdx fun i e => ⟨e.start, e.stop, i⟩)).Perm es ∧
      (extents (es.mapIdx fun i e => ⟨e.start, e.stop, i⟩)).Pairwise Extent.Before := by
  set spans : List Span := es.mapIdx fun i e => ⟨e.start, e.stop, i⟩ with hspans
  have hnonneg : ∀ x ∈ sortBy Span.le spans, 0 ≤ x.start ∧ 0 ≤ x.stop := by
    intro x hx
    obtain ⟨i, hi, rfl⟩ := List.mem_mapIdx.1 ((sortBy_perm _ _).mem_iff.1 hx)
    exact ⟨Int.natCast_nonneg _, Int.natCast_nonneg _⟩
  constructor
  · have hmap : spans.map Span.extent = es := by
      refine List.ext_getElem? fun i => ?_
      simp [hspans, Function.comp_def, Span.extent]
    exact hmap ▸ (sortBy_perm Span.le spans).map Span.extent
  · refine List.pairwise_map.2 ((sortBy_pairwise spanLe_total spanLe_trans spans).imp_of_mem ?_)
    intro x y hx hy hxy
    exact before_of_spanLe (hnonneg x hx) (hnonneg y hy) hxy

/-- **Replacing selections replaces their extents**, in their order. -/
theorem exists_replaceSelections? {s : DocState} {es : List Extent}
    (h : List.Forall₂ (IsExtentOf s.text) s.selections es) (r : Text) :
    ∃ xs, xs.Perm es ∧ xs.Pairwise Extent.Before ∧ s.replaceSelections? r = some (replaced s.text r xs) :=
  ⟨_, (extents_mapIdx es).1, (extents_mapIdx es).2, replaceSelections?_eq_replaced (spans?_of_forall₂ h) r⟩

/-- Extents that are given in order are replaced as they are given. -/
theorem replaceSelections?_of_ordered {s : DocState} {es : List Extent}
    (h : List.Forall₂ (IsExtentOf s.text) s.selections es) (ordered : es.Pairwise Extent.Before) (r : Text) :
    s.replaceSelections? r = some (replaced s.text r es) := by
  obtain ⟨xs, hperm, hxs, hreplaced⟩ := exists_replaceSelections? h r
  have hsame : xs = es := by
    refine List.Perm.eq_of_pairwise (fun x y _ _ hxy hyx => ?_) hxs ordered hperm
    cases x; cases y
    simp only [Extent.Before, Extent.mk.injEq] at *
    omega
  rw [hreplaced, hsame]

/-- Where no position is counted from the end, every selection has an extent in the text. -/
theorem exists_extents {s : DocState} (h : s.IsNonneg) :
    ∃ es, List.Forall₂ (IsExtentOf s.text) s.selections es ∧ ∀ e ∈ es, e.start ≤ e.stop ∧ e.stop ≤ s.text.length := by
  refine ⟨s.selections.map fun x => ⟨Document.offsetIn s.text x.start.line.toNat x.start.character.toNat,
    Document.offsetIn s.text x.stop.line.toNat x.stop.character.toNat⟩, ?_, fun e he => ?_⟩
  · rw [List.forall₂_map_right_iff, List.forall₂_same]
    intro x hx
    exact ⟨Document.offsetAt?_of_isNonneg s.text (h x hx).start, Document.offsetAt?_of_isNonneg s.text (h x hx).stop⟩
  · obtain ⟨x, hx, rfl⟩ := List.mem_map.1 he
    exact ⟨Document.offsetIn_le_offsetIn s.text (h x hx).start (h x hx).stop x.start_le_stop,
      Document.offsetIn_le_length s.text _ _⟩

end DocState

end CursorSpec
