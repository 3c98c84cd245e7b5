/-
Edits in a row are one edit.

Typing leaves a caret behind every text that it puts down, so what is typed next goes right behind it. Seen from there,
each text that was kept is kept again, with what was typed behind it (`kept_ends`). So one text typed after another is
both of them typed at once, at every cursor (`replaceSelections?_replaced`), and a word can be typed character by
character (`typing_composes`). With changes at the main selection it is the same: they compose, and some changes are one
change that inserts all their texts and removes what the first one removes (`changes_compose`).
-/
import CursorSpec.Proofs.Editor.Changes
import CursorSpec.Proofs.Editor.Conservation
import CursorSpec.Run.Timed

namespace CursorSpec

def Call.typing (w : Text) : Call := ⟨"type", [.dict [(.str "text", .str w)]]⟩

namespace DocState

/-! ## Typing behind what was typed -/

/-- the empty extents where some extents end -/
def ends (cs : List Extent) : List Extent := cs.map fun c => ⟨c.stop, c.stop⟩

theorem areApart_ends (r : Text) (n : Nat) (ks : List Text) : AreApart n (ends (copies r n ks)) := by
  induction ks generalizing n with
  | nil => trivial
  | cons k ks ih => exact ⟨(Nat.le_add_right n k.length).trans (Nat.le_add_right _ r.length), le_rfl, ih _⟩

/-- Between the carets behind copies stand the kept texts with their copies, and behind the last one the rest. -/
theorem kept_ends (r before : Text) (ks : List Text) (rest : Text) :
    kept (before ++ (typed r ks ++ rest)) before.length (ends (copies r before.length ks)) = ks.map (· ++ r) ∧
      (before ++ (typed r ks ++ rest)).drop (reach before.length (ends (copies r before.length ks))) = rest := by
  induction ks generalizing before with
  | nil => exact ⟨rfl, List.drop_left⟩
  | cons k ks ih =>
    have hlength : before.length + k.length + r.length = (before ++ k ++ r).length := by simp only [List.length_append]
    have hmax : max (before ++ k ++ r).length before.length = (before ++ k ++ r).length :=
      max_eq_left (by rw [← hlength]; omega)
    have hfrom : Extent.stopFrom before.length ⟨(before ++ k ++ r).length, (before ++ k ++ r).length⟩ =
        (before ++ k ++ r).length := by
      rw [Extent.stopFrom, hmax, max_self]
    obtain ⟨hkept, hrest⟩ := ih (before ++ k ++ r)
    have hends : ends (copies r before.length (k :: ks)) =
        ⟨(before ++ k ++ r).length, (before ++ k ++ r).length⟩ :: ends (copies r (before ++ k ++ r).length ks) := by
      rw [copies, hlength]
      rfl
    rw [hends, kept, reach, hmax, hfrom, typed_cons_append, hkept, hrest, List.take_left, List.append_assoc before,
      List.drop_left]
    exact ⟨rfl, rfl⟩

theorem typed_map_append (a b : Text) (ks : List Text) : typed b (ks.map (· ++ a)) = typed (a ++ b) ks := by
  induction ks with
  | nil => rfl
  | cons k ks ih => rw [List.map_cons, typed_cons, typed_cons, ih, List.append_assoc k a b]

theorem carets_map_append (a b before : Text) (ks : List Text) :
    carets b before (ks.map (· ++ a)) = carets (a ++ b) before ks := by
  induction ks generalizing before with
  | nil => rfl
  | cons k ks ih =>
    have hcaret : before ++ (k ++ a) ++ b = before ++ k ++ (a ++ b) := by simp only [List.append_assoc]
    rw [List.map_cons, carets, carets, hcaret, ih]

/-- The carets after a replacement stand for the ends of the copies. -/
theorem forall₂_ends (old a : Text) (xs : List Extent) :
    List.Forall₂ (IsExtentOf (replaced old a xs).text) (replaced old a xs).selections
      (ends (copies a 0 (kept old 0 xs))) := by
  rw [replaced_selections, ends, List.forall₂_map_right_iff]
  refine (forall₂_carets a (kept old 0 xs) (old.drop (reach 0 xs))).imp fun x c hx => ?_
  obtain ⟨p, rfl, -, hp⟩ := hx
  rw [IsExtentOf, Selection.start_caret, Selection.stop_caret]
  exact ⟨hp, hp⟩

/-- **What is typed after a replacement is as if it had been typed with it**, at every cursor. -/
theorem replaceSelections?_replaced (old a b : Text) (xs : List Extent) :
    (replaced old a xs).replaceSelections? b = some (replaced old (a ++ b) xs) := by
  have hordered := pairwise_before_of_areApart (areApart_ends a 0 (kept old 0 xs))
  obtain ⟨hkept, hrest⟩ := kept_ends a [] (kept old 0 xs) (old.drop (reach 0 xs))
  rw [List.nil_append, List.length_nil] at hkept hrest
  rw [replaceSelections?_of_ordered (forall₂_ends old a xs) hordered]
  apply congrArg some
  apply DocState.ext
  · rw [replaced_text, replaced_text, replaced_text, hkept, hrest, typed_map_append]
  · rw [replaced_selections, replaced_selections, replaced_text, hkept, carets_map_append]

/-- Where no position is counted from the end, the same extents are replaced by every text. -/
theorem exists_replaced {s : DocState} (h : s.IsNonneg) :
    ∃ xs, ∀ r, s.replaceSelections? r = some (replaced s.text r xs) := by
  obtain ⟨es, hes, -⟩ := exists_extents h
  exact ⟨_, replaceSelections?_eq_replaced (spans?_of_forall₂ hes)⟩

/-- Texts typed one after the other, behind a replacement. -/
theorem foldlM_replaced (old a : Text) (xs : List Extent) (ws : List Text) :
    ws.foldlM replaceSelections? (replaced old a xs) = some (replaced old (a ++ ws.flatten) xs) := by
  induction ws generalizing a with
  | nil => rw [List.foldlM_nil, List.flatten_nil, List.append_nil]; rfl
  | cons w ws ih =>
    rw [List.foldlM_cons, replaceSelections?_replaced, List.flatten_cons, ← List.append_assoc]
    exact ih (a ++ w)

/-- **A word is typed in one go or in pieces**, however it is cut. -/
theorem foldlM_replaceSelections? {s : DocState} (h : s.IsNonneg) {ws : List Text} (hws : ws ≠ []) :
    ws.foldlM replaceSelections? s = s.replaceSelections? ws.flatten := by
  obtain ⟨xs, hxs⟩ := exists_replaced h
  cases ws with
  | nil => exact absurd rfl hws
  | cons w ws =>
    rw [List.foldlM_cons, hxs, hxs, List.flatten_cons]
    exact foldlM_replaced s.text w xs ws

end DocState

/-! ## Typing by calls -/

namespace Editor

theorem execute_typing {e : Editor} (types : e.handler? "type" = some .type) {w : Text} {s : DocState}
    (h : e.state.replaceSelections? w = some s) :
    e.execute (.typing w) = ({ e with state := s, history := e.history ++ [.typing w] }, .ok .null) := by
  have htext : Value.lookup? (.str "text") [(.str "text", .str w)] = some (.str w) := rfl
  have hreplaced : Handler.replaced e.state w = .ok s := by rw [Handler.replaced, h]
  have hcall : ∀ e' : Editor, e'.state = e.state →
      Handler.call .type e' (Call.typing w).args = .ok ({ e' with state := s }, .value .null) := by
    intro e' he'
    simp only [Call.typing, Handler.call, Handler.onlyArgument, Handler.entryOf, htext, he', Value.plain, bind,
      Except.bind, hreplaced]
    rfl
  have hknown : e.handler? (Call.typing w).command = some .type := types
  have hstart : e.start (.typing w) =
      ({ e with state := s, history := e.history ++ [.typing w] }, .ok (.value .null)) := by
    simp only [start, hknown]
    rw [hcall { e with history := e.history ++ [.typing w] } rfl]
  rw [execute, hstart]
  rfl

/-- Texts are typed by calls, one after the other. -/
theorem executeAll_typing {e : Editor} (types : e.handler? "type" = some .type) {ws : List Text} {s : DocState}
    (h : ws.foldlM DocState.replaceSelections? e.state = some s) :
    e.executeAll (ws.map .typing) =
      ({ e with state := s, history := e.history ++ ws.map .typing }, List.replicate ws.length (.ok .null)) := by
  induction ws generalizing e with
  | nil =>
    cases h
    rw [List.map_nil, executeAll, List.append_nil]
    rfl
  | cons w ws ih =>
    rw [List.foldlM_cons, Option.bind_eq_bind, Option.bind_eq_some_iff] at h
    obtain ⟨s', hs', h⟩ := h
    have hrest := ih (e := { e with state := s', history := e.history ++ [.typing w] }) types h
    rw [List.map_cons, executeAll, execute_typing types hs']
    dsimp only
    rw [hrest, List.append_assoc]
    rfl

end Editor

namespace DocState

/-- **Typing composes.** Where no position is counted from the end, typing one text and then another leaves what typing
both at once leaves, however the selections lie; so a word typed character by character is the word inserted at once, at
every cursor, and the same goes for the calls that type it. -/
theorem typing_composes {s : DocState} (h : s.IsNonneg) :
    (∀ a b, ∃ s' s'', s.replaceSelections? a = some s' ∧ s'.replaceSelections? b = some s'' ∧
      s.replaceSelections? (a ++ b) = some s'') ∧
      ∀ w : Text, w ≠ [] → ∃ s', s.replaceSelections? w = some s' ∧
        (w.map fun c => [c]).foldlM replaceSelections? s = some s' ∧
        ∀ e : Editor, e.state = s → e.handler? "type" = some .type →
          (e.executeAll (w.map fun c => .typing [c])).1.state = s' ∧ (e.execute (.typing w)).1.state = s' := by
  obtain ⟨xs, hxs⟩ := exists_replaced h
  constructor
  · intro a b
    exact ⟨_, _, hxs a, replaceSelections?_replaced s.text a b xs, hxs (a ++ b)⟩
  · intro w hw
    have hpieces : (w.map fun c => [c]).foldlM replaceSelections? s = some (replaced s.text w xs) := by
      rw [foldlM_replaceSelections? h (List.map_eq_nil_iff.not.2 hw), ← List.flatMap_def, List.flatMap_singleton', hxs]
    refine ⟨_, hxs w, hpieces, ?_⟩
    rintro e rfl types
    have hcalls : (w.map fun c => Call.typing [c]) = (w.map fun c => [c]).map .typing := by
      rw [List.map_map]
      rfl
    rw [hcalls, Editor.executeAll_typing types hpieces, Editor.execute_typing types (hxs w)]
    exact ⟨rfl, rfl⟩

def overlappingEditor : Editor := { Host.standard.openEditor.1 with state := overlapping }

/-- Typed over what overlaps, a line feed and a letter: where nothing is typed first, several carets stand at one place,
and they stay apart. -/
theorem typing_composes_overlapping :
    overlapping.IsNonneg ∧
      (∃ s' s'', overlapping.replaceSelections? [] = some s' ∧ s'.replaceSelections? ['\n', 'x'] = some s'' ∧
        overlapping.replaceSelections? ['\n', 'x'] = some s'') ∧
      (overlappingEditor.executeAll [.typing ['\n'], .typing ['x']]).1.state =
        (overlappingEditor.execute (.typing ['\n', 'x'])).1.state ∧
      overlapping.replaceSelections? ['\n', 'x'] = some (.make "a\nx\nx\nxef\nx"
        [.caret ⟨1, 1⟩, .caret ⟨2, 1⟩, .caret ⟨3, 1⟩, .caret ⟨4, 1⟩]) := by
  obtain ⟨htwo, hword⟩ := typing_composes (s := overlapping) (by decide)
  obtain ⟨s', -, -, hcalls⟩ := hword ['\n', 'x'] (by decide)
  obtain ⟨hpieces, hwhole⟩ := hcalls overlappingEditor rfl (by decide)
  exact ⟨by decide, htwo [] ['\n', 'x'], hpieces.trans hwhole.symm, by decide⟩

/-! ## Changes in a row -/

theorem applyChangesFrom?_append (text : Text) (main : Selection) (xs ys : List TextChange) :
    applyChangesFrom? text main (xs ++ ys) =
      (applyChangesFrom? text main xs).bind fun r => applyChangesFrom? r.1 r.2 ys := by
  induction xs generalizing text main with
  | nil => rfl
  | cons x xs ih =>
    rw [List.cons_append, applyChangesFrom?, applyChangesFrom?, Option.bind_eq_bind, Option.bind_assoc]
    exact congrArg _ (funext fun r => ih r.1 r.2)

/-- **Changes compose**, and where the first ones fail so do all. -/
theorem applyChanges?_append (s : DocState) (xs ys : List TextChange) :
    s.applyChanges? (xs ++ ys) = (s.applyChanges? xs).bind fun s' => s'.applyChanges? ys := by
  simp only [applyChanges?, applyChangesFrom?_append, Option.bind_eq_bind, Option.bind_assoc]
  rfl

/-- Where no position is counted from the end, changes can be applied. -/
theorem exists_applyChanges? {s : DocState} (h : s.IsNonneg) (cs : List TextChange) :
    ∃ s', s.applyChanges? cs = some s' := by
  cases cs with
  | nil => exact ⟨_, applyChanges?_nil s⟩
  | cons c cs =>
    obtain ⟨a, b, hplace, hab, hb⟩ := exists_replacesAt s.text h.mainSelection c
    exact ⟨_, applyChanges?_cons hplace (hab.trans hb) cs⟩

/-- Only the text and the main selection matter for changes: the other selections can as well be dropped first. -/
theorem applyChanges?_congr {s s' : DocState} (text : s'.text = s.text) (main : s'.mainSelection = s.mainSelection)
    (cs : List TextChange) : s'.applyChanges? cs = s.applyChanges? cs := by
  have hdropped : ∀ t : DocState, t.applyChanges? cs = (make t.text [t.mainSelection]).applyChanges? cs := fun t =>
    applyChanges?_append t [] cs
  rw [hdropped s', hdropped s, text, main]

/-- **Applying changes is compositional.** Where no position is counted from the end, changes can be applied in two goes
as well as in one. Some changes are one change with all their texts, made where the first one is, and only what that one
replaces is removed. The selections besides the main one have no part in it. -/
theorem changes_compose {s : DocState} (h : s.IsNonneg) :
    (∀ xs ys, ∃ s' s'', s.applyChanges? xs = some s' ∧ s'.applyChanges? ys = some s'' ∧
      s.applyChanges? (xs ++ ys) = some s'') ∧
      (∀ c cs, ∃ a b, ReplacesAt s.text s.mainSelection c a b ∧ a ≤ b ∧ b ≤ s.text.length ∧
        s.applyChanges? (c :: cs) = some (withInserted s.text a b (TextChange.inserted (c :: cs))) ∧
        s.applyChanges? (c :: cs) = s.applyChanges? [⟨TextChange.inserted (c :: cs), c.rangeLength⟩]) ∧
      ∀ (s' : DocState) cs, s'.text = s.text → s'.mainSelection = s.mainSelection →
        s'.applyChanges? cs = s.applyChanges? cs := by
  refine ⟨?_, ?_, ?_⟩
  · intro xs ys
    obtain ⟨s'', hall⟩ := exists_applyChanges? h (xs ++ ys)
    have hsplit := hall
    rw [applyChanges?_append, Option.bind_eq_some_iff] at hsplit
    obtain ⟨s', hxs, hys⟩ := hsplit
    exact ⟨s', s'', hxs, hys, hall⟩
  · intro c cs
    obtain ⟨a, b, hplace, hab, hb⟩ := exists_replacesAt s.text h.mainSelection c
    have hone : ReplacesAt s.text s.mainSelection ⟨TextChange.inserted (c :: cs), c.rangeLength⟩ a b := hplace
    have hinserted : TextChange.inserted [⟨TextChange.inserted (c :: cs), c.rangeLength⟩] =
        TextChange.inserted (c :: cs) := by
      rw [TextChange.inserted_cons]
      exact List.append_nil _
    have hchanges := applyChanges?_cons hplace (hab.trans hb) cs
    refine ⟨a, b, hplace, hab, hb, hchanges, ?_⟩
    rw [hchanges, applyChanges?_cons hone (hab.trans hb) [], hinserted]
  · intro s' cs htext hmain
    exact applyChanges?_congr htext hmain cs

/-- the `b` of two lines selected backwards, and a caret further on -/
def backwardFirst : DocState := .make "ab\ncd" [.caret ⟨1, 1⟩, ⟨⟨0, 2⟩, ⟨0, 1⟩⟩]

/-- Three changes that all have a range: the first one replaces the selected letter, and no other letter is removed,
whether there is another caret or not. -/
theorem changes_compose_backward :
    backwardFirst.IsNonneg ∧
      (∃ s' s'', backwardFirst.applyChanges? [⟨"x\n", 3⟩] = some s' ∧
        s'.applyChanges? [⟨"y", 7⟩, ⟨"z", 1⟩] = some s'' ∧
        backwardFirst.applyChanges? ([⟨"x\n", 3⟩] ++ [⟨"y", 7⟩, ⟨"z", 1⟩]) = some s'') ∧
      backwardFirst.applyChanges? [⟨"x\n", 3⟩, ⟨"y", 7⟩, ⟨"z", 1⟩] = some (.make "ax\nyz\ncd" [.caret ⟨1, 2⟩]) ∧
      (DocState.make "ab\ncd" [⟨⟨0, 2⟩, ⟨0, 1⟩⟩]).applyChanges? [⟨"y", 7⟩] =
        backwardFirst.applyChanges? [⟨"y", 7⟩] := by
  obtain ⟨hsplit, -, hothers⟩ := changes_compose (s := backwardFirst) (by decide)
  exact ⟨by decide, hsplit _ _, by decide, hothers _ _ rfl (by decide)⟩

end DocState

end CursorSpec
