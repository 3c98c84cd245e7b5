/-
A mismatch message shows how two states differ, unless their display forms are cut before that.

Where the renderings differ, some line of one of them is shown as removed or added. States with one rendering have one
text (`text_of_render`), so only their selections differ, and a display form says which they are: it is clear from what
follows an integer, a position or a selection where it ends (`displaySelections_injective`). But display forms are cut,
and the text stands before the selections. What is shown is the same exactly if both forms are cut and do not differ up
to there (`mismatch_shows`), as it is for every text that is long enough (`isCutAlike_of_long`).
-/
import CursorSpec.Diff.Mismatch
import CursorSpec.Proofs.Diff.Unified
import CursorSpec.Proofs.Document.Offset
import CursorSpec.Proofs.Document.Token
import CursorSpec.Proofs.Expr.Construction

namespace CursorSpec

open Expr.Construction

theorem Text.lines_injective {t u : Text} (h : Text.lines t = Text.lines u) : t = u := by
  rw [← Text.unlines_lines t, h, Text.unlines_lines]

/-! ## Display forms end where they end -/

/-- An integer ends before a comma or a closing bracket. -/
theorem Text.ofInt_append_inj {j k : Int} {c d : Char} {u v : Text} (hc : IsEnd c) (hd : IsEnd d)
    (h : Text.ofInt j ++ c :: u = Text.ofInt k ++ d :: v) : j = k ∧ c :: u = d :: v := by
  -- both integers are read from the one text
  have hj := reads_ofInt j ((Text.ofInt j).length + (Text.ofInt k).length + 1) c u (by omega) hc
  have hk := reads_ofInt k ((Text.ofInt j).length + (Text.ofInt k).length + 1) d v (by omega) hd
  rw [h, hk] at hj
  obtain ⟨hint, hrest⟩ := Prod.mk.inj (Option.some.inj hj)
  exact ⟨(Built.int.inj hint).symm, hrest.symm⟩

theorem Position.display_append_inj {p q : Position} {u v : Text} (h : p.display ++ u = q.display ++ v) :
    p = q ∧ u = v := by
  have hopened : Text.ofInt p.line ++ ',' :: (" character=" ++ Text.ofInt p.character ++ ')' :: u) =
      Text.ofInt q.line ++ ',' :: (" character=" ++ Text.ofInt q.character ++ ')' :: v) := by
    unfold Position.display at h
    simpa using h
  obtain ⟨hline, hrest⟩ := Text.ofInt_append_inj (.inl rfl) (.inl rfl) hopened
  have hcharacters : Text.ofInt p.character ++ ')' :: u = Text.ofInt q.character ++ ')' :: v := by simpa using hrest
  obtain ⟨hcharacter, hclosed⟩ := Text.ofInt_append_inj (.inr rfl) (.inr rfl) hcharacters
  exact ⟨Position.ext hline hcharacter, (List.cons.inj hclosed).2⟩

theorem Selection.display_append_inj {s t : Selection} {u v : Text} (h : s.display ++ u = t.display ++ v) :
    s = t ∧ u = v := by
  obtain ⟨a, b⟩ := s
  obtain ⟨c, d⟩ := t
  have hopened : a.display ++ (", active=" ++ b.display ++ ')' :: u) =
      c.display ++ (", active=" ++ d.display ++ ')' :: v) := by
    unfold Selection.display at h
    simpa using h
  obtain ⟨rfl, hrest⟩ := Position.display_append_inj hopened
  have hactive : b.display ++ ')' :: u = d.display ++ ')' :: v := by simpa using hrest
  obtain ⟨rfl, hclosed⟩ := Position.display_append_inj hactive
  exact ⟨rfl, (List.cons.inj hclosed).2⟩

theorem Text.displayChar_ne_nil (quote c : Char) : Text.displayChar quote c ≠ [] := by
  unfold Text.displayChar
  split_ifs <;> simp

/-- A display form is longer than the text by its quotes at least. -/
theorem Text.length_le_length_display (t : Text) : t.length + 2 ≤ (Text.display t).length := by
  have hinner := length_le_length_flatMap (Text.displayChar_ne_nil (Text.displayQuote t)) t
  simp only [Text.display, List.length_cons, List.length_append, List.length_nil]
  omega

namespace Diff

theorem truncated_natCast {n : Nat} (hn : 3 ≤ n) (t : Text) :
    truncated n t = if n < t.length then t.take (n - 3) ++ "..." else t := by
  have hbound : (n : Int) - 3 = (n - 3 : Nat) := by omega
  simp only [truncated, hbound, Text.upTo_natCast, Int.ofNat_lt]

/-- A cut display form is not taken for a whole one, which ends with a bracket. -/
theorem truncated_eq_iff {n : Nat} (hn : 3 ≤ n) {t u : Text} (ht : t.getLast? = some ')') (hu : u.getLast? = some ')') :
    truncated n t = truncated n u ↔ t = u ∨ n < t.length ∧ n < u.length ∧ t.take (n - 3) = u.take (n - 3) := by
  have hdots : ∀ v w : Text, w.getLast? = some ')' → v ++ "..." ≠ w := by
    intro v w hw hsame
    have hlast : (v ++ "...".toList).getLast? = some '.' := by simp
    rw [hsame, hw] at hlast
    exact absurd hlast (by decide)
  rw [truncated_natCast hn, truncated_natCast hn]
  split_ifs with hlong hlong' hlong'
  · rw [List.append_cancel_right_eq]
    exact ⟨fun h => Or.inr ⟨hlong, hlong', h⟩, fun h => h.elim (fun h => by rw [h]) fun h => h.2.2⟩
  · refine iff_of_false (hdots _ u hu) ?_
    rintro (rfl | h)
    · exact hlong' hlong
    · exact hlong' h.2.1
  · refine iff_of_false (fun h => hdots _ t ht h.symm) ?_
    rintro (rfl | h)
    · exact hlong hlong'
    · exact hlong h.1
  · exact ⟨Or.inl, fun h => h.resolve_right fun h => hlong h.1⟩

end Diff

namespace DocState

/-! ## Selections -/

def displayRest (ss : List Selection) : Text := ss.flatMap fun s => ',' :: ' ' :: s.display

def displayClosing (ss : List Selection) : Text := if ss.isEmpty then [',', ')'] else [')']

theorem displaySelections_cons (s : Selection) (ss : List Selection) :
    displaySelections (s :: ss) = '(' :: (s.display ++ (displayRest ss ++ displayClosing ss)) := by
  have hjoin : Text.join [',', ' '] (s.display :: ss.map Selection.display) = s.display ++ displayRest ss := by
    rw [Text.join_cons, List.flatMap_map]
    rfl
  cases ss with
  | nil => simp [displaySelections, displayRest, displayClosing, Text.join]
  | cons t ss =>
    rw [List.map_cons] at hjoin
    simp [displaySelections, displayClosing, hjoin]

/-- No further selection begins where a display form closes. -/
theorem displayRest_cons_ne (t : Selection) (ss ts : List Selection) (v : Text) :
    displayRest (t :: ts) ++ v ≠ displayClosing ss := by
  unfold displayRest displayClosing
  split <;> simp

theorem displayRest_inj {ss ts ss' ts' : List Selection}
    (h : displayRest ss ++ displayClosing ss' = displayRest ts ++ displayClosing ts') : ss = ts := by
  induction ss generalizing ts with
  | nil =>
    cases ts with
    | nil => rfl
    | cons t ts => exact absurd h.symm (displayRest_cons_ne t ss' ts _)
  | cons s ss ih =>
    cases ts with
    | nil => exact absurd h (displayRest_cons_ne s ts' ss _)
    | cons t ts =>
      have hrest : s.display ++ (displayRest ss ++ displayClosing ss') =
          t.display ++ (displayRest ts ++ displayClosing ts') := by
        simpa [displayRest] using h
      obtain ⟨rfl, hbehind⟩ := Selection.display_append_inj hrest
      rw [ih hbehind]

/-- **The display form of selections says which they are.** -/
theorem displaySelections_injective {ss ts : List Selection} (h : displaySelections ss = displaySelections ts) :
    ss = ts := by
  have hempty : ∀ (s : Selection) (ss : List Selection), displaySelections (s :: ss) ≠ displaySelections [] := by
    intro s ss
    rw [displaySelections_cons]
    unfold Selection.display
    simp [displaySelections, Text.join]
  cases ss with
  | nil =>
    cases ts with
    | nil => rfl
    | cons t ts => exact absurd h.symm (hempty t ts)
  | cons s ss =>
    cases ts with
    | nil => exact absurd h (hempty s ss)
    | cons t ts =>
      rw [displaySelections_cons, displaySelections_cons] at h
      obtain ⟨rfl, hrest⟩ := Selection.display_append_inj (List.cons.inj h).2
      rw [displayRest_inj hrest]

/-! ## States -/

variable {s t : DocState}

/-- **States with one rendering have one text.** -/
theorem text_of_render (h : s.render = t.render) : s.text = t.text := by
  have htokens := congrArg Document.tokenize h
  rw [render, render, Document.tokenize_write, Document.tokenize_write] at htokens
  have htext := congrArg Document.characters htokens
  rwa [tokens, tokens, Document.characters_interleave, Document.characters_interleave] at htext

/-- **The display form of a state says which one it is**, among those of its text. -/
theorem eq_of_display (htext : s.text = t.text) (h : s.display = t.display) : s = t := by
  unfold display at h
  rw [htext] at h
  exact DocState.ext htext (displaySelections_injective (List.append_cancel_left (List.append_cancel_right h)))

theorem getLast?_display (s : DocState) : s.display.getLast? = some ')' := by
  have hclosing : ")".toList = [')'] := rfl
  unfold display
  rw [hclosing, List.getLast?_concat]

/-- what a mismatch message shows of a state whose rendering is the expected one -/
def shown (s : DocState) : Text := Diff.truncated Diff.fallbackLength s.display

/-- whether the display forms of two states are both cut, and do not differ before that -/
def IsCutAlike (s t : DocState) : Prop :=
  400 < s.display.length ∧ 400 < t.display.length ∧ s.display.take 397 = t.display.take 397

theorem shown_eq_iff : shown s = shown t ↔ s.display = t.display ∨ IsCutAlike s t :=
  Diff.truncated_eq_iff (n := 400) (by decide) (getLast?_display s) (getLast?_display t)

/-- A display form begins with the text, and at least the brackets of the selections stand behind it. -/
theorem exists_display_eq (s : DocState) :
    ∃ rest : Text, s.display = ("DocumentState(text=" ++ Text.display s.text) ++ rest ∧ 16 ≤ rest.length := by
  refine ⟨", selections=" ++ displaySelections s.selections ++ ")", ?_, ?_⟩
  · unfold display
    simp only [List.append_assoc]
  · have hselections : 2 ≤ (displaySelections s.selections).length := by
      unfold displaySelections
      split <;> simp
    have hmiddle : ", selections=".length = 13 := rfl
    have hclosing : ")".length = 1 := rfl
    simp only [List.length_append, String.length_toList]
    omega

/-- **Of a long text the selections are not shown.** -/
theorem isCutAlike_of_long (htext : s.text = t.text) (hlong : 376 ≤ s.text.length) : IsCutAlike s t := by
  obtain ⟨u, hs, hu⟩ := exists_display_eq s
  obtain ⟨v, ht, hv⟩ := exists_display_eq t
  rw [← htext] at ht
  have hcut : 397 ≤ ("DocumentState(text=" ++ Text.display s.text).length := by
    have hopening : "DocumentState(text=".length = 19 := rfl
    have hquoted := Text.length_le_length_display s.text
    rw [List.length_append, String.length_toList]
    omega
  generalize "DocumentState(text=" ++ Text.display s.text = opening at hs ht hcut
  have hlength : ∀ rest : Text, 16 ≤ rest.length → 400 < (opening ++ rest).length := by
    intro rest hrest
    rw [List.length_append]
    omega
  rw [IsCutAlike, hs, ht, List.take_append_of_le_length hcut, List.take_append_of_le_length hcut]
  exact ⟨hlength u hu, hlength v hv, rfl⟩

/-! ## Messages -/

theorem mismatch?_of_render (h : s ≠ t) (hrender : s.render = t.render) :
    s.mismatch? t = some ("document does not match expected state\n" ++
      ("Expected: " ++ s.shown ++ "\n  Actual: " ++ t.shown)) := by
  rw [mismatch?, if_neg h, diff, Diff.textDiff, hrender, Diff.unified_self]
  rfl

/-- **A mismatch message shows how the states differ, unless their display forms are cut before that.** Where the
renderings differ, a line of one of them is shown as removed or added. Where they are the same, the display forms stand
below each other, and what is shown of them is the same exactly if both are cut and do not differ up to there. -/
theorem mismatch_shows {expected actual : DocState} (h : expected ≠ actual) :
    (expected.render ≠ actual.render → ∃ body,
      expected.mismatch? actual = some ("document does not match expected state\n" ++
        Text.unlines ("--- expected".toList :: "+++ actual".toList :: body)) ∧
      ((∃ l ∈ Text.lines expected.render, '-' :: l ∈ body) ∨ ∃ l ∈ Text.lines actual.render, '+' :: l ∈ body)) ∧
    (expected.render = actual.render →
      expected.mismatch? actual = some ("document does not match expected state\n" ++
        ("Expected: " ++ expected.shown ++ "\n  Actual: " ++ actual.shown)) ∧
      (expected.shown = actual.shown ↔ IsCutAlike expected actual)) := by
  constructor
  · intro hrender
    have hlines : Text.lines expected.render ≠ Text.lines actual.render := fun hlines =>
      hrender (Text.lines_injective hlines)
    obtain ⟨body, hbody, hchanged⟩ := Diff.exists_changed_line "expected" "actual" hlines
    refine ⟨body, ?_, hchanged⟩
    rw [mismatch?, if_neg h, diff, Diff.textDiff, hbody]
    rfl
  · intro hrender
    refine ⟨mismatch?_of_render h hrender, ?_⟩
    rw [shown_eq_iff]
    exact or_iff_right fun hdisplay => h (eq_of_display (text_of_render hrender) hdisplay)

def caretBelow (t : Text) (character : Int) : DocState := make t [.caret ⟨9, character⟩]

/-- Carets in a text are seen in its rendering, and carets below a short text in what is shown of it. -/
theorem mismatch_shows_carets :
    (∃ body, (make ['a'] [.caret ⟨0, 0⟩]).mismatch? (make ['a'] [.caret ⟨0, 1⟩]) =
      some ("document does not match expected state\n" ++
        Text.unlines ("--- expected".toList :: "+++ actual".toList :: body)) ∧
      ((∃ l ∈ Text.lines (make ['a'] [.caret ⟨0, 0⟩]).render, '-' :: l ∈ body) ∨
        ∃ l ∈ Text.lines (make ['a'] [.caret ⟨0, 1⟩]).render, '+' :: l ∈ body)) ∧
    (caretBelow ['a'] 0).shown ≠ (caretBelow ['a'] 1).shown := by
  constructor
  · exact (mismatch_shows (by decide)).1 (by decide)
  · intro hshown
    have hne : caretBelow ['a'] 0 ≠ caretBelow ['a'] 1 := by decide
    have hcut := ((mismatch_shows hne).2 (by decide)).2.1 hshown
    exact absurd hcut.1 (by decide +kernel)

/-- a line that is long enough to leave no place for selections -/
def longLine : Text := List.replicate 400 'x'

/-- Carets below a long line differ, and a mismatch message shows the same of both. -/
theorem mismatch_hides_carets :
    caretBelow longLine 0 ≠ caretBelow longLine 1 ∧
      (caretBelow longLine 0).render = (caretBelow longLine 1).render ∧
      (caretBelow longLine 0).mismatch? (caretBelow longLine 1) =
        some ("document does not match expected state\n" ++
          ("Expected: " ++ (caretBelow longLine 0).shown ++ "\n  Actual: " ++ (caretBelow longLine 1).shown)) ∧
      (caretBelow longLine 0).shown = (caretBelow longLine 1).shown := by
  have hne : caretBelow longLine 0 ≠ caretBelow longLine 1 := by
    intro hsame
    have hselections := congrArg DocState.selections hsame
    exact absurd hselections (by decide)
  have hrender : (caretBelow longLine 0).render = (caretBelow longLine 1).render := by decide +kernel
  have hlong : 376 ≤ longLine.length := by
    rw [longLine, List.length_replicate]
    omega
  exact ⟨hne, hrender, mismatch?_of_render hne hrender, shown_eq_iff.2 (Or.inr (isCutAlike_of_long rfl hlong))⟩

end DocState

end CursorSpec
