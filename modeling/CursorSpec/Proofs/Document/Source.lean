/-
The expression that rebuilds a state does rebuild it.

Read from the left, the expression is one call that ends at its last bracket, whatever text follows, and what it builds
is the state (`read?_source`). The lines of the expression are gaps and arguments (`source_eq`): the text, as one
literal or as a literal for each line in brackets, and the selections, if there are any, as a tuple. Nothing in the
expression depends on where lines end, since all of them end inside its brackets, and a text keeps its line ends because
each piece of it carries its own (`Text.flatten_pieces`).
-/
import CursorSpec.Document.Source
import CursorSpec.Proofs.Document.RoundTrip
import CursorSpec.Proofs.Expr.Construction

namespace CursorSpec

open Expr.Construction

namespace Text

/-! ## Pieces of a text -/

theorem flatten_pieces_of_lines {ls : List Text} (h : ls ≠ []) :
    (ls.dropLast.map (· ++ ['\n'])).flatten ++ ((ls.drop (ls.length - 1)).filter (! ·.isEmpty)).flatten =
      unlines ls := by
  induction ls with
  | nil => exact absurd rfl h
  | cons l ls ih =>
    cases ls with
    | nil => cases l <;> simp [unlines, join]
    | cons m ls =>
      have hrest := ih (List.cons_ne_nil m ls)
      have hdrop : (l :: m :: ls).drop ((l :: m :: ls).length - 1) = (m :: ls).drop ((m :: ls).length - 1) := rfl
      rw [hdrop, List.dropLast_cons_cons, List.map_cons, List.flatten_cons, List.append_assoc, hrest, unlines, unlines,
        join_cons_cons]

/-- **The pieces of a text are the text.** -/
theorem flatten_pieces (t : Text) : (pieces t).flatten = t := by
  rw [pieces, List.flatten_append]
  exact (flatten_pieces_of_lines (lines_ne_nil t)).trans (unlines_lines t)

theorem ne_nil_of_mem_pieces {t p : Text} (h : p ∈ pieces t) : p ≠ [] := by
  rw [pieces, List.mem_append, List.mem_map, List.mem_filter] at h
  rcases h with ⟨l, -, rfl⟩ | ⟨-, hp⟩
  · simp
  · rintro rfl
    exact absurd hp (by decide)

theorem pieces_ne_nil {t : Text} (h : t ≠ []) : pieces t ≠ [] := by
  intro hnone
  have hflat := flatten_pieces t
  rw [hnone] at hflat
  exact h hflat.symm

end Text

/-! ## Selections -/

namespace Selection

def integersText (k : Int) (ks : List Int) : Text := Text.ofInt k ++ ks.flatMap fun j => ',' :: ' ' :: Text.ofInt j

theorem isRow_integersText {g : Text} (hg : ∀ c ∈ g, isGap true c = true) (k : Int) (ks : List Int) :
    IsRow (g ++ integersText k ks) ((k :: ks).map fun j => ⟨none, .int j⟩) := by
  induction ks generalizing g k with
  | nil =>
    rw [integersText, List.flatMap_nil, List.append_nil]
    exact .last hg (readsArgument_ofInt k)
  | cons j ks ih => exact .cons hg (readsArgument_ofInt k) (ih (g := [' ']) (List.forall_mem_singleton.2 rfl) j)

/-- **The expression of a selection builds the selection.** -/
theorem exists_callText (x : Selection) :
    ∃ ws t as, x.source = callText "Selection".toList ws t ∧ (∀ w ∈ ws, IsWord w) ∧ IsRow t as ∧
      Built.call? ("Selection".toList :: ws) as = some (.selection x) := by
  have hrow := isRow_integersText (g := []) nofun
  obtain ⟨⟨l, c⟩, ⟨m, d⟩⟩ := x
  by_cases h : isCaret ⟨⟨l, c⟩, ⟨m, d⟩⟩ = true
  · have hsame : (⟨l, c⟩ : Position) = ⟨m, d⟩ := of_decide_eq_true h
    refine ⟨["caret".toList], integersText m [d], _, ?_, by decide, hrow m [d], ?_⟩
    · rw [source, if_pos h, Position.arguments, integersText, callText]
      simp
    · rw [hsame]
      rfl
  · refine ⟨["span".toList], integersText l [c, m, d], _, ?_, by decide, hrow l [c, m, d], rfl⟩
    rw [source, if_neg h, Position.arguments, Position.arguments, integersText, callText]
    simp

theorem notMem_ofInt (k : Int) : '\r' ∉ Text.ofInt k := by
  have hdigits : ∀ n, '\r' ∉ Text.ofNat n := fun n h => absurd (isDigit_of_mem_ofNat h) (by decide)
  cases k with
  | ofNat n => exact hdigits n
  | negSucc n =>
    rw [Text.ofInt, List.mem_cons]
    exact not_or.2 ⟨by decide, hdigits _⟩

theorem notMem_source (x : Selection) : '\r' ∉ x.source := by
  rw [source, Position.arguments, Position.arguments]
  split <;> simp [notMem_ofInt]

theorem isWord_selection : IsWord "Selection".toList := by decide

theorem starts_source (x : Selection) : Starts x.source := by
  obtain ⟨ws, t, as, hsource, -⟩ := x.exists_callText
  rw [hsource]
  exact isWord_selection.starts _

theorem reads_source (x : Selection) : Reads x.source (.selection x) := by
  obtain ⟨ws, t, as, hsource, hws, hrow, hcall⟩ := x.exists_callText
  rw [hsource]
  exact fun n c rest hn _ => expression_call isWord_selection hws hrow hcall true hn (c :: rest)

theorem readsArgument_source (x : Selection) : ReadsArgument x.source ⟨none, .selection x⟩ := by
  obtain ⟨ws, t, as, hsource, hws, hrow, hcall⟩ := x.exists_callText
  rw [hsource]
  exact readsArgument_call isWord_selection hws hrow hcall

end Selection

namespace DocState

/-! ## The layout -/

/-- a line end and the blanks of the next line -/
def gap (n : Int) : Text := '\n' :: Text.spaces n.toNat

theorem isGap_gap (n : Int) : ∀ c ∈ gap n, isGap true c = true := by
  intro c h
  rcases List.mem_cons.1 h with rfl | h
  · rfl
  · rw [List.eq_of_mem_replicate h]
    rfl

/-- the expression of the text: a literal, or literals on lines of their own in brackets -/
def textSource (t : Text) (indent : Int) : Text :=
  if t.contains '\n' then
    '(' :: (((Text.pieces t).flatMap fun p => gap (indent + 4) ++ Text.spaces 4 ++ Text.quote p) ++
      (gap (indent + 4) ++ [')']))
  else Text.quote t

/-- the expression of the selections: a tuple with each selection on a line of its own -/
def selectionsSource (xs : List Selection) (indent : Int) : Text :=
  '(' :: (((xs.flatMap fun x => gap (indent + 4) ++ Text.spaces 4 ++ (x.source ++ [','])) ++ gap (indent + 4)) ++ [')'])

def argumentsSource (s : DocState) (indent : Int) : Text :=
  gap (indent + 4) ++ ("text".toList ++ '=' :: textSource s.text indent ++ ',' ::
    (if s.selections.isEmpty then gap indent
    else gap (indent + 4) ++ ("selections".toList ++ '=' :: selectionsSource s.selections indent ++ ',' :: gap indent)))

/-- **The expression of a state is a call**, with the text and the selections for its arguments. -/
theorem source_eq (s : DocState) (indent : Int) :
    s.source indent = callText "DocumentState".toList [] (s.argumentsSource indent) := by
  rw [source, sourceLines, argumentsSource, textSource, selectionsSource, callText]
  simp only [List.cons_append, List.nil_append, Text.unlines_cons]
  split <;> split <;> simp [List.flatMap_map, gap]

/-! ## Reading it -/

theorem isGap_indented (n : Int) : ∀ c ∈ gap n ++ Text.spaces 4, isGap true c = true := by
  intro c h
  rcases List.mem_append.1 h with h | h
  · exact isGap_gap n c h
  · rw [List.eq_of_mem_replicate h]
    rfl

theorem starts_textSource (t : Text) (indent : Int) : Starts (textSource t indent) := by
  unfold textSource
  split
  · exact ⟨'(', _, rfl, by decide, rfl⟩
  · exact ⟨'\"', _, rfl, by decide, rfl⟩

theorem reads_textSource (t : Text) (indent : Int) : Reads (textSource t indent) (.text t) := by
  unfold textSource
  split
  · next h =>
    have hne : t ≠ [] := by
      rintro rfl
      exact absurd h (by decide)
    have hreads := reads_quotes (isGap_indented (indent + 4)) (isGap_gap (indent + 4))
      (fun _ hp => Text.ne_nil_of_mem_pieces hp) (Text.pieces_ne_nil hne)
    rw [Text.flatten_pieces] at hreads
    exact hreads
  · exact reads_quote t

theorem mapM_unnamed_selections (xs : List Selection) :
    (xs.map fun x => (⟨none, .selection x⟩ : Built.Argument)).mapM Built.Argument.unnamed? =
      some (xs.map .selection) := by
  induction xs with
  | nil => rfl
  | cons x xs ih =>
    rw [List.map_cons, List.mapM_cons, ih]
    rfl

theorem mapM_selection? (xs : List Selection) : (xs.map Built.selection).mapM Built.selection? = some xs := by
  induction xs with
  | nil => rfl
  | cons x xs ih =>
    rw [List.map_cons, List.mapM_cons, ih]
    rfl

theorem reads_selectionsSource {xs : List Selection} (h : xs ≠ []) (indent : Int) :
    Reads (selectionsSource xs indent) (.tuple (xs.map .selection)) := by
  obtain ⟨x, xs, rfl⟩ := List.exists_cons_of_ne_nil h
  have hrow := isRow_flatMap Selection.readsArgument_source (isGap_indented (indent + 4)) (isGap_gap (indent + 4)) xs
  have hreads := reads_tuple (isGap_indented (indent + 4)) x.starts_source x.reads_source hrow
    (mapM_unnamed_selections xs)
  rw [selectionsSource, List.flatMap_cons, List.map_cons]
  simpa only [List.append_assoc, List.cons_append, List.nil_append] using hreads

/-- **The arguments of the expression build the state.** -/
theorem exists_isRow_argumentsSource (s : DocState) (indent : Int) :
    ∃ as, IsRow (s.argumentsSource indent) as ∧ Built.call? ["DocumentState".toList] as = some (.state s) := by
  have htext : ReadsArgument ("text".toList ++ '=' :: textSource s.text indent) ⟨some "text".toList, .text s.text⟩ :=
    readsArgument_named (by decide) (starts_textSource s.text indent) (reads_textSource s.text indent)
  unfold argumentsSource
  split
  · next hnone =>
    have hself : make s.text [] = s := by
      rw [← List.isEmpty_iff.1 hnone]
      exact s.make_selections_self
    refine ⟨_, .cons (isGap_gap _) htext (.nil (isGap_gap _)), ?_⟩
    exact congrArg (fun s => some (Built.state s)) hself
  · next hsome =>
    have hselections : ReadsArgument ("selections".toList ++ '=' :: selectionsSource s.selections indent)
        ⟨some "selections".toList, .tuple (s.selections.map .selection)⟩ :=
      readsArgument_named (by decide) ⟨'(', _, rfl, by decide, rfl⟩
        (reads_selectionsSource (fun h => hsome (List.isEmpty_iff.2 h)) indent)
    refine ⟨_, .cons (isGap_gap _) htext (.cons (isGap_gap _) hselections (.nil (isGap_gap _))), ?_⟩
    have hcall : Built.call? ["DocumentState".toList] [⟨some "text".toList, .text s.text⟩,
        ⟨some "selections".toList, .tuple (s.selections.map .selection)⟩] =
          ((s.selections.map Built.selection).mapM Built.selection?).map fun ss => .state (make s.text ss) := rfl
    rw [hcall, mapM_selection?, Option.map_some, make_selections_self]

/-- There is no line end in the expression but line feeds. -/
theorem notMem_source (s : DocState) (indent : Int) : '\r' ∉ s.source indent := by
  have hgap : ∀ n, '\r' ∉ gap n := fun n h => absurd (isGap_gap n _ h) (by decide)
  have hspaces : '\r' ∉ Text.spaces 4 := by decide
  have hquote : ∀ t, '\r' ∉ Text.quote t := fun t h => (Text.ne_of_mem_quote h).2 rfl
  rw [source_eq, callText, argumentsSource, textSource, selectionsSource]
  split <;> split <;> simp [hgap, hspaces, hquote, Selection.notMem_source]

/-- **The expression that rebuilds a state** is one expression, which ends at its last bracket, whatever text follows,
and what it builds is the state. -/
theorem read?_source (s : DocState) (indent : Int) (rest : Text) :
    read? (s.source indent ++ rest) = some (.state s, Text.lineFeeds rest) := by
  obtain ⟨as, hrow, hcall⟩ := s.exists_isRow_argumentsSource indent
  have henough : (s.source indent).length < 3 * ((s.source indent ++ rest).length + 1) := by
    rw [List.length_append]
    omega
  rw [read?, Text.lineFeeds_append (s.notMem_source indent)]
  rw [source_eq] at henough ⊢
  exact expression_call (by decide) (fun w hw => by cases hw) hrow hcall false henough _

end DocState

end CursorSpec
