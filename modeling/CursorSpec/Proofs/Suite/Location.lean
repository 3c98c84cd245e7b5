/-
Where problems of a spec are found.

A problem of a whole entry is found at its heading: a title that is taken, an entry that comes after nothing known, a
block with wrong markers. A problem of a line is found at that line, below the heading of its entry and before the fence
that opens the block: a flag that is none, behind `>`, and an operation that cannot be run, behind `-`.
`points_at_cause`: whatever compiling stops at, the title is that of the entry, and the line is where it was found.

Every entry that a source is cut into has its heading and its lines among those of the source
(`RawEntry.exists_isCutAt`), whether or not the source can be read in the end, because the first line that says
something wrong is reported before the headings are counted. From there each pass has its own lemma: reading
(`Spec.exists_of_read_eq_error`), resolving (`Spec.exists_of_resolve_eq_error`), and what comes behind them, whose
problems are at entries that were read (`Spec.exists_isCutAt_of_mem`).
-/
import CursorSpec.Proofs.Spec.Body
import CursorSpec.Proofs.Spec.Resolving
import CursorSpec.Proofs.Suite.Checking

namespace CursorSpec

/-! ## Entries and their headings -/

namespace Heading

def title (h : Heading) : Text := Line.titleOf (h.line.drop Line.headerStart.length)

/-- whether a line stands below a heading and before the next fence, which opens the block -/
def HasLine (h : Heading) (l : NumberedLine) : Prop :=
  ∃ front block rest, Fenced h.below front block rest ∧ l ∈ numberFrom (h.number + 1) front

end Heading

/-- whether an entry is cut out of the lines of a source, at one of their headings -/
structure RawEntry.IsCutAt (ls : List Text) (h : Heading) (e : RawEntry) : Prop where
  heading : h ∈ headings 1 ls
  cut : ∃ es, ReadingStage.entries? .prose (numberFrom 1 ls) = some es ∧ e ∈ es
  title : e.title = h.title
  line : e.line = h.number
  body : ∀ l ∈ e.body, h.HasLine l

/-- **An entry has a heading.** -/
theorem RawEntry.exists_isCutAt {ls : List Text} {es : List RawEntry}
    (h : ReadingStage.entries? .prose (numberFrom 1 ls) = some es) {e : RawEntry} (he : e ∈ es) :
    ∃ g, e.IsCutAt ls g := by
  obtain ⟨y, rfl, rfl⟩ := Layout.entries?_eq_some_iff.1 h
  obtain ⟨before, r, after, split, rfl⟩ := Section.exists_of_mem_entriesFrom he
  refine ⟨_, Layout.mem_headings_of_split split, ⟨_, h, he⟩, ?_, rfl, fun l hl => ?_⟩
  · rw [Heading.title, Section.header, List.drop_left]
    rfl
  · refine ⟨_, _, _, r.fenced_below (after.flatMap Section.lines), ?_⟩
    rw [numberFrom_append]
    exact List.mem_append_right _ hl

/-! ## Where a problem points -/

namespace Problem

/-- whether a problem names an entry and points at its heading -/
def IsAtHeading (ls : List Text) (p : Problem) : Prop :=
  ∃ h e, RawEntry.IsCutAt ls h e ∧ p.cause.title? = some h.title ∧ p.line = some (h.number : Int)

/-- whether a problem names an entry and points at a line of its body that begins with some character -/
def IsInBody (ls : List Text) (start : Char) (p : Problem) : Prop :=
  ∃ h e, RawEntry.IsCutAt ls h e ∧ p.cause.title? = some h.title ∧
    ∃ l, h.HasLine l ∧ p.line = some (l.number : Int) ∧ l.text.head? = some start

/-- whether a problem points at its cause among the lines of a source; of what was not understood at all, and of what
has no documented kind, nothing is asked -/
def PointsAtCause (ls : List Text) (p : Problem) : Prop :=
  match p.cause.kind with
  | .duplicateTitle | .unknownDependency | .marker => p.IsAtHeading ls
  | .unrecognizedFlag => p.IsInBody ls '>'
  | .invalidOperation => p.IsInBody ls '-'
  | .parse | .internal => True

end Problem

/-! ## Reading -/

namespace RawEntry

/-- whether reading stops at a line with a problem: it points there, and the line begins as its kind has it -/
structure StopsAt (l : NumberedLine) (p : Problem) : Prop where
  line : p.line = some (l.number : Int)
  flag : p.cause.kind = .unrecognizedFlag → l.text.head? = some '>'
  operation : p.cause.kind = .invalidOperation → l.text.head? = some '-'

variable {l : NumberedLine} {p : Problem}

/-- A problem of an operation is at its line, which begins with a hyphen. -/
theorem stopsAt_of_operationsOf {title : Text} (h : operationsOf title l = .error p) : StopsAt l p := by
  unfold operationsOf at h
  cases hop : Line.operation? l.text with
  | none =>
    rw [hop] at h
    cases h
  | some r =>
    obtain ⟨command, args⟩ := r
    rw [hop] at h
    obtain ⟨rest, ⟨⟨n, tail, hline, -⟩, -⟩, -⟩ := Line.operation?_eq_some_iff.1 hop
    have hhead : l.text.head? = some '-' := by rw [hline]; rfl
    rcases bind_eq_error_iff.1 h with h | ⟨o, -, h⟩
    · split at h
      · obtain ⟨cause, rfl, -, hkind⟩ := exists_of_readTyping h
        exact ⟨rfl, fun hflag => (nomatch hkind.symm.trans hflag), fun _ => hhead⟩
      · unfold readCommand at h
        split at h
        · cases h
          exact ⟨rfl, nofun, fun _ => hhead⟩
        · split at h
          · cases h
          · cases h
            exact ⟨rfl, nofun, fun _ => hhead⟩
    · cases h

theorem stopsAt_of_readFlags {title : Text} {ls : List NumberedLine} (h : readFlags title ls = .error p) :
    ∃ l ∈ ls, StopsAt l p := by
  obtain ⟨l, hl, t, ht, rfl⟩ := exists_of_readFlags h
  obtain ⟨rest, -, hline, -⟩ := Line.flag?_eq_some_iff.1 ht
  exact ⟨l, hl, rfl, fun _ => by rw [hline]; rfl, nofun⟩

theorem stopsAt_of_readOperations {title : Text} {ls : List NumberedLine} (h : readOperations title ls = .error p) :
    ∃ l ∈ ls, StopsAt l p := by
  rw [readOperations_eq, map_eq_error_iff] at h
  obtain ⟨before, l, after, rfl, -, hl⟩ := mapM_eq_error_iff.1 h
  exact ⟨l, List.mem_append_right _ List.mem_cons_self, stopsAt_of_operationsOf hl⟩

/-- What sets out to type something begins with a hyphen. -/
theorem stopsAt_of_isUnreadableTyping {title : Text} (h : isUnreadableTyping l = true) :
    StopsAt l (problemAt l (.unreadableTyping (Text.strip l.text) title)) := by
  rw [isUnreadableTyping, Bool.and_eq_true, Line.looksLikeTyping_iff] at h
  obtain ⟨⟨n, u, hline⟩, -⟩ := h
  refine ⟨rfl, fun hkind => (by cases hkind), ?_⟩
  intro _
  rw [hline]
  rfl

/-- **Reading an entry stops at a line of its body**, which begins as the kind of the problem has it. -/
theorem stopsAt_of_read {e : RawEntry} (h : e.read = .error p) : ∃ l ∈ e.body, StopsAt l p := by
  rcases bind_eq_error_iff.1 h with h | ⟨flags, -, h⟩
  · exact stopsAt_of_readFlags h
  · cases hafter : e.comesAfter with
    | none => rw [hafter] at h; cases h
    | some target =>
      simp only [hafter] at h
      split at h
      · next l hl =>
        cases h
        exact ⟨l, List.mem_of_find?_eq_some hl, stopsAt_of_isUnreadableTyping (List.find?_some hl)⟩
      · rcases bind_eq_error_iff.1 h with h | ⟨os, -, h⟩
        · exact stopsAt_of_readOperations h
        · cases h

theorem IsCutAt.pointsAtCause_of_read {ls : List Text} {g : Heading} {e : RawEntry} (hcut : e.IsCutAt ls g)
    (h : e.read = .error p) : p.PointsAtCause ls := by
  have htitle : p.cause.title? = some g.title := (problem_of_read h).title.trans (congrArg some hcut.title)
  obtain ⟨l, hl, stops⟩ := stopsAt_of_read h
  unfold Problem.PointsAtCause
  rcases (problem_of_read h).kind with hkind | hkind | hkind
  · rw [hkind]
    exact ⟨g, e, hcut, htitle, l, hcut.body l hl, stops.line, stops.flag hkind⟩
  · rw [hkind]
    exact ⟨g, e, hcut, htitle, l, hcut.body l hl, stops.line, stops.operation hkind⟩
  · rw [hkind]
    trivial

end RawEntry

namespace Spec

variable {t : Text} {s : Spec} {p : Problem}

/-- Reading fails for its structure, or at one of the entries that the source is cut into. -/
theorem exists_of_read_eq_error (h : read t = .error p) :
    p.cause.kind = .parse ∨ ∃ g e, RawEntry.IsCutAt (sourceLines t) g e ∧ e.read = .error p := by
  unfold read at h
  dsimp only at h
  rw [entries?_numberedLines] at h
  split at h
  · cases h
    exact Or.inl rfl
  · next es hes =>
    rcases bind_eq_error_iff.1 h with h | ⟨xs, -, h⟩
    · obtain ⟨before, e, after, rfl, -, he⟩ := mapM_eq_error_iff.1 h
      obtain ⟨g, hg⟩ := RawEntry.exists_isCutAt hes (List.mem_append_right before List.mem_cons_self)
      exact Or.inr ⟨g, e, hg, he⟩
    · split at h
      · cases h
      · cases h
        exact Or.inl rfl

theorem pointsAtCause_of_read (h : read t = .error p) : p.PointsAtCause (sourceLines t) := by
  rcases exists_of_read_eq_error h with hkind | ⟨g, e, hcut, he⟩
  · rw [Problem.PointsAtCause, hkind]
    trivial
  · exact hcut.pointsAtCause_of_read he

/-- **What is declared was cut out of the source and read.** -/
theorem exists_isCutAt_of_mem (h : read t = .ok s) {x : Entry} (hx : x ∈ s.declarations) :
    ∃ g e, RawEntry.IsCutAt (sourceLines t) g e ∧ e.read = .ok x := by
  obtain ⟨es, xs, hes, hxs, -, rfl⟩ := read_eq_ok_iff_entries.1 h
  obtain ⟨e, he, hread⟩ := exists_of_mem_forall₂ (forall₂_of_mapM hxs) ((ofEntries_perm xs _).mem_iff.1 hx)
  obtain ⟨g, hg⟩ := RawEntry.exists_isCutAt hes he
  exact ⟨g, e, hg, hread⟩

/-! ## Resolving and what comes behind it -/

/-- A problem with the title and the line of an entry that was read is at its heading. -/
theorem isAtHeading_of_mem (h : read t = .ok s) {x : Entry} (hx : x ∈ s.declarations)
    (title : p.cause.title? = some x.title) (line : p.line = x.line) : p.IsAtHeading (sourceLines t) := by
  obtain ⟨g, e, hcut, hread⟩ := exists_isCutAt_of_mem h hx
  have hkeeps := RawEntry.keeps_of_read hread
  refine ⟨g, e, hcut, ?_, ?_⟩
  · rw [title, hkeeps.title, hcut.title]
  · rw [line, hkeeps.line, hcut.line]

/-- Resolving fails at an entry that does not fit behind those before it. -/
theorem exists_of_resolve_eq_error (h : s.resolve = .error p) : ∃ x ∈ s.declarations, ∃ known, p.Refuses known x := by
  rcases Entry.allFit_or_exists [] s.declarations with fit | ⟨before, x, after, hsplit, fit, misfit⟩
  · obtain ⟨r, hr⟩ := resolves_iff_allFit.2 fit
    cases hr.symm.trans h
  · obtain ⟨q, hq, refuses⟩ := resolve_stops hsplit fit misfit
    obtain rfl : q = p := Except.error.inj (hq.symm.trans h)
    refine ⟨x, ?_, _, refuses⟩
    rw [hsplit]
    exact List.mem_append_right _ List.mem_cons_self

theorem pointsAtCause_of_resolve (hread : read t = .ok s) (h : s.resolve = .error p) :
    p.PointsAtCause (sourceLines t) := by
  obtain ⟨x, hx, known, refuses⟩ := exists_of_resolve_eq_error h
  have hplace := isAtHeading_of_mem hread hx refuses.title refuses.line
  unfold Problem.PointsAtCause
  by_cases linked : x.IsLinked known
  · rw [refuses.duplicate_iff.2 linked]
    exact hplace
  · rw [refuses.unknown_iff.2 linked]
    exact hplace

/-- What is hidden in a spec that resolves is a block or an operation, and the problem points at it. -/
theorem pointsAtCause_of_hides (hread : read t = .ok s) (h : s.resolved.Hides p) :
    p.PointsAtCause (sourceLines t) := by
  cases h with
  | markers mem wrong => exact isAtHeading_of_mem hread mem rfl rfl
  | @typing tr o mem first types =>
    have hmem : Entry.transition tr ∈ s.declarations := List.mem_append_right _ (List.mem_map_of_mem mem)
    obtain ⟨g, e, hcut, he⟩ := exists_isCutAt_of_mem hread hmem
    obtain ⟨target, flags, operations, -, -, -, hoperations, rfl⟩ := RawEntry.read_eq_transition_iff.1 he
    -- the operation is what one of the lines says
    obtain ⟨l, hl, said⟩ :=
      exists_of_mem_forall₂ (RawEntry.forall₂_of_readOperations hoperations) (List.mem_of_head? first)
    obtain ⟨rest, ⟨⟨n, tail, hline, -⟩, -⟩, -⟩ := said.reads
    have hbody := hcut.body l (List.mem_of_mem_filter hl)
    exact ⟨g, e, hcut, congrArg some hcut.title, l, hbody, said.line, by rw [hline]; rfl⟩

end Spec

/-! ## Compiling -/

namespace Suite

/-- **Problems point at their cause.** If compiling stops at a title that is taken, at an entry that comes after nothing
known or at wrong markers, then the problem has the title of an entry of the source and the line of its heading. If it
stops at a flag or an operation, then the problem has the title of an entry and the line of the flag or the operation,
which is below the heading and before the fence that opens the block. -/
theorem points_at_cause {settings : Settings} {name text : Text} {p : Problem}
    (h : compile settings name text = .error p) : p.PointsAtCause (Spec.sourceLines text) := by
  rcases bind_eq_error_iff.1 h with h | ⟨s, hread, h⟩
  · exact Spec.pointsAtCause_of_read h
  · rcases bind_eq_error_iff.1 h with h | ⟨r, hresolve, h⟩
    · exact Spec.pointsAtCause_of_resolve hread h
    · obtain ⟨-, rfl⟩ := Spec.resolve_eq_ok_iff.1 hresolve
      exact Spec.pointsAtCause_of_hides hread (hides_of_ofResolved_eq_error h)

/-- an initial state over several lines and a transition from it with some lines in its body, behind line feeds of both
kinds and a fence in prose -/
def faultyText (title : Text) (body : List Text) : Text :=
  let first : List Text := ["notes\r", Line.fence, "# A\r", Line.fence, "one", "|", Line.fence ++ ['\r']]
  let second : List Text := ["# " ++ title ++ ['\r'], "[up](#A)"] ++ body ++ [Line.fence, "|", Line.fence]
  Text.unlines (first ++ second)

/-- The title that is taken is at its heading, and what is wrong below it is at its own line. -/
theorem points_at_cause_faulty :
    (⟨.duplicateTest "A", some 8⟩ : Problem).IsAtHeading (Spec.sourceLines (faultyText "A" [])) ∧
      (⟨.unrecognizedFlag "x" "B-C", some 11⟩ : Problem).IsInBody
        (Spec.sourceLines (faultyText "B C" ["- move\r", "> x\r"])) '>' ∧
      (⟨.nothingToJoin "type:x" "B-C", some 10⟩ : Problem).IsInBody
        (Spec.sourceLines (faultyText "B C" ["-type:x\r", "- move\r"])) '-' := by
  have htaken : compile .default "s" (faultyText "A" []) = .error ⟨.duplicateTest "A", some 8⟩ := by decide +kernel
  have hflag : compile .default "s" (faultyText "B C" ["- move\r", "> x\r"]) =
      .error ⟨.unrecognizedFlag "x" "B-C", some 11⟩ := by decide +kernel
  have htyping : compile .default "s" (faultyText "B C" ["-type:x\r", "- move\r"]) =
      .error ⟨.nothingToJoin "type:x" "B-C", some 10⟩ := by decide +kernel
  exact ⟨points_at_cause htaken, points_at_cause hflag, points_at_cause htyping⟩

end Suite

end CursorSpec
