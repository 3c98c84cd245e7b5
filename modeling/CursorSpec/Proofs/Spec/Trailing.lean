/-
Spaces at the end of operation lines.

Spaces behind an operation line change nothing, but for one case: a line that is a bare command, with one space behind
it, is no operation line any more, because a space must have something behind it (`operation?_append_space`). With two
spaces the second is a rest, which is blank and spells no arguments (`operation?_append_spaces`).

What a body line says is read of that line alone (`RawEntry.exists_of_line`), and an entry with another line in its body
leaves what is read of all others (`Spec.read_of_line`). So `kept_unless_one_space`: the spec is as it was, or has lost
the operation of the line and nothing else. There is a text for any lines (`exists_sourceLines_eq`), so every line can
be given spaces (`exists_isSpaced`).
-/
import CursorSpec.Proofs.Spec.Body

namespace CursorSpec

/-! ## Lines with spaces behind them -/

namespace Line

variable {l token tail : Text} {rest : Option Text}

theorem Ends.append_spaces (h : Ends tail) (n : Nat) : Ends (tail ++ List.replicate n ' ') := by
  cases tail with
  | nil => exact fun c hc => List.eq_of_mem_replicate (List.mem_of_mem_head? hc)
  | cons c tail => exact h

/-- More spaces behind what follows a token spell no other arguments, unless one space is all there is. -/
theorem Follows.append_spaces (h : Follows tail rest) {n : Nat} (hn : ¬ (rest = none ∧ n = 1)) :
    ∃ rest', Follows (tail ++ List.replicate n ' ') rest' ∧ argumentsOf rest' = argumentsOf rest := by
  cases h with
  | nothing =>
    match n, hn with
    | 0, _ => exact ⟨none, .nothing, rfl⟩
    | 1, hn => exact absurd ⟨rfl, rfl⟩ hn
    | m + 2, _ =>
      refine ⟨some [' '], ?_, by decide⟩
      rw [List.nil_append, List.replicate_succ']
      exact .rest m (List.cons_ne_nil ' ' [])
  | @rest m r hr =>
    refine ⟨some (r ++ List.replicate n ' '), ?_, ?_⟩
    · rw [List.append_assoc]
      exact .rest m fun hnil => hr (List.append_eq_nil_iff.1 hnil).1
    · rw [argumentsOf, argumentsOf, Option.map_some, Option.map_some, Text.strip_append_replicate]

/-- **Spaces behind an operation line leave what it is read as**, unless it is a bare command and they are one. -/
theorem operation?_append_spaces (h : IsOperation l token rest) {n : Nat} (hn : ¬ (rest = none ∧ n = 1)) :
    operation? (l ++ List.replicate n ' ') = operation? l := by
  rw [operation?_eq_some_iff.2 ⟨rest, h, rfl⟩]
  obtain ⟨⟨m, tail, rfl, hrest⟩, htoken⟩ := h
  obtain ⟨rest', hrest', hargs⟩ := hrest.append_spaces hn
  refine operation?_eq_some_iff.2 ⟨rest', ⟨⟨m, _, ?_, hrest'⟩, htoken⟩, hargs⟩
  simp only [List.cons_append, List.append_assoc]

/-- **A bare command with one space behind it is no operation.** -/
theorem operation?_append_space (h : IsOperation l token none) : operation? (l ++ [' ']) = none := by
  rw [Option.eq_none_iff_forall_ne_some]
  rintro ⟨token', args⟩ hread
  obtain ⟨⟨m, tail, rfl, hrest⟩, htoken⟩ := h
  cases hrest
  obtain ⟨rest', ⟨⟨m', tail', hline, hrest'⟩, htoken'⟩, -⟩ := operation?_eq_some_iff.1 hread
  have hshape : '-' :: (List.replicate m ' ' ++ (token ++ [])) ++ [' '] =
      '-' :: (List.replicate m ' ' ++ (token ++ [' '])) := by
    simp only [List.cons_append, List.append_assoc, List.append_nil]
  have hafter := (afterHyphen?_eq_some_iff.2 ⟨m, hshape, head?_token htoken⟩).symm.trans
    (afterHyphen?_eq_some_iff.2 ⟨m', hline, head?_token htoken'⟩)
  have hsame := Option.some.inj hafter
  have ends : Ends [' '] := fun c hc => (Option.some.inj hc).symm
  rw [token_eq htoken htoken' ends hrest'.ends hsame] at hsame
  -- the space would have a rest behind it
  obtain rfl := List.append_cancel_left hsame
  generalize hspace : [' '] = tail at hrest'
  cases hrest' with
  | nothing => cases hspace
  | rest k hr =>
    have hlength := congrArg List.length hspace
    have hpos := List.length_pos_of_ne_nil hr
    simp only [List.length_append, List.length_replicate, List.length_singleton] at hlength
    omega

/-- What begins with a hyphen is no flag line, no fence and no header. -/
theorem plain_of_hyphen (u : Text) :
    flag? ('-' :: u) = none ∧ isFence ('-' :: u) = false ∧ looksLikeHeader ('-' :: u) = false := by
  refine ⟨rfl, ?_, rfl⟩
  rw [Bool.eq_false_iff, Ne, isFence_iff]
  exact nofun

/-- Spaces behind a line that runs a command do not make it one that sets out to type. -/
theorem looksLikeTyping_append_spaces (h : IsOperation l token rest) (runs : ¬ typingStart <+: token) (n : Nat) :
    looksLikeTyping (l ++ List.replicate n ' ') = false := by
  rw [Bool.eq_false_iff, Ne, looksLikeTyping_iff]
  intro typing
  obtain ⟨⟨m, tail, rfl, hrest⟩, htoken⟩ := h
  rw [List.cons_append, List.append_assoc, List.append_assoc] at typing
  exact runs (beginsTyping_token typing htoken (hrest.ends.append_spaces n))

end Line

/-! ## One line of a body -/

namespace RawEntry

variable {title : Text} {l l' : NumberedLine} {front back : List NumberedLine}

/-- A line that is no flag line can be left out when flags are read. -/
theorem readFlags_of_no_flag (h : Line.flag? l.text = none) (front : List NumberedLine) :
    readFlags title (front ++ l :: back) = readFlags title (front ++ back) := by
  induction front with
  | nil =>
    rw [List.nil_append, readFlags, h]
    rfl
  | cons m front ih => rw [List.cons_append, readFlags, ih, List.cons_append, readFlags]

/-- What is read of a body line stands between what is read of the lines before it and of those behind it. -/
theorem readOperations_eq_ok_iff {all : List Operation} : readOperations title (front ++ l :: back) = .ok all ↔
    ∃ os x os', readOperations title front = .ok os ∧ operationsOf title l = .ok x ∧
      readOperations title back = .ok os' ∧ all = os ++ (x ++ os') := by
  simp only [readOperations_eq, map_eq_ok_iff]
  constructor
  · rintro ⟨xss, hxss, rfl⟩
    obtain ⟨oss, yss, hoss, hyss, rfl⟩ := mapM_append_eq_ok_iff.1 hxss
    obtain ⟨x, oss', hx, hoss', rfl⟩ := mapM_cons_eq_ok_iff.1 hyss
    exact ⟨_, x, _, ⟨oss, hoss, rfl⟩, hx, ⟨oss', hoss', rfl⟩, List.flatten_append⟩
  · rintro ⟨_, x, _, ⟨oss, hoss, rfl⟩, hx, ⟨oss', hoss', rfl⟩, rfl⟩
    have hrest := mapM_cons_eq_ok_iff.2 ⟨x, oss', hx, hoss', rfl⟩
    exact ⟨_, mapM_append_eq_ok_iff.2 ⟨oss, _, hoss, hrest, rfl⟩, List.flatten_append⟩

/-- Lines of one number that are split in one way are read in one way. -/
theorem operationsOf_congr (number : l'.number = l.number) (same : Line.operation? l'.text = Line.operation? l.text) :
    operationsOf title l' = operationsOf title l := by
  obtain ⟨n, u⟩ := l
  obtain ⟨n', u'⟩ := l'
  cases number
  unfold operationsOf
  rw [same]
  cases Line.operation? u with
  | none => rfl
  | some r =>
    dsimp only
    split <;> rfl

/-- **The operation of a line is read again behind spaces**, or lost. -/
theorem operationsOf_append_spaces {command : Text} {rest : Option Text} {o : Operation}
    (h : operationsOf title l = .ok [o]) (hline : Line.IsOperation l.text command rest) (n : Nat) :
    operationsOf title ⟨l.number, l.text ++ List.replicate n ' '⟩ = .ok (if rest = none ∧ n = 1 then [] else [o]) := by
  split
  · next hn =>
    obtain ⟨rfl, rfl⟩ := hn
    rw [operationsOf, List.replicate_one, Line.operation?_append_space hline]
  · next hn =>
    rw [← h]
    exact operationsOf_congr rfl (Line.operation?_append_spaces hline hn)

/-- Behind spaces a line that runs a command does not set out to type. -/
theorem isUnreadableTyping_append_spaces {command : Text} {rest : Option Text}
    (hline : Line.IsOperation l.text command rest) (runs : ¬ Line.typingStart <+: command) (n : Nat) :
    isUnreadableTyping ⟨l.number, l.text ++ List.replicate n ' '⟩ = false := by
  rw [isUnreadableTyping, Line.looksLikeTyping_append_spaces hline runs n, Bool.false_and]

/-- **What is read of an operation line is the one thing that changes with it**, as long as it does not become a flag
line or set out to type. -/
theorem exists_of_line {e : RawEntry} {tr : Transition} (h : e.read = .ok (.transition tr))
    (hbody : e.body = front ++ l :: back) (hflag : Line.flag? l.text = none) :
    ∃ os x os', operationsOf e.title l = .ok x ∧ tr.operations = os ++ (x ++ os') ∧
      ∀ l' x', Line.flag? l'.text = none → isUnreadableTyping l' = false → operationsOf e.title l' = .ok x' →
        { e with body := front ++ l' :: back }.read =
          .ok (.transition { tr with operations := os ++ (x' ++ os') }) := by
  obtain ⟨target, flags, operations, hafter, hflags, htyping, hoperations, rfl⟩ := read_eq_transition_iff.1 h
  rw [hbody] at hflags htyping hoperations
  obtain ⟨os, x, os', hos, hx, hos', rfl⟩ := readOperations_eq_ok_iff.1 hoperations
  refine ⟨os, x, os', hx, rfl, fun l' x' hflag' htyping' hx' => ?_⟩
  refine read_eq_transition_iff.2 ⟨target, flags, _, hafter, ?_, ?_, readOperations_eq_ok_iff.2
    ⟨os, x', os', hos, hx', hos', rfl⟩, rfl⟩
  · rw [readFlags_of_no_flag hflag', ← readFlags_of_no_flag hflag]
    exact hflags
  · intro m hm
    rcases List.mem_append.1 hm with hm | hm
    · exact htyping m (List.mem_append_left _ hm)
    · rcases List.mem_cons.1 hm with rfl | hm
      · exact htyping'
      · exact htyping m (List.mem_append_right _ (List.mem_cons_of_mem l hm))

end RawEntry

namespace Section

/-- a section that has a reference, with another body -/
def withBody (r : Section) (refers : r.reference ≠ none) (body : List Text)
    (body_open : ∀ l ∈ body, Line.isFence l = false) : Section :=
  { r with body, body_open, unreferring := fun h => absurd h refers }

variable {r : Section} {reference u : Text} {front back body : List Text} {refers : r.reference ≠ none}
  {body_open : ∀ l ∈ body, Line.isFence l = false}

/-- Where a line of the body stands below the header. -/
theorem below_of_body (hr : r.reference = some reference) (hbody : r.body = front ++ u :: back) :
    r.below = (reference :: front) ++ u :: (back ++ Line.fence :: (r.block ++ Line.fence :: r.prose)) := by
  rw [below, hr, hbody, Option.toList_some, List.append_assoc]
  rfl

theorem entryAt_withBody (hr : r.reference = some reference) (n : Nat) :
    (r.withBody refers body body_open).entryAt n = { r.entryAt n with body := numberFrom (n + 2) body } := by
  simp only [entryAt, withBody, hr, Option.toList_some, List.length_singleton]

theorem length_lines_withBody (h : body.length = r.body.length) :
    (r.withBody refers body body_open).lines.length = r.lines.length := by
  simp only [lines, below, withBody, List.length_cons, List.length_append, h]

end Section

namespace Layout

variable {y : Layout} {before after : List Section} {r : Section} {reference u v : Text} {front back : List Text}

/-- The lines before a line of the body of a section, and those behind it. -/
theorem lines_of_body (split : y.sections = before ++ r :: after) (hr : r.reference = some reference)
    (hbody : r.body = front ++ u :: back) :
    y.lines = (y.prose ++ before.flatMap Section.lines ++ (r.header :: reference :: front)) ++
      u :: (back ++ Line.fence :: (r.block ++ Line.fence :: r.prose) ++ after.flatMap Section.lines) := by
  rw [lines_of_split split, Section.below_of_body hr hbody]
  simp only [List.append_assoc, List.cons_append]

theorem length_above_body (y : Layout) (before : List Section) (header reference : Text) (front : List Text) :
    (y.prose ++ before.flatMap Section.lines ++ (header :: reference :: front)).length =
      y.numberBehind before + 1 + front.length := by
  simp only [numberBehind, List.length_append, List.length_cons]
  omega

theorem getElem?_of_body (split : y.sections = before ++ r :: after) (hr : r.reference = some reference)
    (hbody : r.body = front ++ u :: back) : y.lines[y.numberBehind before + 1 + front.length]? = some u := by
  have hline := getElem?_of_eq_append (lines_of_body split hr hbody)
  rwa [length_above_body] at hline

variable (refers : r.reference ≠ none) (body_open : ∀ l ∈ front ++ v :: back, Line.isFence l = false)

/-- Another line in a body takes the place of the line. -/
theorem lines_withBody (split : y.sections = before ++ r :: after) (hr : r.reference = some reference)
    (hbody : r.body = front ++ u :: back) :
    ({ y with sections := before ++ r.withBody refers (front ++ v :: back) body_open :: after } : Layout).lines =
      y.lines.set (y.numberBehind before + 1 + front.length) v := by
  rw [lines_of_body split hr hbody, lines_of_body (r := r.withBody refers _ body_open) rfl hr rfl,
    ← length_above_body y before r.header reference, List.set_append_right _ _ le_rfl, Nat.sub_self, List.set_cons_zero]
  rfl

/-- Another line that is no header leaves a layout tidy. -/
theorem IsTidy.withBody (tidy : y.IsTidy) (split : y.sections = before ++ r :: after)
    (hr : r.reference = some reference) (hbody : r.body = front ++ u :: back)
    (headless : Line.looksLikeHeader v = false) :
    IsTidy { y with sections := before ++ r.withBody refers (front ++ v :: back) body_open :: after } := by
  simp only [IsTidy, split, List.flatMap_append, List.flatMap_cons, List.forall_mem_append,
    Section.below_of_body hr hbody, List.forall_mem_cons] at tidy
  simp only [IsTidy, List.flatMap_append, List.flatMap_cons, List.forall_mem_append,
    Section.below_of_body (r := r.withBody refers _ body_open) hr rfl, List.forall_mem_cons]
  obtain ⟨hprose, hbefore, ⟨hreference, -, hbelow⟩, hafter⟩ := tidy
  exact ⟨hprose, hbefore, ⟨hreference, headless, hbelow⟩, hafter⟩

end Layout

namespace Spec

variable {t : Text} {s : Spec} {tr : Transition} {y : Layout} {before after : List Section} {r : Section}
  {u : Text} {front back : List Text}

theorem ofEntries_append_transition (xs xs' : List Entry) (tr : Transition) (n : Nat) :
    ofEntries (xs ++ .transition tr :: xs') n = { ofEntries (xs ++ xs') n with
      transitions := (ofEntries xs n).transitions ++ tr :: (ofEntries xs' n).transitions } := by
  simp only [ofEntries, List.filterMap_append, List.filterMap_cons]

/-- **Another line in a body leaves what is read of all other entries.** -/
theorem read_of_line (h : IsSectionOf t tr y before r after) (hs : read t = .ok s)
    (hbody : r.body = front ++ u :: back) :
    ∃ trs trs', s.transitions = trs ++ tr :: trs' ∧ ∀ t' v tr', Line.isFence v = false →
      Line.looksLikeHeader v = false →
      sourceLines t' = (sourceLines t).set (y.numberBehind before + 1 + front.length) v →
      { r.entryAt (y.numberBehind before) with
        body := numberFrom (y.numberBehind before + 2) (front ++ v :: back) }.read = .ok (.transition tr') →
      read t' = .ok { s with transitions := trs ++ tr' :: trs' } := by
  obtain ⟨xs, x, xs', hxs, hx, hxs', rfl⟩ := (read_eq_ok_iff h.tidy h.lines h.split).1 hs
  obtain rfl : Entry.transition tr = x := Except.ok.inj (h.read.symm.trans hx)
  obtain ⟨reference, hr, -⟩ := h.exists_reference
  have refers : r.reference ≠ none := by rw [hr]; exact nofun
  rw [ofEntries_append_transition]
  refine ⟨_, _, rfl, fun t' v tr' v_open headless hlines hread => ?_⟩
  have body_open : ∀ l ∈ front ++ v :: back, Line.isFence l = false := by
    have hopen := r.body_open
    rw [hbody, List.forall_mem_append, List.forall_mem_cons] at hopen
    exact List.forall_mem_append.2 ⟨hopen.1, List.forall_mem_cons.2 ⟨v_open, hopen.2.2⟩⟩
  have tidy := h.tidy.withBody refers body_open h.split hr hbody headless
  have hlines' := calc
    Layout.lines { y with sections := before ++ r.withBody refers _ body_open :: after }
      = y.lines.set (y.numberBehind before + 1 + front.length) v :=
        Layout.lines_withBody refers body_open h.split hr hbody
    _ = sourceLines t' := by rw [h.lines, hlines]
  have hlength : (r.withBody refers _ body_open).lines.length = r.lines.length :=
    Section.length_lines_withBody (by rw [hbody, List.length_append, List.length_append]; rfl)
  have hsections : (before ++ r.withBody refers _ body_open :: after).length = y.sections.length := by
    rw [h.split, List.length_append, List.length_append]
    rfl
  have hread' := (read_eq_ok_iff tidy hlines' rfl).2
    ⟨xs, _, xs', hxs, (Section.entryAt_withBody hr _).symm ▸ hread, hlength ▸ hxs', rfl⟩
  rw [hread', hsections, ofEntries_append_transition]

end Spec

/-! ## Texts with given lines -/

namespace Text

theorem lines_append_cons {l : Text} (h : '\n' ∉ l) (t : Text) : lines (l ++ '\n' :: t) = l :: lines t := by
  induction l with
  | nil => rfl
  | cons c l ih =>
    rw [List.mem_cons, not_or] at h
    rw [List.cons_append, lines, if_neg (Ne.symm h.1), ih h.2]

theorem lines_flatMap {ls : List Text} (h : ∀ l ∈ ls, '\n' ∉ l) : lines (ls.flatMap (· ++ ['\n'])) = ls ++ [[]] := by
  induction ls with
  | nil => rfl
  | cons l ls ih =>
    rw [List.forall_mem_cons] at h
    rw [List.flatMap_cons, List.append_assoc, List.singleton_append, lines_append_cons h.1, ih h.2]
    rfl

/-- a text with a carriage return before every line feed -/
def withReturns (t : Text) : Text := t.flatMap fun c => if c = '\n' then ['\r', '\n'] else [c]

theorem withReturns_cons (c : Char) (t : Text) :
    withReturns (c :: t) = (if c = '\n' then ['\r', '\n'] else [c]) ++ withReturns t := List.flatMap_cons

theorem head?_withReturns (t : Text) : (withReturns t).head? ≠ some '\n' := by
  cases t with
  | nil => exact nofun
  | cons c t =>
    rw [withReturns_cons]
    split
    · exact fun h => absurd (Option.some.inj h) (by decide)
    · next hc => exact fun h => hc (Option.some.inj h)

/-- **Every text is what becomes of another one** whose line ends are made single line feeds. -/
theorem replacePair_withReturns (t : Text) : replacePair '\r' '\n' '\n' (withReturns t) = t := by
  induction t with
  | nil => rfl
  | cons c t ih =>
    rw [withReturns_cons]
    split
    · next hc =>
      subst hc
      exact congrArg ('\n' :: ·) ih
    · -- a carriage return of the text is followed by no line feed, because that one has its own before it
      have hhead := head?_withReturns t
      cases hu : withReturns t with
      | nil =>
        rw [hu] at ih
        rw [← ih]
        rfl
      | cons d u =>
        rw [hu] at ih hhead
        have hd : ¬ (c = '\r' ∧ d = '\n') := fun h => hhead (congrArg some h.2)
        rw [List.singleton_append, replacePair, if_neg hd, ih]

end Text

namespace Spec

/-- **There is a source of any lines.** -/
theorem exists_sourceLines_eq {ls : List Text} (h : ∀ l ∈ ls, '\n' ∉ l) : ∃ t, sourceLines t = ls ++ [[]] := by
  refine ⟨Text.withReturns (ls.flatMap (· ++ ['\n'])), ?_⟩
  have hnormal : normalizeSource (Text.withReturns (ls.flatMap (· ++ ['\n']))) = ls.flatMap (· ++ ['\n']) := by
    rw [normalizeSource, Text.replacePair_withReturns]
    rcases List.eq_nil_or_concat' ls with rfl | ⟨ms, m, rfl⟩
    · rfl
    · refine if_pos ?_
      simp
  rw [sourceLines, hnormal, Text.lines_flatMap h]

/-- whether a text is another one with some spaces at the end of a line -/
def IsSpaced (t : Text) (l : NumberedLine) (n : Nat) (t' : Text) : Prop :=
  sourceLines t' = (sourceLines t).set (l.number - 1) (l.text ++ List.replicate n ' ')

/-- There is a text with spaces at the end of any line that is not empty. -/
theorem exists_isSpaced {t : Text} {l : NumberedLine} (hl : (sourceLines t)[l.number - 1]? = some l.text)
    (hne : l.text ≠ []) (n : Nat) : ∃ t', IsSpaced t l n t' := by
  obtain ⟨ls, hls⟩ := exists_sourceLines t
  have hold : ∀ m ∈ sourceLines t, '\n' ∉ m := fun m hm => Text.notMem_of_mem_lines hm
  have hnew : ∀ m ∈ ls.set (l.number - 1) (l.text ++ List.replicate n ' '), '\n' ∉ m := by
    intro m hm
    rcases List.mem_or_eq_of_mem_set hm with hm | rfl
    · exact hold m (hls ▸ List.mem_append_left _ hm)
    · rw [List.mem_append, not_or]
      exact ⟨hold _ (List.mem_of_getElem? hl), fun h => absurd (List.eq_of_mem_replicate h) (by decide)⟩
  -- the last line is empty
  have hlt : l.number - 1 < ls.length := by
    rw [hls] at hl
    rcases getElem?_concat hl with hl | ⟨-, hnil⟩
    · exact (List.getElem?_eq_some_iff.1 hl).1
    · exact absurd hnil hne
  obtain ⟨t', ht'⟩ := exists_sourceLines_eq hnew
  refine ⟨t', ?_⟩
  rw [IsSpaced, ht', hls, List.set_append_left _ _ hlt]

variable {body : List NumberedLine} {l : NumberedLine} {command : Text} {rest : Option Text}

/-- **Spaces behind an operation line that runs a command.** The operation of the line is one of the transition, and
any number of spaces behind the line leave the spec as it is, but for one case: a bare command with one space behind it
says nothing, and its operation is lost. -/
theorem kept_unless_one_space (h : read t = .ok s) (htr : tr ∈ s.transitions) (hbody : IsBodyOf (sourceLines t) tr body)
    (hl : l ∈ body) (hline : Line.IsOperation l.text command rest) (runs : ¬ Line.typingStart <+: command) :
    ∃ trs os o os' trs', s.transitions = trs ++ tr :: trs' ∧ tr.operations = os ++ o :: os' ∧ o.IsSaidBy l ∧
      ∀ n, (∃ t', IsSpaced t l n t') ∧ ∀ t', IsSpaced t l n t' →
        read t' = .ok (if rest = none ∧ n = 1
          then { s with transitions := trs ++ { tr with operations := os ++ os' } :: trs' } else s) := by
  obtain ⟨y, before, r, after, hsection⟩ := exists_section h htr
  obtain rfl := hbody.unique hsection.isBodyOf
  obtain ⟨front, back, hsplit, hnumber⟩ := exists_of_mem_numberFrom hl
  obtain ⟨u, hu⟩ : ∃ u, l.text = '-' :: u := by
    obtain ⟨n, tail, hu, -⟩ := hline.line
    exact ⟨_, hu⟩
  -- what the line is read as, and what another line in its place does
  have hentry := hsection.body_entryAt
  rw [hsplit, numberFrom_append, numberFrom, ← hnumber] at hentry
  obtain ⟨os, x, os', hx, hos, hentries⟩ :=
    RawEntry.exists_of_line hsection.read hentry (hu ▸ (Line.plain_of_hyphen u).1)
  obtain ⟨hnone, -⟩ | ⟨-, o, rfl, ho⟩ := RawEntry.isSaidBy_of_operationsOf hx
  · exact absurd ⟨command, rest, hline⟩ hnone
  rw [List.singleton_append] at hos
  obtain ⟨trs, trs', htrs, hread⟩ := read_of_line hsection h hsplit
  have hplace : l.number - 1 = y.numberBehind before + 1 + front.length := by omega
  refine ⟨trs, os, o, os', trs', htrs, hos, ho, fun n => ⟨?_, fun t' ht' => ?_⟩⟩
  · obtain ⟨reference, hr, -⟩ := hsection.exists_reference
    have hget := Layout.getElem?_of_body hsection.split hr hsplit
    rw [hsection.lines, ← hplace] at hget
    exact exists_isSpaced hget (by rw [hu]; exact List.cons_ne_nil _ u) n
  · obtain ⟨hflag, hfence, hheader⟩ := Line.plain_of_hyphen (u ++ List.replicate n ' ')
    rw [← List.cons_append, ← hu] at hflag hfence hheader
    have hspaced := hentries _ _ hflag (RawEntry.isUnreadableTyping_append_spaces hline runs n)
      (RawEntry.operationsOf_append_spaces hx hline n)
    rw [hnumber, ← numberFrom, ← numberFrom_append] at hspaced
    rw [IsSpaced, hplace] at ht'
    rw [hread t' _ _ hfence hheader ht' hspaced]
    split
    · rfl
    · rw [List.singleton_append, ← hos, ← htrs]

/-- a transition with one operation, a bare command with some spaces behind it -/
def bareText (n : Nat) : Text :=
  Text.unlines ["# A", Line.fence, "|", Line.fence, "# B", "[x](#A)", "- insert.a" ++ List.replicate n ' ', Line.fence,
    "X|", Line.fence]

def bare : Transition where
  title := "B"
  comesAfter := "A"
  operations := [⟨.command, "insert.a", none, none, some 7⟩]
  flags := []
  content := "X|\n"
  line := some 5

def bareSpec (tr : Transition) : Spec := ⟨[⟨"A", [], "|\n", some 1⟩], [tr], 2⟩

theorem eq_nil_of_singleton_eq {α : Type} {x y : α} {xs ys : List α} (h : [x] = xs ++ y :: ys) :
    xs = [] ∧ x = y ∧ ys = [] := by
  cases xs with
  | nil =>
    obtain ⟨rfl, rfl⟩ := List.cons.inj h
    exact ⟨rfl, rfl, rfl⟩
  | cons z xs => exact absurd (List.cons.inj h).2.symm (List.append_ne_nil_of_right_ne_nil xs (List.cons_ne_nil y ys))

theorem read_bareText : read (bareText 0) = .ok (bareSpec bare) := by decide +kernel

theorem isBodyOf_bare : IsBodyOf (sourceLines (bareText 0)) bare [⟨7, "- insert.a"⟩] := by
  obtain ⟨y, before, r, after, hsection⟩ := exists_section read_bareText (List.mem_singleton.2 rfl)
  have hbody := hsection.isBodyOf
  have hheading : ⟨5, "# B", (sourceLines (bareText 0)).drop 5⟩ ∈ headings 1 (sourceLines (bareText 0)) := by
    decide +kernel
  have hlines : numberFrom (y.numberBehind before + 2) r.body = [⟨7, "- insert.a"⟩] := calc
    _ = numberFrom 7 (((sourceLines (bareText 0)).drop 5).takeWhile fun l => !Line.isFence l).tail :=
      hbody.eq_of_heading hheading rfl
    _ = [⟨7, "- insert.a"⟩] := by decide +kernel
  rwa [hlines] at hbody

theorem isOperation_bare : Line.IsOperation "- insert.a" "insert.a" none where
  line := ⟨1, [], rfl, .nothing⟩
  token := Or.inr ⟨by decide, List.all_eq_true.1 (by decide +kernel)⟩

/-- Two spaces behind the command leave it, one space loses it. -/
theorem kept_unless_one_space_bare :
    read (bareText 0) = .ok (bareSpec bare) ∧ IsBodyOf (sourceLines (bareText 0)) bare [⟨7, "- insert.a"⟩] ∧
      Line.IsOperation "- insert.a" "insert.a" none ∧ ¬ Line.typingStart <+: "insert.a" ∧
      read (bareText 2) = .ok (bareSpec bare) ∧ read (bareText 1) = .ok (bareSpec { bare with operations := [] }) := by
  obtain ⟨trs, os, o, os', trs', htrs, hos, -, hspaces⟩ := kept_unless_one_space read_bareText
    (List.mem_singleton.2 rfl) isBodyOf_bare List.mem_cons_self isOperation_bare (by decide)
  obtain ⟨rfl, -, rfl⟩ := eq_nil_of_singleton_eq htrs
  obtain ⟨rfl, -, rfl⟩ := eq_nil_of_singleton_eq hos
  refine ⟨read_bareText, isBodyOf_bare, isOperation_bare, by decide, ?_, ?_⟩
  · exact (hspaces 2).2 (bareText 2) (by unfold IsSpaced; decide +kernel)
  · exact (hspaces 1).2 (bareText 1) (by unfold IsSpaced; decide +kernel)

/-- **One space can lose an operation**: a bare command, and the same command with a space behind it. -/
theorem not_kept_behind_one_space : ¬ ∀ (t : Text) (s : Spec) (tr : Transition) (body : List NumberedLine)
    (l : NumberedLine) (command : Text) (rest : Option Text), read t = .ok s → tr ∈ s.transitions →
    IsBodyOf (sourceLines t) tr body → l ∈ body → Line.IsOperation l.text command rest →
    ¬ Line.typingStart <+: command → ∀ n t', IsSpaced t l n t' → read t' = .ok s := by
  intro h
  have hkept := h (bareText 0) (bareSpec bare) bare _ ⟨7, "- insert.a"⟩ "insert.a" none read_bareText
    (List.mem_singleton.2 rfl) isBodyOf_bare List.mem_cons_self isOperation_bare (by decide) 1 (bareText 1)
    (by unfold IsSpaced; decide +kernel)
  have hlost : read (bareText 1) = .ok (bareSpec { bare with operations := [] }) := by decide +kernel
  rw [hlost] at hkept
  exact absurd (Except.ok.inj hkept) (by decide)

end Spec

end CursorSpec
