/-
Declaring entries one after another.

An entry fits behind some titles if its own title is not among them and what it comes after is. Whoever declares entries
and accepts exactly those that fit (`Declares`) gets through a list if and only if all entries fit behind those before
them, and otherwise stops at the first one that does not (`Declares.stops`). Resolving a spec is declaring its entries so
(`resolve_eq`, `declares_titles`).
-/
import CursorSpec.Proofs.Except
import CursorSpec.Proofs.Spec.Entry
import CursorSpec.Spec.Resolved

namespace CursorSpec

namespace Entry

/-- whether what an entry comes after is among some titles -/
def IsLinked (known : List Text) (e : Entry) : Prop := ∀ a ∈ e.comesAfter?, a ∈ known

/-- whether an entry may stand behind these titles -/
structure Fits (known : List Text) (e : Entry) : Prop where
  linked : e.IsLinked known
  new : e.title ∉ known

/-- whether each of some entries may stand behind these titles and those of the entries before it -/
def AllFit (known : List Text) : List Entry → Prop
  | [] => True
  | e :: es => e.Fits known ∧ AllFit (known ++ [e.title]) es

variable {known : List Text} {es : List Entry}

/-- Either all entries fit, or there is a first one that does not. -/
theorem allFit_or_exists (known : List Text) (es : List Entry) :
    AllFit known es ∨ ∃ before e after, es = before ++ e :: after ∧ AllFit known before ∧
      ¬ e.Fits (known ++ before.map title) := by
  induction es generalizing known with
  | nil => exact Or.inl trivial
  | cons e es ih =>
    by_cases he : e.Fits known
    · rcases ih (known ++ [e.title]) with hes | ⟨before, x, after, rfl, hbefore, hx⟩
      · exact Or.inl ⟨he, hes⟩
      · refine Or.inr ⟨e :: before, x, after, rfl, ⟨he, hbefore⟩, ?_⟩
        rwa [List.append_assoc, List.singleton_append] at hx
    · exact Or.inr ⟨[], e, es, rfl, trivial, by rwa [List.map_nil, List.append_nil]⟩

/-- All entries fit if their titles are new and distinct, and each is linked to a title before it. -/
theorem allFit_iff : AllFit known es ↔
    (∀ e ∈ es, e.title ∉ known) ∧ (es.map title).Nodup ∧
      ∀ (i : Nat) (e : Entry), es[i]? = some e → e.IsLinked (known ++ (es.take i).map title) := by
  induction es generalizing known with
  | nil => simp [AllFit]
  | cons x es ih =>
    have htake : ∀ i, known ++ [x.title] ++ (es.take i).map title = known ++ ((x :: es).take (i + 1)).map title := by
      intro i
      rw [List.take_succ_cons, List.map_cons, List.append_assoc, List.singleton_append]
    rw [AllFit, ih]
    constructor
    · rintro ⟨⟨hlinked, hnew⟩, hnews, hdistinct, hlinks⟩
      refine ⟨?_, ?_, ?_⟩
      · intro e he
        rcases List.mem_cons.1 he with rfl | he
        · exact hnew
        · exact fun hmem => hnews e he (List.mem_append_left _ hmem)
      · refine List.nodup_cons.2 ⟨fun hmem => ?_, hdistinct⟩
        obtain ⟨e, he, htitle⟩ := List.mem_map.1 hmem
        exact hnews e he (List.mem_append_right _ (List.mem_singleton.2 htitle))
      · intro i e he
        cases i with
        | zero =>
          cases he
          rwa [List.take_zero, List.map_nil, List.append_nil]
        | succ i =>
          rw [← htake i]
          exact hlinks i e he
    · rintro ⟨hnews, hdistinct, hlinks⟩
      obtain ⟨hx, hdistinct⟩ := List.nodup_cons.1 hdistinct
      refine ⟨⟨?_, hnews x List.mem_cons_self⟩, ?_, hdistinct, ?_⟩
      · have hlinked := hlinks 0 x rfl
        rwa [List.take_zero, List.map_nil, List.append_nil] at hlinked
      · intro e he hmem
        rcases List.mem_append.1 hmem with hmem | hmem
        · exact hnews e (List.mem_cons_of_mem x he) hmem
        · exact hx (List.mem_singleton.1 hmem ▸ List.mem_map_of_mem he)
      · intro i e he
        rw [htake i]
        exact hlinks (i + 1) e he

end Entry

/-! ## Whoever declares entries -/

/-- a way to declare entries one by one: it knows some titles, accepts the entries that fit behind them, and refuses the
others for some reason -/
structure Declares {σ ε : Type} (declare : σ → Entry → Except ε σ) (known : σ → List Text)
    (Refuses : List Text → Entry → ε → Prop) : Prop where
  accepts : ∀ s e, e.Fits (known s) → ∃ s', declare s e = .ok s' ∧ known s' = known s ++ [e.title]
  refuses : ∀ s e, ¬ e.Fits (known s) → ∃ x, declare s e = .error x ∧ Refuses (known s) e x

namespace Declares

variable {σ ε : Type} {declare : σ → Entry → Except ε σ} {known : σ → List Text}
  {Refuses : List Text → Entry → ε → Prop} (h : Declares declare known Refuses)

include h

/-- Entries that all fit are all accepted. -/
theorem goes_through {s : σ} {es : List Entry} (fit : Entry.AllFit (known s) es) :
    ∃ s', es.foldlM declare s = .ok s' ∧ known s' = known s ++ es.map Entry.title := by
  induction es generalizing s with
  | nil => exact ⟨s, rfl, by rw [List.map_nil, List.append_nil]⟩
  | cons e es ih =>
    obtain ⟨s', hs', hknown⟩ := h.accepts s e fit.1
    obtain ⟨s'', hs'', hknown'⟩ := ih (s := s') (hknown ▸ fit.2)
    refine ⟨s'', ?_, ?_⟩
    · rw [List.foldlM_cons, hs']
      exact hs''
    · rw [hknown', hknown, List.append_assoc, List.map_cons, List.singleton_append]

/-- **Declaring stops at the first entry that does not fit.** -/
theorem stops {s : σ} {before : List Entry} {e : Entry} (fit : Entry.AllFit (known s) before)
    (misfit : ¬ e.Fits (known s ++ before.map Entry.title)) (after : List Entry) :
    ∃ s' x, before.foldlM declare s = .ok s' ∧ declare s' e = .error x ∧
      Refuses (known s ++ before.map Entry.title) e x ∧ (before ++ e :: after).foldlM declare s = .error x := by
  obtain ⟨s', hs', hknown⟩ := h.goes_through fit
  obtain ⟨x, hx, hrefuses⟩ := h.refuses s' e (hknown ▸ misfit)
  refine ⟨s', x, hs', hx, hknown ▸ hrefuses, ?_⟩
  rw [List.foldlM_append, hs']
  show (declare s' e >>= fun s => after.foldlM declare s) = .error x
  rw [hx]
  rfl

theorem goes_through_iff {s : σ} {es : List Entry} :
    (∃ s', es.foldlM declare s = .ok s') ↔ Entry.AllFit (known s) es := by
  constructor
  · rintro ⟨s', hs'⟩
    rcases Entry.allFit_or_exists (known s) es with fit | ⟨before, e, after, rfl, fit, misfit⟩
    · exact fit
    · obtain ⟨-, x, -, -, -, hx⟩ := h.stops fit misfit after
      rw [hx] at hs'
      cases hs'
  · intro fit
    obtain ⟨s', hs', -⟩ := h.goes_through fit
    exact ⟨s', hs'⟩

end Declares

/-! ## Resolving -/

namespace Problem

/-- what is wrong with an entry that does not fit: what it comes after is not known, or else its title is -/
structure Refuses (known : List Text) (e : Entry) (p : Problem) : Prop where
  title : p.cause.title? = some e.title
  line : p.line = e.line
  duplicate_iff : p.cause.kind = .duplicateTitle ↔ e.IsLinked known
  unknown_iff : p.cause.kind = .unknownDependency ↔ ¬ e.IsLinked known

end Problem

namespace Spec

/-- the entries in the order in which they are declared -/
def declarations (s : Spec) : List Entry := s.initial.map .initial ++ s.transitions.map .transition

/-- titles known after one more entry -/
def declareEntry (titles known : List Text) : Entry → Except Problem (List Text)
  | .initial s => declareInitial known [s]
  | .transition t => declareTransitions titles known [t]

/-- whether titles are distinct, and every transition comes after an initial state or a transition before it -/
structure IsDeclared (s : Spec) : Prop where
  distinct : s.titles.Nodup
  after : ∀ i t, s.transitions[i]? = some t →
    t.comesAfter ∈ s.initial.map (·.title) ∨ t.comesAfter ∈ (s.transitions.take i).map (·.title)

theorem map_title_declarations (s : Spec) : s.declarations.map Entry.title = s.titles := by
  simp [declarations, titles, Entry.title, Function.comp_def]

theorem declareInitial_cons (known : List Text) (s : InitialState) (ss : List InitialState) :
    declareInitial known (s :: ss) = (declareInitial known [s] >>= fun known => declareInitial known ss) := by
  by_cases h : known.contains s.title = true
  · simp only [declareInitial, if_pos h]
    rfl
  · simp only [declareInitial, if_neg h]
    rfl

theorem declareTransitions_cons (titles known : List Text) (t : Transition) (ts : List Transition) :
    declareTransitions titles known (t :: ts) =
      (declareTransitions titles known [t] >>= fun known => declareTransitions titles known ts) := by
  by_cases hafter : (!known.contains t.comesAfter) = true
  · simp only [declareTransitions, if_pos hafter]
    rfl
  · by_cases htitle : known.contains t.title = true
    · simp only [declareTransitions, if_neg hafter, if_pos htitle]
      rfl
    · simp only [declareTransitions, if_neg hafter, if_neg htitle]
      rfl

theorem declareInitial_eq (titles known : List Text) (ss : List InitialState) :
    declareInitial known ss = (ss.map .initial).foldlM (declareEntry titles) known := by
  induction ss generalizing known with
  | nil => rfl
  | cons s ss ih => rw [declareInitial_cons, List.map_cons, List.foldlM_cons, declareEntry, funext ih]

theorem declareTransitions_eq (titles known : List Text) (ts : List Transition) :
    declareTransitions titles known ts = (ts.map .transition).foldlM (declareEntry titles) known := by
  induction ts generalizing known with
  | nil => rfl
  | cons t ts ih => rw [declareTransitions_cons, List.map_cons, List.foldlM_cons, declareEntry, funext ih]

/-- **Resolving is declaring the entries one after another.** -/
theorem resolve_eq (s : Spec) :
    s.resolve = (s.declarations.foldlM (declareEntry s.titles) []).map fun _ => ⟨s.initial, s.transitions⟩ := by
  rw [declarations, List.foldlM_append, ← declareInitial_eq]
  unfold resolve
  cases declareInitial [] s.initial with
  | error p => rfl
  | ok known =>
    show (declareTransitions s.titles known s.transitions >>= fun _ => _) = _
    rw [declareTransitions_eq]
    rfl

theorem declareEntry_of_not_linked {titles known : List Text} {e : Entry} (h : ¬ e.IsLinked known) :
    ∃ p, declareEntry titles known e = .error p ∧ p.Refuses known e := by
  cases e with
  | initial s => exact absurd (fun a ha => absurd ha (by simp [Entry.comesAfter?])) h
  | transition t =>
    have hafter : t.comesAfter ∉ known := fun hmem => h fun a ha => by
      cases ha
      exact hmem
    refine ⟨⟨.unknownDependency t.title t.comesAfter (dependencySuggestion? titles t), t.line⟩, ?_, rfl, rfl, ?_, ?_⟩
    · simp [declareEntry, declareTransitions, hafter]
    · simp [Cause.kind, h]
    · simp [Cause.kind, h]

theorem declareEntry_of_linked {titles known : List Text} {e : Entry} (h : e.IsLinked known) :
    (e.title ∉ known → declareEntry titles known e = .ok (known ++ [e.title])) ∧
      (e.title ∈ known → ∃ p, declareEntry titles known e = .error p ∧ p.Refuses known e) := by
  cases e with
  | initial s =>
    refine ⟨fun hnew => ?_, fun htaken => ⟨⟨.duplicateInitial s.title, s.line⟩, ?_, rfl, rfl, ?_, ?_⟩⟩
    · have hnew' : s.title ∉ known := hnew
      simp [declareEntry, declareInitial, hnew', Entry.title]
    · have htaken' : s.title ∈ known := htaken
      simp [declareEntry, declareInitial, htaken']
    · simp [Cause.kind, h]
    · simp [Cause.kind, h]
  | transition t =>
    have hafter : t.comesAfter ∈ known := h t.comesAfter rfl
    refine ⟨fun hnew => ?_, fun htaken => ⟨⟨.duplicateTest t.title, t.line⟩, ?_, rfl, rfl, ?_, ?_⟩⟩
    · have hnew' : t.title ∉ known := hnew
      simp [declareEntry, declareTransitions, hafter, hnew', Entry.title]
    · have htaken' : t.title ∈ known := htaken
      simp [declareEntry, declareTransitions, hafter, htaken']
    · simp [Cause.kind, h]
    · simp [Cause.kind, h]

/-- **Resolving accepts exactly the entries that fit.** -/
theorem declares_titles (titles : List Text) :
    Declares (declareEntry titles) id fun known e p => p.Refuses known e where
  accepts known e fit := ⟨_, (declareEntry_of_linked fit.linked).1 fit.new, rfl⟩
  refuses known e misfit := by
    by_cases h : e.IsLinked known
    · exact (declareEntry_of_linked h).2 (by_contra fun hnew => misfit ⟨h, hnew⟩)
    · exact declareEntry_of_not_linked h

end Spec

end CursorSpec
