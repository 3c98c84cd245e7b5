/-
Tokens: what a written document spells, and where its markers stand.

- `tokenize_write`: writing tokens loses none of them, although a backslash is written twice only where it would be
  read as an escape.
- `placed` gives each marker among tokens the position where it stands. Characters and placed markers say as much as
  the tokens: `interleave_placed` puts them together again, and `placed_interleave` and `characters_interleave` take
  apart what was put together, provided the markers come in textual order and at places in the text. Markers at other
  positions stand where the way through the text comes by them (`placed_interleave_place`).
-/
import CursorSpec.Document.Render
import CursorSpec.Proofs.Document.Place

namespace CursorSpec.Document

/-! ## Writing and reading tokens -/

theorem tokenOf_char (m : Mark) : tokenOf m.char = .mark m := by
  cases m <;> rfl

theorem tokenOf_of_ofChar? {c : Char} (h : Mark.ofChar? c = none) : tokenOf c = .char c := by
  simp [tokenOf, h]

theorem char_of_ofChar? {c : Char} {m : Mark} (h : Mark.ofChar? c = some m) : m.char = c := by
  unfold Mark.ofChar? at h
  split at h <;> cases h <;> rfl

theorem isSpecial_char (m : Mark) : isSpecial m.char = true := by
  cases m <;> rfl

theorem isSpecial_of_ofChar? {c : Char} (h : (Mark.ofChar? c).isSome = true) : isSpecial c = true := by
  obtain ⟨m, hm⟩ := Option.isSome_iff_exists.1 h
  rw [← char_of_ofChar? hm]
  exact isSpecial_char m

theorem tokenize_cons {c : Char} (hc : c ≠ '\\') (t : Text) : tokenize (c :: t) = tokenOf c :: tokenize t := by
  cases t with
  | nil => rfl
  | cons d t => simp [tokenize, hc]

theorem tokenize_escaped {d : Char} (hd : isSpecial d = true) (t : Text) :
    tokenize ('\\' :: d :: t) = .char d :: tokenize t := by
  simp [tokenize, hd]

/-- A backslash before anything but a special character stands for itself. -/
theorem tokenize_backslash {t : Text} (ht : t.head?.any isSpecial = false) :
    tokenize ('\\' :: t) = .char '\\' :: tokenize t := by
  cases t with
  | nil => rfl
  | cons d t =>
    have hd : isSpecial d = false := ht
    simp only [tokenize, hd, Bool.and_false, Bool.false_eq_true, if_false]
    rfl

/-- Written tokens begin with a special character exactly where a backslash before them would escape it. -/
theorem head?_write (ts : List Token) : (write ts).head?.any isSpecial = needsEscape ts := by
  cases ts with
  | nil => rfl
  | cons t ts =>
    cases t with
    | mark m => exact isSpecial_char m
    | char c =>
      show _ = isSpecial c
      rw [write]
      split
      · next h => rw [isSpecial_of_ofChar? h]; rfl
      · split
        · next h =>
          have hc : c = '\\' := by simp only [Bool.and_eq_true, decide_eq_true_eq] at h; exact h.1
          rw [hc]; rfl
        · rfl

/-- **Writing loses no token.** -/
theorem tokenize_write (ts : List Token) : tokenize (write ts) = ts := by
  induction ts with
  | nil => rfl
  | cons t ts ih =>
    cases t with
    | mark m =>
      have hm : m.char ≠ '\\' := by cases m <;> decide
      rw [write, tokenize_cons hm, tokenOf_char, ih]
    | char c =>
      simp only [write]
      split
      · next h => rw [tokenize_escaped (isSpecial_of_ofChar? h), ih]
      · next h =>
        have hc : Mark.ofChar? c = none := by simpa using h
        split
        · next hb =>
          simp only [Bool.and_eq_true, decide_eq_true_eq] at hb
          rw [tokenize_escaped rfl, ih, hb.1]
        · next hb =>
          by_cases hs : c = '\\'
          · have hn : needsEscape ts = false := by simpa [hs] using hb
            rw [hs, tokenize_backslash (by rw [head?_write, hn]), ih]
          · rw [tokenize_cons hs, tokenOf_of_ofChar? hc, ih]

theorem withoutFinalLineFeed_append (t : Text) : withoutFinalLineFeed (t ++ ['\n']) = t := by
  simp [withoutFinalLineFeed]

/-! ## Markers and where they stand -/

/-- the markers among tokens, each with the position where it stands -/
def placed (here : Position) : List Token → List PlacedMark
  | [] => []
  | .char c :: ts => placed (here.after c) ts
  | .mark m :: ts => ⟨here, m⟩ :: placed here ts

theorem characters_char (c : Char) (ts : List Token) : characters (.char c :: ts) = c :: characters ts := rfl

theorem characters_mark (m : Mark) (ts : List Token) : characters (.mark m :: ts) = characters ts := rfl

theorem characters_append (ts us : List Token) : characters (ts ++ us) = characters ts ++ characters us :=
  List.filterMap_append

theorem characters_marks_append (ms : List PlacedMark) (ts : List Token) :
    characters (ms.map (fun m => .mark m.mark) ++ ts) = characters ts := by
  induction ms with
  | nil => rfl
  | cons m ms ih => exact ih

theorem mem_places_of_mem_placed {here : Position} {ts : List Token} {m : PlacedMark} (h : m ∈ placed here ts) :
    m.position ∈ places here (characters ts) := by
  induction ts generalizing here with
  | nil => cases h
  | cons t ts ih =>
    cases t with
    | char c => exact List.mem_cons_of_mem _ (ih h)
    | mark k =>
      rcases List.mem_cons.1 h with rfl | h
      · rw [characters_mark]
        cases characters ts <;> exact List.mem_cons_self
      · exact ih h

/-- Markers stand behind the characters of the tokens before them. -/
theorem placed_append (before : Text) (ts us : List Token) :
    placed (.afterText before) (ts ++ us) =
      placed (.afterText before) ts ++ placed (.afterText (before ++ characters ts)) us := by
  induction ts generalizing before with
  | nil => rw [show before ++ characters [] = before from List.append_nil before]; rfl
  | cons t ts ih =>
    cases t with
    | char c =>
      have h := ih (before ++ [c])
      rw [Position.afterText_concat, List.append_assoc] at h
      exact h
    | mark m => exact congrArg (_ :: ·) (ih before)

/-- Placed markers come in textual order. -/
theorem placed_pairwise (here : Position) (ts : List Token) :
    (placed here ts).Pairwise fun a b => a.position.le b.position = true := by
  induction ts generalizing here with
  | nil => exact List.Pairwise.nil
  | cons t ts ih =>
    cases t with
    | char c => exact ih _
    | mark k => exact List.pairwise_cons.2 ⟨fun m hm => le_of_mem_places (mem_places_of_mem_placed hm), ih _⟩

theorem interleave_cons_of_le {here : Position} {m : PlacedMark} (hm : m.position.le here = true) (t : Text)
    (ms : List PlacedMark) : interleave here t (m :: ms) = .mark m.mark :: interleave here t ms := by
  cases t with
  | nil => rfl
  | cons c t => simp [interleave, hm]

/-- Where all markers stand behind a place, its character comes first. -/
theorem interleave_cons_of_not_le {here : Position} {ms : List PlacedMark}
    (h : ∀ m ∈ ms, ¬ m.position.le here = true) (c : Char) (t : Text) :
    interleave here (c :: t) ms = .char c :: interleave (here.after c) t ms := by
  cases ms with
  | nil => rfl
  | cons m ms => simp [interleave, h m List.mem_cons_self]

/-- **Characters and placed markers make up the tokens.** -/
theorem interleave_placed (here : Position) (ts : List Token) :
    interleave here (characters ts) (placed here ts) = ts := by
  induction ts generalizing here with
  | nil => rfl
  | cons t ts ih =>
    cases t with
    | char c =>
      have hbehind : ∀ m ∈ placed (here.after c) ts, ¬ m.position.le here = true := fun m hm =>
        Position.not_le_of_lt (lt_of_mem_places_after (mem_places_of_mem_placed hm))
      rw [characters_char, placed, interleave_cons_of_not_le hbehind, ih]
    | mark k =>
      rw [characters_mark, placed, interleave_cons_of_le (Position.le_refl here), ih]

theorem characters_interleave (here : Position) (t : Text) (ms : List PlacedMark) :
    characters (interleave here t ms) = t := by
  induction t generalizing here ms with
  | nil =>
    have h := characters_marks_append ms []
    rwa [List.append_nil] at h
  | cons c t ih => rw [interleave, characters_marks_append, characters_char, ih]

/-- **Markers stand where their positions come** on the way through the text. -/
theorem placed_interleave_place {here : Position} {t : Text} {ms : List PlacedMark}
    (ordered : ms.Pairwise fun a b => a.position.le b.position = true) :
    placed here (interleave here t ms) = ms.map fun m => ⟨place here m.position t, m.mark⟩ := by
  induction t generalizing here ms with
  | nil =>
    induction ms with
    | nil => rfl
    | cons m ms ih => exact congrArg (_ :: ·) (ih ordered.of_cons)
  | cons c t iht =>
    induction ms with
    | nil => exact iht List.Pairwise.nil
    | cons m ms ih =>
      by_cases hm : m.position.le here = true
      · rw [interleave_cons_of_le hm, placed, ih ordered.of_cons, List.map_cons, place, if_pos hm]
      · -- the first marker stands behind this character, so all of them do
        have hall : ∀ n ∈ m :: ms, ¬ n.position.le here = true := by
          intro n hn hle
          rcases List.mem_cons.1 hn with rfl | hn
          · exact hm hle
          · exact hm (Position.le_trans (List.rel_of_pairwise_cons ordered hn) hle)
        rw [interleave_cons_of_not_le hall, placed, iht ordered]
        refine List.map_congr_left fun n hn => ?_
        rw [place, if_neg (hall n hn)]

/-- **Placed markers are found again where they were put.** -/
theorem placed_interleave {here : Position} {t : Text} {ms : List PlacedMark}
    (ordered : ms.Pairwise fun a b => a.position.le b.position = true)
    (inside : ∀ m ∈ ms, m.position ∈ places here t) : placed here (interleave here t ms) = ms := by
  rw [placed_interleave_place ordered]
  calc ms.map (fun m => ⟨place here m.position t, m.mark⟩)
      = ms.map id := List.map_congr_left fun m hm => by rw [place_of_mem_places (inside m hm)]; rfl
    _ = ms := List.map_id ms

end CursorSpec.Document
