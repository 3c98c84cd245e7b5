/-
Repeating an insert session is one insertion.

The command that began the session is run once more, and nothing else is. What it leaves behind is the document that
all changes are made in, and together these are one insertion, of everything that the session typed, as often as asked
for (`repeats_as_one_insertion`). Once is the least that can be asked for. Without a session nothing is done.
-/
import CursorSpec.Proofs.Editor.Changes
import CursorSpec.Proofs.Editor.Session
import CursorSpec.Proofs.Run.Sequential

namespace CursorSpec

/-- an editor after a text was inserted between two offsets, with a caret behind it -/
def Editor.withInserted (e : Editor) (a b : Nat) (w : Text) : Editor :=
  { e with state := .withInserted e.state.text a b w }

/-- A call that succeeds goes into the history. -/
theorem Editor.history_of_execute {e e' : Editor} {c : Call} {v : Value} (h : e.execute c = (e', .ok v)) :
    e'.history = e.history ++ [c] := by
  have hall : e.executeAll [c] = (e', [.ok v]) := by rw [executeAll_cons, h]; rfl
  have hhistory := (history_executeAll e [c]).1
  have hknown : [c].filter e.knows = [c] := filter_knows fun r hr => ⟨v, by simpa [hall] using hr⟩
  rwa [hall, hknown] at hhistory

namespace CommandHistory

variable {e : Editor} {count : Option Int}

theorem repetitions_eq (hcount : ∀ n ∈ count, 0 ≤ n) : repetitions count = max 1 (count.getD 1).toNat := by
  cases count with
  | none => rfl
  | some n =>
    have hn : 0 ≤ n := hcount n rfl
    simp only [repetitions, Option.getD_some]
    split
    · next h0 => rw [h0]; rfl
    · omega

theorem reapply_nil (e : Editor) (count : Option Int) :
    reapply e [] count = ({ e with state := .make e.state.text [e.state.mainSelection] }, .ok true) := by
  have hnil : (List.replicate (repetitions count) ([] : List TextChange)).flatten = [] := by simp
  simp only [reapply, hnil, DocState.applyChanges?_nil]

/-- Changes made as often as asked for insert everything that they type at once. -/
theorem reapply_cons (hcount : ∀ n ∈ count, 0 ≤ n) {c : TextChange} {a b : Nat}
    (hplace : DocState.ReplacesAt e.state.text e.state.mainSelection c a b) (ha : a ≤ e.state.text.length)
    (cs : List TextChange) :
    reapply e (c :: cs) count =
      (e.withInserted a b (Text.times (max 1 (count.getD 1).toNat) (TextChange.inserted (c :: cs))), .ok true) := by
  obtain ⟨n, hn⟩ : ∃ n, max 1 (count.getD 1).toNat = n + 1 := ⟨max 1 (count.getD 1).toNat - 1, by omega⟩
  simp only [reapply, repetitions_eq hcount, hn, DocState.applyChanges?_replicate hplace ha,
    Editor.withInserted]

/-- **Repeating the last insert session is one insertion.** The command that began it is run, alone; then all that the
session typed is inserted at the main selection, as often as asked for, and a caret is left behind it. The first change
says whether the main selection is replaced or something is inserted at its active end. -/
theorem repeats_as_one_insertion (execute : Execution) (h : CommandHistory) (e : Editor) (count : Option Int)
    (hcount : ∀ n ∈ count, 0 ≤ n) :
    (h.session? = none → h.repeatBy execute e count = (e, .ok false)) ∧
      ∀ i j, h.session? = some (i, j) → ∃ opening, h[i]? = some opening ∧
        ∀ e' v, execute e opening.call = (e', .ok v) → e'.state.IsNonneg →
          (execute = Editor.execute → e'.history = e.history ++ [opening.call]) ∧
          (h.changesOf i j = [] →
            h.repeatBy execute e count =
              ({ e' with state := .make e'.state.text [e'.state.mainSelection] }, .ok true)) ∧
          ∀ c cs, h.changesOf i j = c :: cs →
            ∃ a b, DocState.ReplacesAt e'.state.text e'.state.mainSelection c a b ∧ a ≤ b ∧
              b ≤ e'.state.text.length ∧
              h.repeatBy execute e count =
                (e'.withInserted a b (Text.times (max 1 (count.getD 1).toNat) (TextChange.inserted (c :: cs))),
                  .ok true) := by
  refine ⟨fun hs => repeatBy_of_none hs execute e count, fun i j hs => ?_⟩
  obtain ⟨opening, hi⟩ := exists_getElem?_of_session? hs
  refine ⟨opening, hi, fun e' v hrun hnonneg => ?_⟩
  have hrepeat : h.repeatBy execute e count = reapply e' (h.changesOf i j) count := by
    rw [repeatBy_of_some hs, replay_of_ok hi hrun]
  refine ⟨fun hown => ?_, fun hnil => ?_, fun c cs hcons => ?_⟩
  · rw [hown] at hrun
    exact Editor.history_of_execute hrun
  · rw [hrepeat, hnil, reapply_nil]
  · obtain ⟨a, b, hplace, hab, hb⟩ := DocState.exists_replacesAt e'.state.text hnonneg.mainSelection c
    refine ⟨a, b, hplace, hab, hb, ?_⟩
    rw [hrepeat, hcons, reapply_cons hcount hplace (hab.trans hb)]

/-- a session that begins with typing over what is selected -/
def typedOver : CommandHistory :=
  [⟨⟨"dance.noop", []⟩, ⟨false, true, false⟩, some [⟨"x\n", 1⟩, ⟨"y", 3⟩]⟩, switchOut none]

/-- the `b` of the text `abc` selected backwards, and a caret behind the text -/
def selectedEditor : Editor := { abcEditor with state := .make "abc" [⟨⟨0, 2⟩, ⟨0, 1⟩⟩, .caret ⟨0, 3⟩] }

/-- What is selected is replaced once, and the second change replaces nothing. -/
theorem repeats_as_one_insertion_over :
    (∃ a b, DocState.ReplacesAt "abc" ⟨⟨0, 2⟩, ⟨0, 1⟩⟩ ⟨"x\n", 1⟩ a b ∧ a ≤ b ∧ b ≤ 3 ∧
      typedOver.repeatInsert selectedEditor (some 2) =
        ((selectedEditor.execute ⟨"dance.noop", []⟩).1.withInserted a b "x\nyx\ny", .ok true)) ∧
      (typedOver.repeatInsert selectedEditor (some 2)).1.state = .make "ax\nyx\nyc" [.caret ⟨2, 1⟩] := by
  obtain ⟨-, hsome⟩ := repeats_as_one_insertion Editor.execute typedOver selectedEditor (some 2) (by decide)
  obtain ⟨opening, hi, hrun⟩ := hsome 0 1 (by decide)
  obtain rfl : _ = opening := Option.some.inj hi
  obtain ⟨-, -, hinsert⟩ := hrun (selectedEditor.execute ⟨"dance.noop", []⟩).1 (.list []) (by decide) (by decide)
  exact ⟨hinsert _ _ rfl, by decide⟩

end CommandHistory

end CursorSpec
