/-
What a history has of what was recorded.

Commands and changes are recorded one after the other, and a change goes to the last command that there is then. So the
changes that a stretch of a history holds are those that came while the number of commands was in some range, in the
order in which they came (`collect_slice`), and all of it holds every change but those that came before the first command
(`changes_kept_once`). The changes of a session are those that came after its first command and before the one after its
last. `replays_up_to_next_command` says that for a repeated session: what is made again are the changes between the two
switches and, behind them, those between the switch back and the next command. `not_only_between_switches` is a history
where there are such.
-/
import CursorSpec.Proofs.Editor.Session

namespace CursorSpec

inductive Recording where
  | command (call : Call) (flags : CommandFlags)
  | change (c : TextChange)
  deriving DecidableEq, Inhabited

namespace Recording

def addTo (h : CommandHistory) : Recording → CommandHistory
  | .command call flags => h.record call flags
  | .change c => h.recordChange c

def history (es : List Recording) : CommandHistory := es.foldl addTo []

/-- how many commands there are among what was recorded -/
def commands : List Recording → Nat
  | [] => 0
  | .command _ _ :: es => commands es + 1
  | .change _ :: es => commands es

/-- all changes, each with the number of commands recorded before it, which begins with a given one -/
def numbered (n : Nat) : List Recording → List (Nat × TextChange)
  | [] => []
  | .command _ _ :: es => numbered (n + 1) es
  | .change c :: es => (n, c) :: numbered n es

def change? : Recording → Option TextChange
  | .command _ _ => none
  | .change c => some c

def changes (es : List Recording) : List TextChange := es.filterMap change?

/-- the changes recorded while the number of commands was in a range -/
def changesWhile (least greatest : Nat) (es : List Recording) : List TextChange :=
  ((numbered 0 es).filter fun x => least ≤ x.1 && x.1 ≤ greatest).map (·.2)

/-! ## One more recording -/

theorem numbered_append (n : Nat) (es es' : List Recording) :
    numbered n (es ++ es') = numbered n es ++ numbered (n + commands es) es' := by
  induction es generalizing n with
  | nil => rfl
  | cons e es ih =>
    cases e with
    | command call flags =>
      simp only [List.cons_append, numbered, ih, commands]
      rw [Nat.add_assoc, Nat.add_comm 1]
    | change c => simp only [List.cons_append, numbered, ih, commands]

theorem changes_append (es es' : List Recording) : changes (es ++ es') = changes es ++ changes es' :=
  List.filterMap_append

theorem commands_append (es es' : List Recording) : commands (es ++ es') = commands es + commands es' := by
  induction es with
  | nil => exact (Nat.zero_add _).symm
  | cons e es ih =>
    cases e with
    | command call flags =>
      simp only [List.cons_append, commands, ih]
      omega
    | change c => simp only [List.cons_append, commands, ih]

theorem changesWhile_concat_command (least greatest : Nat) (es : List Recording) (call : Call) (flags : CommandFlags) :
    changesWhile least greatest (es ++ [.command call flags]) = changesWhile least greatest es := by
  rw [changesWhile, numbered_append, numbered, numbered, List.append_nil, changesWhile]

theorem changesWhile_concat_change (least greatest : Nat) (es : List Recording) (c : TextChange) :
    changesWhile least greatest (es ++ [.change c]) =
      changesWhile least greatest es ++ if least ≤ commands es ∧ commands es ≤ greatest then [c] else [] := by
  rw [changesWhile, numbered_append, List.filter_append, List.map_append, changesWhile, numbered, numbered, Nat.zero_add]
  congr 1
  by_cases hrange : least ≤ commands es ∧ commands es ≤ greatest
  · simp [hrange]
  · rw [if_neg hrange, List.filter_cons_of_neg (by simpa using hrange)]
    rfl

theorem history_concat (es : List Recording) (e : Recording) : history (es ++ [e]) = addTo (history es) e := by
  rw [history, List.foldl_append]
  rfl

end Recording

namespace CommandHistory

/-- A change goes to the last command. -/
theorem recordChange_concat (h : CommandHistory) (r : RecordedCommand) (c : TextChange) :
    recordChange (h ++ [r]) c = h ++ [{ r with changes := some (r.changes.getD [] ++ [c]) }] := by
  induction h with
  | nil => rfl
  | cons r' h ih =>
    cases h with
    | nil => rfl
    | cons r'' h => exact congrArg (r' :: ·) ih

theorem length_recordChange (h : CommandHistory) (c : TextChange) : (h.recordChange c).length = h.length := by
  rcases List.eq_nil_or_concat h with rfl | ⟨h, r, rfl⟩
  · rfl
  · rw [List.concat_eq_append, recordChange_concat, List.length_append, List.length_append]
    rfl

/-! ## Stretches of a history -/

theorem collect_append (rs rs' : List RecordedCommand) : collect (rs ++ rs') = collect rs ++ collect rs' :=
  List.flatMap_append

/-- The last command has a part in every stretch that goes beyond the others. -/
theorem collect_slice_concat (h : CommandHistory) (r : RecordedCommand) (i j : Nat) :
    collect (((h ++ [r]).take j).drop i) =
      collect ((h.take j).drop i) ++ if i ≤ h.length ∧ h.length < j then r.changes.getD [] else [] := by
  rw [List.take_append, List.drop_append, collect_append, List.length_take]
  congr 1
  by_cases hj : h.length < j
  · obtain ⟨n, hn⟩ : ∃ n, j - h.length = n + 1 := ⟨j - h.length - 1, by omega⟩
    rw [hn, List.take_succ_cons, List.take_nil, min_eq_right hj.le]
    by_cases hi : i ≤ h.length
    · simp [collect, hi, hj, Nat.sub_eq_zero_of_le hi]
    · have hdrop : [r].drop (i - h.length) = [] := List.drop_eq_nil_of_le (by rw [List.length_singleton]; omega)
      rw [hdrop, if_neg fun hc => hi hc.1]
      rfl
  · rw [Nat.sub_eq_zero_of_le (not_lt.1 hj), List.take_zero, List.drop_nil, if_neg fun hc => hj hc.2]
    rfl

/-- Two stretches, the second of which begins where the first one ends, are one. -/
theorem slice_append_slice (h : CommandHistory) {i j k : Nat} (hij : i ≤ j) (hjk : j ≤ k) (hj : j ≤ h.length) :
    (h.take j).drop i ++ (h.take k).drop j = (h.take k).drop i := by
  have hsplit : h.take j ++ (h.take k).drop j = h.take k := by
    have htake : (h.take k).take j = h.take j := by rw [List.take_take, min_eq_left hjk]
    rw [← htake, List.take_append_drop]
  have hi : i ≤ (h.take j).length := by rw [List.length_take, min_eq_left hj]; exact hij
  rw [← List.drop_append_of_le_length hi, hsplit]

/-! ## The history of what was recorded -/

theorem length_history (es : List Recording) : (Recording.history es).length = Recording.commands es := by
  induction es using List.reverseRecOn with
  | nil => rfl
  | append_singleton es e ih =>
    rw [Recording.history_concat, Recording.commands_append, ← ih]
    cases e with
    | command call flags => exact List.length_append
    | change c => exact length_recordChange _ c

/-- **A stretch of a history has the changes that were recorded while its last command was one of them.** -/
theorem collect_slice (es : List Recording) (i j : Nat) :
    collect (((Recording.history es).take j).drop i) = Recording.changesWhile (i + 1) j es := by
  induction es using List.reverseRecOn with
  | nil => simp [Recording.history, collect, Recording.changesWhile, Recording.numbered]
  | append_singleton es e ih =>
    have hlength := length_history es
    rw [Recording.history_concat]
    cases e with
    | command call flags =>
      rw [Recording.addTo, record, collect_slice_concat, ih, Recording.changesWhile_concat_command]
      simp
    | change c =>
      rw [Recording.addTo, Recording.changesWhile_concat_change, ← ih, ← hlength]
      rcases List.eq_nil_or_concat (Recording.history es) with hnil | ⟨h, r, hr⟩
      · simp [hnil, recordChange]
      · -- the change is in the stretch exactly if the last command is
        have hrange : i + 1 ≤ (h ++ [r]).length ∧ (h ++ [r]).length ≤ j ↔ i ≤ h.length ∧ h.length < j := by
          rw [List.length_append, List.length_singleton]
          omega
        rw [hr, List.concat_eq_append, recordChange_concat, collect_slice_concat, collect_slice_concat,
          List.append_assoc, if_congr hrange rfl rfl]
        by_cases hin : i ≤ h.length ∧ h.length < j
        · simp [hin]
        · simp [hin]

/-! ## All of a history -/

theorem collect_recordChange {h : CommandHistory} (hne : h ≠ []) (c : TextChange) :
    collect (h.recordChange c) = collect h ++ [c] := by
  obtain ⟨h, r, rfl⟩ := (List.eq_nil_or_concat h).resolve_left hne
  rw [List.concat_eq_append, recordChange_concat, collect_append, collect_append, List.append_assoc]
  simp [collect]

/-- Once there is a command, no change is lost. -/
theorem collect_foldl_addTo {h : CommandHistory} (hne : h ≠ []) (es : List Recording) :
    collect (es.foldl Recording.addTo h) = collect h ++ Recording.changes es := by
  induction es generalizing h with
  | nil => exact (List.append_nil _).symm
  | cons e es ih =>
    cases e with
    | command call flags =>
      have hcollect : collect (h.record call flags) = collect h := by
        rw [record, collect_append]
        exact List.append_nil _
      have hrest := ih (h := h.record call flags) (by simp [record])
      rwa [hcollect] at hrest
    | change c =>
      have hlength : (h.recordChange c).length ≠ 0 := by
        rw [length_recordChange]
        exact fun h0 => hne (List.eq_nil_of_length_eq_zero h0)
      have hrest := ih (h := h.recordChange c) fun hnil => hlength (by rw [hnil]; rfl)
      rwa [collect_recordChange hne, List.append_assoc] at hrest

/-- **A history has every change that was recorded from the first command on.** -/
theorem collect_history (es : List Recording) :
    collect (Recording.history es) = Recording.changes (es.dropWhile (·.change?.isSome)) := by
  induction es with
  | nil => rfl
  | cons e es ih =>
    cases e with
    | command call flags => exact collect_foldl_addTo (h := record [] call flags) (by simp [record]) es
    | change c => exact ih

/-- **No change is lost or doubled in a history.** A stretch of commands has the changes that were recorded while its
last command was one of them, in the order in which they came. All commands together have all changes but those that
came before the first command, and stretches that adjoin have together what the one stretch has. -/
theorem changes_kept_once (es : List Recording) :
    (Recording.history es).length = Recording.commands es ∧
      (∀ i j, i ≤ j → j ≤ (Recording.history es).length →
        collect (((Recording.history es).take j).drop i) = Recording.changesWhile (i + 1) j es) ∧
      Recording.changes es =
        Recording.changes (es.takeWhile (·.change?.isSome)) ++ collect (Recording.history es) ∧
      ∀ i j k, i ≤ j → j ≤ k → k ≤ (Recording.history es).length →
        collect (((Recording.history es).take j).drop i) ++ collect (((Recording.history es).take k).drop j) =
          collect (((Recording.history es).take k).drop i) := by
  refine ⟨length_history es, fun i j _ _ => collect_slice es i j, ?_, fun i j k hij hjk hk => ?_⟩
  · rw [collect_history, ← Recording.changes_append, List.takeWhile_append_dropWhile]
  · rw [← collect_append, slice_append_slice _ hij hjk (hjk.trans hk)]

/-- what was recorded: a change before all commands, two after one command, none after the next, and one more -/
def typedEarly : List Recording :=
  [.change ⟨"w", 0⟩, .command ⟨"dance.noop", []⟩ default, .change ⟨"x", 0⟩, .change ⟨"x", 0⟩,
    .command ⟨"dance.noop", []⟩ default, .command ⟨"dance.noop", []⟩ default, .change ⟨"y", 2⟩]

/-- The change before all commands is in no stretch, and the others are each in one. -/
theorem changes_kept_once_typedEarly :
    collect (((Recording.history typedEarly).take 1).drop 0) = [⟨"x", 0⟩, ⟨"x", 0⟩] ∧
      collect (((Recording.history typedEarly).take 3).drop 1) = [⟨"y", 2⟩] ∧
      collect (((Recording.history typedEarly).take 1).drop 0) ++
          collect (((Recording.history typedEarly).take 3).drop 1) =
        collect (((Recording.history typedEarly).take 3).drop 0) := by
  obtain ⟨-, hstretch, -, hadjoin⟩ := changes_kept_once typedEarly
  exact ⟨hstretch 0 1 (by decide) (by decide), hstretch 1 3 (by decide) (by decide),
    hadjoin 0 1 3 (by decide) (by decide) (by decide)⟩

/-! ## What is repeated of it -/

/-- **A repeated session makes the changes between its switches again, and those after it up to the next command.** -/
theorem replays_up_to_next_command (execute : Execution) (es : List Recording) (e : Editor) (count : Option Int)
    {i j : Nat} (hs : (Recording.history es).session? = some (i, j)) :
    ∃ opening, (Recording.history es)[i]? = some opening ∧
      (Recording.history es).changesOf i j =
        Recording.changesWhile (i + 1) j es ++ Recording.changesWhile (j + 1) (j + 1) es ∧
      ((Recording.history es).changesOf i j = Recording.changesWhile (i + 1) j es ↔
        Recording.changesWhile (j + 1) (j + 1) es = []) ∧
      ∀ e' v, execute e opening.call = (e', .ok v) →
        (Recording.history es).repeatBy execute e count = reapply e' ((Recording.history es).changesOf i j) count := by
  obtain ⟨opening, hi⟩ := exists_getElem?_of_session? hs
  have hcomplete := (session?_eq_some_iff.1 hs).1.complete
  obtain ⟨closing, hj, -⟩ := hcomplete.closes
  have hlt : j < (Recording.history es).length := (List.getElem?_eq_some_iff.1 hj).1
  have hchanges : (Recording.history es).changesOf i j =
      Recording.changesWhile (i + 1) j es ++ Recording.changesWhile (j + 1) (j + 1) es := by
    rw [← collect_slice, ← collect_slice, ← collect_append,
      slice_append_slice _ hcomplete.later.le (Nat.le_succ j) hlt.le, changesOf]
  refine ⟨opening, hi, hchanges, ?_, fun e' v hrun => ?_⟩
  · rw [hchanges, List.append_right_eq_self]
  · rw [repeatBy_of_some hs, replay_of_ok hi hrun]

/-- what was recorded: a session, and then something typed before the next command and after it -/
def typedOn : List Recording :=
  [.command ⟨"dance.modes.insert.before", []⟩ ⟨false, true, false⟩, .change ⟨"x", 0⟩,
    .command ⟨"dance.noop", []⟩ ⟨false, false, true⟩, .change ⟨"y", 0⟩,
    .command ⟨"dance.noop", []⟩ ⟨false, false, false⟩, .change ⟨"z", 0⟩]

/-- Of what was typed after the session, only what came before the next command is typed again. -/
theorem replays_up_to_next_command_typedOn :
    (Recording.history typedOn).session? = some (0, 1) ∧
      (Recording.history typedOn).changesOf 0 1 = [⟨"x", 0⟩] ++ [⟨"y", 0⟩] ∧
      (Recording.history typedOn).repeatInsert abcEditor (some 2) =
        reapply (abcEditor.execute (switchIn none).call).1 [⟨"x", 0⟩, ⟨"y", 0⟩] (some 2) := by
  have hs : (Recording.history typedOn).session? = some (0, 1) := by decide
  obtain ⟨opening, hi, hchanges, -, hrepeat⟩ := replays_up_to_next_command Editor.execute typedOn abcEditor (some 2) hs
  obtain rfl : switchIn (some [⟨"x", 0⟩]) = opening := Option.some.inj hi
  have hagain := hrepeat (abcEditor.execute (switchIn none).call).1 .null (by decide)
  rw [hchanges] at hagain
  exact ⟨hs, hchanges, hagain⟩

/-- What was typed after the switch back is typed again too. -/
theorem not_only_between_switches :
    ¬∀ (es : List Recording) (e : Editor) (count : Option Int) (i j : Nat) (opening : RecordedCommand) (e' : Editor)
      (v : Value), (Recording.history es).session? = some (i, j) → (Recording.history es)[i]? = some opening →
      e.execute opening.call = (e', .ok v) →
        (Recording.history es).repeatInsert e count = reapply e' (Recording.changesWhile (i + 1) j es) count := by
  intro hclaim
  have hsame := hclaim typedOn abcEditor none 0 1 (switchIn (some [⟨"x", 0⟩])) (abcEditor.execute (switchIn none).call).1
    .null (by decide) (by decide) (by decide)
  have htext := congrArg (fun r => r.1.state.text) hsame
  exact absurd htext (by decide)

end CommandHistory

end CursorSpec
