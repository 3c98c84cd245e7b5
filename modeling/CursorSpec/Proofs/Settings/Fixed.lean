/-
Checked settings stay as they are.

Settings are sound (`Settings.IsSound`) if the extension begins with a dot, the fixture is an identifier, the suffix
makes names of modules, the stagger is not negative and a time limit is positive. Each check promises its part of this,
so checks that find nothing give sound settings (`isSound_of_ofValue`). The other way round, a check leaves a part as it
is that is given in the form settings are shown in and keeps the promise (`checkExtension_str`, `checkStagger_int` and
their like), and what an option defaults to does not matter where the option is given (`option_eq_pure`). So sound
settings that are shown in full are checked to be the same settings (`check_toValue`).

`fixed_once_checked`: checking again changes nothing, whatever the settings were made of; and no settings but the sound
ones pass unchanged.
-/
import CursorSpec.Proofs.Settings.Usable

namespace CursorSpec

/-- what checks promise of how test modules are written -/
structure GeneratorSettings.IsSound (g : GeneratorSettings) : Prop extends g.IsUsable where
  fixture : Text.isIdentifier g.hostFixture = true
  stagger : 0 ≤ g.typeStagger

structure Settings.IsSound (s : Settings) : Prop where
  extension : s.specExtension.head? = some '.'
  generator : s.generator.IsSound

theorem isSound_default : GeneratorSettings.default.IsSound := ⟨isUsable_default, by decide, by decide⟩

namespace Settings

variable {α : Type}

/-! ## What passes the checks is sound -/

/-- Settings are accepted with the value of their checks, if these find nothing. -/
theorem ofValue_eq_ok_iff {v : Value} {s : Settings} :
    ofValue v = .ok s ↔ (check v).findings = [] ∧ (check v).value = s := by
  unfold ofValue
  simp only [List.isEmpty_iff]
  split
  · next h => simp [h]
  · next h => simp [h]

theorem promises_checkExtension (v : Value) : (checkExtension v).Promises fun t => t.head? = some '.' := by
  intro _
  show (if (checkText v).value.head? = some '.' then (checkText v).value else '.' :: (checkText v).value).head? = _
  split
  · next h => exact h
  · rfl

theorem promises_checkStagger (v : Value) : (checkStagger v).Promises fun n => 0 ≤ n := by
  intro h
  have hok := promises_checkInteger (fun n => decide (0 ≤ n)) .negative v h
  exact of_decide_eq_true hok

theorem promises_isSound_checkGenerator (es : List (Value × Value)) :
    (checkGenerator es).Promises GeneratorSettings.IsSound := by
  intro h
  have usable := promises_checkGenerator es h
  obtain ⟨h, -⟩ := Checked.findings_apply.1 h
  obtain ⟨h, -⟩ := Checked.findings_apply.1 h
  obtain ⟨h, hstagger⟩ := Checked.findings_apply.1 h
  obtain ⟨-, hfixture⟩ := Checked.findings_apply.1 h
  refine ⟨usable, ?_, ?_⟩
  · exact promises_option (P := fun t => Text.isIdentifier t = true) isSound_default.fixture
      (promises_checkTextWith _ _) hfixture
  · exact promises_option isSound_default.stagger promises_checkStagger hstagger

theorem promises_isSound_check (v : Value) : (check v).Promises IsSound := by
  refine promises_sectionOf (fun es h => ?_) v
  obtain ⟨h, hgenerator⟩ := Checked.findings_apply.1 h
  obtain ⟨h, -⟩ := Checked.findings_apply.1 h
  obtain ⟨-, hextension⟩ := Checked.findings_apply.1 h
  constructor
  · exact promises_option (P := fun t => t.head? = some '.') rfl promises_checkExtension hextension
  · exact promises_option isSound_default (promises_subsection promises_isSound_checkGenerator) hgenerator

/-- **Checked settings are sound.** -/
theorem isSound_of_ofValue {v : Value} {s : Settings} (h : ofValue v = .ok s) : s.IsSound := by
  obtain ⟨hfindings, rfl⟩ := ofValue_eq_ok_iff.1 h
  exact promises_isSound_check v hfindings

/-! ## What is sound passes the checks -/

/-- An option that is given counts as what its check makes of it, whatever it defaults to. -/
theorem option_eq_pure {entries : List (Value × Value)} {name : Text} {absent a : α} {check : Value → Checked α}
    {v : Value} (given : Value.lookup? (.str name) entries = some v) (hcheck : check v = .pure a) :
    option entries name absent check = .pure a := by
  unfold option
  rw [given]
  show (check v).inside (.key name) = .pure a
  rw [hcheck]
  rfl

theorem checkTexts_map_str (first : Nat) (ts : List Text) : checkTexts first (ts.map .str) = .pure ts := by
  induction ts generalizing first with
  | nil => rfl
  | cons t ts ih =>
    rw [List.map_cons, checkTexts, ih]
    rfl

theorem checkPaths_list (ts : List Text) : checkPaths (.list (ts.map .str)) = .pure ts := checkTexts_map_str 0 ts

theorem checkExtension_str {t : Text} (dotted : t.head? = some '.') : checkExtension (.str t) = .pure t := by
  show Checked.mk (if t.head? = some '.' then t else '.' :: t) [] = .pure t
  rw [if_pos dotted]
  rfl

theorem checkTextWith_str (ok : Text → Bool) (complaint : Text → Complaint) {t : Text} (h : ok t = true) :
    checkTextWith ok complaint (.str t) = .pure t := if_pos h

theorem checkInteger_int (ok : Int → Bool) (complaint : Complaint) {n : Int} (h : ok n = true) :
    checkInteger ok complaint (.int n) = .pure n := if_pos h

theorem checkStagger_int {n : Int} (h : 0 ≤ n) : checkStagger (.int n) = .pure n :=
  checkInteger_int _ _ (decide_eq_true h)

theorem checkTimeout_shown {limit : Option Int} (h : ∀ ms, limit = some ms → 0 < ms) :
    checkTimeout ((limit.map Value.int).getD .null) = .pure limit := by
  cases limit with
  | none => rfl
  | some ms =>
    show (checkInteger (fun n => decide (0 < n)) .notPositive (.int ms)).map some = _
    rw [checkInteger_int _ _ (decide_eq_true (h ms rfl))]
    rfl

theorem checkMode_text (m : Mode) : checkMode (.str m.text) = .pure m := by cases m <;> rfl

theorem checkBehavior_text (b : Behavior) : checkBehavior (.str b.text) = .pure b := by cases b <;> rfl

theorem checkFlag_shown (name : Text) (absent f : Flag) :
    subsection name absent (checkFlag absent) (Dump.flag f) = .pure f := by
  show checkFlag absent _ = .pure f
  unfold checkFlag
  rw [option_eq_pure rfl (checkMode_text f.mode), option_eq_pure rfl (checkBehavior_text f.behavior)]
  rfl

theorem checkCommands_shown (name : Text) (absent c : CommandNames) :
    subsection name absent checkCommands (Dump.commands c) = .pure c := rfl

theorem checkGenerator_shown {g : GeneratorSettings} (sound : g.IsSound) (name : Text) (absent : GeneratorSettings) :
    subsection name absent checkGenerator (Dump.generator g) = .pure g := by
  have hsuffix : checkSuffix (.str g.outputSuffix) = .pure g.outputSuffix := checkTextWith_str _ _ sound.suffix
  have hfixture : checkFixture (.str g.hostFixture) = .pure g.hostFixture := checkTextWith_str _ _ sound.fixture
  -- what is given under a name is computed, so that each look-up holds by definition
  show checkGenerator _ = .pure g
  unfold checkGenerator
  dsimp only
  rw [option_eq_pure rfl hsuffix, option_eq_pure rfl hfixture, option_eq_pure rfl (checkStagger_int sound.stagger),
    option_eq_pure rfl (checkTimeout_shown sound.timeout), option_eq_pure rfl (checkFlag_shown _ _ g.defaultFlag)]
  rfl

/-- **Sound settings, shown in full, pass the checks as they are.** -/
theorem check_toValue {s : Settings} (sound : s.IsSound) : check s.toValue = .pure s := by
  unfold check toValue sectionOf
  dsimp only
  rw [option_eq_pure rfl (checkPaths_list s.specPaths), option_eq_pure rfl (checkExtension_str sound.extension),
    option_eq_pure rfl (checkCommands_shown _ _ s.commands),
    option_eq_pure rfl (checkGenerator_shown sound.generator _ _)]
  rfl

theorem ofValue_toValue {s : Settings} (sound : s.IsSound) : ofValue s.toValue = .ok s := by
  rw [ofValue_eq_ok_iff, check_toValue sound]
  exact ⟨rfl, rfl⟩

/-- **Checked settings are fixed.** Settings that pass the checks are sound, and shown in full they pass again and are
the same settings, whatever value they came from and however much of it was left out. The sound settings are all the
settings that there are of this kind. -/
theorem fixed_once_checked :
    (∀ v s, ofValue v = .ok s → s.IsSound ∧ ofValue s.toValue = .ok s) ∧
      ∀ s : Settings, ofValue s.toValue = .ok s ↔ s.IsSound := by
  refine ⟨fun v s h => ?_, fun s => ⟨isSound_of_ofValue, ofValue_toValue⟩⟩
  have sound := isSound_of_ofValue h
  exact ⟨sound, ofValue_toValue sound⟩

/-- settings in which a text stands for a list, a dot is missing, one section is empty and another has a few options,
of which one is a number in quotes and one a truth value -/
def shorthand : Value :=
  .dict [(.str "spec_paths", .str "specs"), (.str "spec_extension", .str "spec"), (.str "commands", .null),
    (.str "generator", .dict [(.str "type_stagger_ms", .str " 05 "), (.str "wait_timeout_ms", .bool true),
      (.str "default_behavior", .dict [(.str "behavior", .str "character")])])]

def shorthandSettings : Settings :=
  { Settings.default with
    specPaths := ["specs"]
    specExtension := ".spec"
    generator :=
      { GeneratorSettings.default with typeStagger := 5, waitTimeout := some 1, defaultFlag := ⟨.normal, .character⟩ } }

theorem ofValue_shorthand : ofValue shorthand = .ok shorthandSettings := rfl

/-- Checked once, all of it is written out; checked again, nothing changes. -/
theorem fixed_once_checked_shorthand :
    ofValue shorthand = .ok shorthandSettings ∧ shorthandSettings.toValue ≠ shorthand ∧ shorthandSettings.IsSound ∧
      ofValue shorthandSettings.toValue = .ok shorthandSettings :=
  ⟨ofValue_shorthand, by decide +kernel, fixed_once_checked.1 shorthand shorthandSettings ofValue_shorthand⟩

end Settings

end CursorSpec
