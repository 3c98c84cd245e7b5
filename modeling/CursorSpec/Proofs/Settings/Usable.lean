/-
Checked settings can be used.

Checks that find nothing are checks whose every part finds nothing, so what each part promises of its value holds of the
settings. `isUsable_of_ofValue`: a suffix that passed the checks makes names of modules, and a time limit is positive.
-/
import CursorSpec.Settings.Check
import Mathlib.Tactic

namespace CursorSpec

namespace Checked

/-- what a check promises of its value, unless it finds something -/
def Promises {α : Type} (x : Checked α) (P : α → Prop) : Prop := x.findings = [] → P x.value

variable {α β : Type}

theorem findings_apply {f : Checked (α → β)} {x : Checked α} :
    (f.apply x).findings = [] ↔ f.findings = [] ∧ x.findings = [] :=
  List.append_eq_nil_iff

theorem findings_inside {s : PathStep} {x : Checked α} : (x.inside s).findings = [] ↔ x.findings = [] :=
  List.map_eq_nil_iff

theorem promises_failed (a : α) (c : Complaint) (P : α → Prop) : (failed a c).Promises P :=
  fun h => by cases h

end Checked

/-- what checked settings promise of how test modules are written -/
structure GeneratorSettings.IsUsable (g : GeneratorSettings) : Prop where
  suffix : Text.endsWith g.outputSuffix ".py" = true
  timeout : ∀ ms, g.waitTimeout = some ms → 0 < ms

theorem isUsable_default : GeneratorSettings.default.IsUsable := ⟨by decide, nofun⟩

namespace Settings

variable {α : Type} {P : α → Prop}

theorem promises_option {entries : List (Value × Value)} {name : Text} {absent : α} {check : Value → Checked α}
    (habsent : P absent) (hcheck : ∀ v, (check v).Promises P) : (option entries name absent check).Promises P := by
  unfold option
  split
  · exact fun _ => habsent
  · next v _ => exact fun h => hcheck v (Checked.findings_inside.1 h)

theorem promises_sectionOf {name : Text} {absent : α} {check : List (Value × Value) → Checked α}
    (hcheck : ∀ es, (check es).Promises P) (v : Value) : (sectionOf name absent check v).Promises P := by
  unfold sectionOf
  split
  · next es => exact hcheck es
  · exact Checked.promises_failed _ _ _

theorem promises_subsection {name : Text} {absent : α} {check : List (Value × Value) → Checked α}
    (hcheck : ∀ es, (check es).Promises P) (v : Value) : (subsection name absent check v).Promises P := by
  unfold subsection
  split
  · exact hcheck []
  · exact promises_sectionOf hcheck _

theorem promises_checkTextWith (ok : Text → Bool) (complaint : Text → Complaint) (v : Value) :
    (checkTextWith ok complaint v).Promises fun t => ok t = true := by
  unfold checkTextWith
  split
  · split
    · next h => exact fun _ => h
    · exact Checked.promises_failed _ _ _
  · exact Checked.promises_failed _ _ _

theorem promises_checkInteger (ok : Int → Bool) (complaint : Complaint) (v : Value) :
    (checkInteger ok complaint v).Promises fun n => ok n = true := by
  unfold checkInteger
  split
  · exact Checked.promises_failed _ _ _
  · next n _ =>
    split
    · next h => exact fun _ => h
    · exact Checked.promises_failed _ _ _

/-- A time limit that passes its check is positive. -/
theorem promises_checkTimeout (v : Value) :
    (checkTimeout v).Promises fun limit => ∀ ms, limit = some ms → 0 < ms := by
  unfold checkTimeout
  split
  · intro _ ms h; cases h
  · intro hfindings ms h
    have hpos := promises_checkInteger (fun n => decide (0 < n)) .notPositive v hfindings
    cases h
    simpa using hpos

theorem promises_checkGenerator (es : List (Value × Value)) :
    (checkGenerator es).Promises GeneratorSettings.IsUsable := by
  intro h
  obtain ⟨h, -⟩ := Checked.findings_apply.1 h
  obtain ⟨h, htimeout⟩ := Checked.findings_apply.1 h
  obtain ⟨h, -⟩ := Checked.findings_apply.1 h
  obtain ⟨h, -⟩ := Checked.findings_apply.1 h
  obtain ⟨-, hsuffix⟩ := Checked.findings_apply.1 h
  constructor
  · exact promises_option (P := fun t => Text.endsWith t ".py" = true) isUsable_default.suffix
      (promises_checkTextWith _ _) hsuffix
  · exact promises_option isUsable_default.timeout promises_checkTimeout htimeout

theorem promises_check (v : Value) : (check v).Promises fun s => s.generator.IsUsable := by
  refine promises_sectionOf (fun es h => ?_) v
  obtain ⟨-, hgenerator⟩ := Checked.findings_apply.1 h
  exact promises_option isUsable_default (promises_subsection promises_checkGenerator) hgenerator

/-- **Checked settings are usable.** -/
theorem isUsable_of_ofValue {v : Value} {s : Settings} (h : ofValue v = .ok s) : s.generator.IsUsable := by
  unfold ofValue at h
  dsimp only at h
  split at h
  · next hfindings =>
    cases h
    exact promises_check v (List.isEmpty_iff.1 hfindings)
  · cases h

/-- Settings that say nothing are the default ones. -/
theorem ofValue_empty : ofValue (.dict []) = .ok .default := rfl

end Settings

end CursorSpec
