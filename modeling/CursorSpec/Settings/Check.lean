/-
Checking settings.

Every option is checked, in the order of declaration, and every finding is kept; a section that is left empty counts
as absent, unknown options are ignored, and an option that is not there has its default. `Settings.ofValue` gives the
settings exactly if there is no finding.
-/
import CursorSpec.Settings.Basic
import CursorSpec.Settings.Integer
import CursorSpec.Text.Identifier
import CursorSpec.Value.Display

namespace CursorSpec

/-- a step into a value -/
inductive PathStep where
  | key (t : Text)
  | index (n : Nat)
  deriving DecidableEq, Inhabited

/-- what is wrong with an option -/
inductive Complaint where
  | notSection (name : Text)
  | notText
  | notList
  | notChoice (choices : List Text)
  | notInteger (fault : IntegerFault)
  | notPositive
  | negative
  | notIdentifier (given : Text)
  | notModule (given : Text)
  deriving DecidableEq, Inhabited

namespace Complaint

def kind : Complaint → Text
  | .notSection _ => "model_type"
  | .notText => "string_type"
  | .notList => "list_type"
  | .notChoice _ => "enum"
  | .notInteger f => f.kind
  | .notPositive => "greater_than"
  | .negative => "greater_than_equal"
  | .notIdentifier _ | .notModule _ => "value_error"

def choice (t : Text) : Text := '\'' :: (t ++ ['\''])

def message : Complaint → Text
  | .notSection name => "Input should be a valid dictionary or instance of " ++ name
  | .notText => "Input should be a valid string"
  | .notList => "Input should be a valid list"
  | .notChoice cs => "Input should be " ++ Text.join " or " (cs.map choice)
  | .notInteger f => f.message
  | .notPositive => "Input should be greater than 0"
  | .negative => "Input should be greater than or equal to 0"
  | .notIdentifier t => "Value error, host_fixture must be a Python identifier, got " ++ Text.display t
  | .notModule t => "Value error, output_suffix must end with .py, got " ++ Text.display t

end Complaint

/-- a complaint and where it belongs -/
structure Finding where
  path : List PathStep
  complaint : Complaint
  deriving DecidableEq, Inhabited

/-- the outcome of checks: a value, which counts only without findings -/
structure Checked (α : Type) where
  value : α
  findings : List Finding

namespace Checked

def pure {α : Type} (a : α) : Checked α := ⟨a, []⟩

/-- a failed check, with a value to go on with -/
def failed {α : Type} (a : α) (c : Complaint) : Checked α := ⟨a, [⟨[], c⟩]⟩

def map {α β : Type} (f : α → β) (x : Checked α) : Checked β := ⟨f x.value, x.findings⟩

/-- two checks, one after the other -/
def apply {α β : Type} (f : Checked (α → β)) (x : Checked α) : Checked β :=
  ⟨f.value x.value, f.findings ++ x.findings⟩

/-- a check of a part -/
def inside {α : Type} (s : PathStep) (x : Checked α) : Checked α :=
  ⟨x.value, x.findings.map fun f => { f with path := s :: f.path }⟩

end Checked

namespace Settings

/-! ## Options -/

def checkText : Value → Checked Text
  | .str t => .pure t
  | _ => .failed [] .notText

def checkTexts (first : Nat) : List Value → Checked (List Text)
  | [] => .pure []
  | v :: vs => ((checkText v).inside (.index first)).map (fun t ts => t :: ts) |>.apply (checkTexts (first + 1) vs)

/-- a list of texts; one text stands for a list of one -/
def checkPaths : Value → Checked (List Text)
  | .str t => .pure [t]
  | .list vs => checkTexts 0 vs
  | _ => .failed [] .notList

/-- a file name extension; a missing dot is added -/
def checkExtension (v : Value) : Checked Text :=
  (checkText v).map fun t => if t.head? = some '.' then t else '.' :: t

/-- a text with a further demand -/
def checkTextWith (ok : Text → Bool) (complaint : Text → Complaint) : Value → Checked Text
  | .str t => if ok t then .pure t else .failed t (complaint t)
  | _ => .failed [] .notText

def checkSuffix : Value → Checked Text := checkTextWith (fun t => Text.endsWith t ".py") .notModule

def checkFixture : Value → Checked Text := checkTextWith Text.isIdentifier .notIdentifier

def checkInteger (ok : Int → Bool) (complaint : Complaint) (v : Value) : Checked Int :=
  match v.integer with
  | .error f => .failed 0 (.notInteger f)
  | .ok n => if ok n then .pure n else .failed n complaint

def checkStagger : Value → Checked Int := checkInteger (fun n => 0 ≤ n) .negative

def checkTimeout : Value → Checked (Option Int)
  | .null => .pure none
  | v => (checkInteger (fun n => 0 < n) .notPositive v).map some

def checkMode : Value → Checked Mode
  | .str t =>
    match Mode.ofText? t with
    | some m => .pure m
    | none => .failed .normal (.notChoice (Mode.all.map Mode.text))
  | _ => .failed .normal (.notChoice (Mode.all.map Mode.text))

def checkBehavior : Value → Checked Behavior
  | .str t =>
    match Behavior.ofText? t with
    | some b => .pure b
    | none => .failed .caret (.notChoice (Behavior.all.map Behavior.text))
  | _ => .failed .caret (.notChoice (Behavior.all.map Behavior.text))

/-! ## Sections -/

def option {α : Type} (entries : List (Value × Value)) (name : Text) (absent : α) (check : Value → Checked α) :
    Checked α :=
  match Value.lookup? (.str name) entries with
  | none => .pure absent
  | some v => (check v).inside (.key name)

/-- a section: a mapping -/
def sectionOf {α : Type} (name : Text) (absent : α) (check : List (Value × Value) → Checked α) :
    Value → Checked α
  | .dict es => check es
  | _ => .failed absent (.notSection name)

/-- a section that may be left empty -/
def subsection {α : Type} (name : Text) (absent : α) (check : List (Value × Value) → Checked α) :
    Value → Checked α
  | .null => check []
  | v => sectionOf name absent check v

def checkCommands (es : List (Value × Value)) : Checked CommandNames :=
  let d := CommandNames.default
  ((Checked.pure CommandNames.mk).apply (option es "namespace" d.scope checkText)).apply
    (option es "selection_behavior" d.selectionBehavior checkText) |>.apply (option es "type" d.typing checkText)

def checkFlag (absent : Flag) (es : List (Value × Value)) : Checked Flag :=
  ((Checked.pure Flag.mk).apply (option es "mode" absent.mode checkMode)).apply
    (option es "behavior" absent.behavior checkBehavior)

def checkGenerator (es : List (Value × Value)) : Checked GeneratorSettings :=
  let d := GeneratorSettings.default
  (Checked.pure GeneratorSettings.mk).apply (option es "output_suffix" d.outputSuffix checkSuffix)
    |>.apply (option es "host_fixture" d.hostFixture checkFixture)
    |>.apply (option es "type_stagger_ms" d.typeStagger checkStagger)
    |>.apply (option es "wait_timeout_ms" d.waitTimeout checkTimeout)
    |>.apply (option es "default_behavior" d.defaultFlag
      (subsection "DefaultBehaviorConfig" d.defaultFlag (checkFlag d.defaultFlag)))

def check : Value → Checked Settings :=
  let d := Settings.default
  sectionOf "StatebookConfig" d fun es =>
    (Checked.pure Settings.mk).apply (option es "version" d.version checkText)
      |>.apply (option es "spec_paths" d.specPaths checkPaths)
      |>.apply (option es "spec_extension" d.specExtension checkExtension)
      |>.apply (option es "commands" d.commands (subsection "CommandsConfig" d.commands checkCommands))
      |>.apply (option es "generator" d.generator (subsection "GeneratorConfig" d.generator checkGenerator))

/-- the settings that a value gives, or everything that is wrong with it -/
def ofValue (v : Value) : Except (List Finding) Settings :=
  let c := check v
  if c.findings.isEmpty then .ok c.value else .error c.findings

/-! ## Settings as a value -/

namespace Dump

def entry (name : Text) (v : Value) : Value × Value := (.str name, v)

def commands (c : CommandNames) : Value :=
  .dict [entry "namespace" (.str c.scope), entry "selection_behavior" (.str c.selectionBehavior),
    entry "type" (.str c.typing)]

def flag (f : Flag) : Value := .dict [entry "mode" (.str f.mode.text), entry "behavior" (.str f.behavior.text)]

def generator (g : GeneratorSettings) : Value :=
  .dict [entry "output_suffix" (.str g.outputSuffix), entry "host_fixture" (.str g.hostFixture),
    entry "type_stagger_ms" (.int g.typeStagger), entry "wait_timeout_ms" ((g.waitTimeout.map Value.int).getD .null),
    entry "default_behavior" (flag g.defaultFlag)]

end Dump

def entries (s : Settings) : List (Value × Value) :=
  [Dump.entry "version" (.str s.version), Dump.entry "spec_paths" (.list (s.specPaths.map .str)),
    Dump.entry "spec_extension" (.str s.specExtension), Dump.entry "commands" (Dump.commands s.commands),
    Dump.entry "generator" (Dump.generator s.generator)]

/-- all settings as a value; checking it gives the same settings again -/
def toValue (s : Settings) : Value := .dict s.entries

end Settings

end CursorSpec
