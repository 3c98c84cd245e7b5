/-
Settings: where specs are, which editor commands tests use, and how test modules are written.
-/
import CursorSpec.Spec.Basic

namespace CursorSpec

/-- names of the editor commands that tests use -/
structure CommandNames where
  /-- what stands before a command that begins with a dot -/
  scope : Text
  /-- command that sets how selections behave -/
  selectionBehavior : Text
  /-- command that types a character -/
  typing : Text
  deriving DecidableEq, Inhabited

/-- how test modules are written -/
structure GeneratorSettings where
  /-- what follows the stem of a spec in the name of its test module -/
  outputSuffix : Text
  /-- name of the fixture that opens editors -/
  hostFixture : Text
  /-- milliseconds between the characters typed in one group -/
  typeStagger : Int
  /-- milliseconds to wait for the entry that a test comes after; for ever if there is no limit -/
  waitTimeout : Option Int
  /-- the behavior set when an editor is opened -/
  defaultFlag : Flag
  deriving DecidableEq, Inhabited

structure Settings where
  version : Text
  specPaths : List Text
  specExtension : Text
  commands : CommandNames
  generator : GeneratorSettings
  deriving DecidableEq, Inhabited

namespace CommandNames

def default : CommandNames := ⟨"dance", "dance.dev.setSelectionBehavior", "type"⟩

end CommandNames

namespace GeneratorSettings

def default : GeneratorSettings := ⟨"_test.py", "statebook_host", 20, none, ⟨.normal, .caret⟩⟩

end GeneratorSettings

namespace Settings

def default : Settings := ⟨"0.1", ["tests/specs"], ".md", .default, .default⟩

end Settings

end CursorSpec
