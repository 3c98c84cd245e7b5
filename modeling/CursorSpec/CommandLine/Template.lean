/-
The settings file that a new project gets: every option with its default, commented out.
-/
import CursorSpec.Text.Basic

namespace CursorSpec.CommandLine

def settingsTemplateLines : List String :=
  [ "# statebook configuration",
    "version: \"0.1\"",
    "",
    "# Directories to search for spec files",
    "# spec_paths:",
    "#   - tests/specs",
    "",
    "# spec_extension: .md",
    "",
    "commands:",
    "  # Prefix for commands written with a leading \".\" (\".select.left\")",
    "  # namespace: dance",
    "",
    "  # Command receiving \x7b\"mode\": ..., \"value\": ...\x7d for \"> mode.behavior <- value\"",
    "  # selection_behavior: dance.dev.setSelectionBehavior",
    "",
    "  # Command receiving \x7b\"text\": ...\x7d for \"type:<char>\" operations",
    "  # type: type",
    "",
    "generator:",
    "  # Generated suite name: <spec stem><output_suffix>",
    "  # output_suffix: _test.py",
    "",
    "  # pytest fixture (usually in conftest.py) returning a statebook Host",
    "  # host_fixture: statebook_host",
    "",
    "  # Delay between characters typed while a command runs",
    "  # type_stagger_ms: 20",
    "",
    "  # Fail instead of waiting forever for a predecessor test",
    "  # wait_timeout_ms: 10000",
    "",
    "  # default_behavior:",
    "  #   mode: normal",
    "  #   behavior: caret" ]

def settingsTemplate : Text := Text.unlines (settingsTemplateLines.map String.toList) ++ ['\n']

end CursorSpec.CommandLine
