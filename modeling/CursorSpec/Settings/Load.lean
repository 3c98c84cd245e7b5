/-
Loading settings from a file.

The file is the one that is asked for, or the first one there of several names; without one there are only defaults.
An empty document is an empty section.
-/
import CursorSpec.Files.Tree
import CursorSpec.Settings.Check
import CursorSpec.Yaml.Reader

namespace CursorSpec

/-- why a program stops without an answer of its own -/
inductive Abort where
  | file (f : FileFault)
  | yaml (f : Yaml.Fault)
  | settings (fs : List Finding)
  /-- a suffix that makes no file name -/
  | invalidName (name : Text)
  /-- an extension that makes no pattern of paths -/
  | invalidPattern
  /-- arguments that the expression reader refuses to look at -/
  | refusedArguments
  /-- a style that ends without having begun -/
  | markup
  deriving DecidableEq, Inhabited

namespace Settings

/-- names of settings files, in the order they are looked for -/
def fileNames : List Text := ["statebook.yaml", "statebook.yml", ".statebook.yaml", ".statebook.yml"]

/-- the settings file of a project -/
def findFile? (t : FileTree) (root : Path) : Option Path :=
  (fileNames.map fun n => root.join ⟨.relative, [n]⟩).find? t.contains

def ofDocument (text : Text) : Except Abort Settings := do
  let v ← (Yaml.read text).mapError .yaml
  (ofValue (if v.isEmpty then .dict [] else v)).mapError .settings

/-- the settings of a project, from a given file or the one that is found -/
def load (t : FileTree) (file : Option Path) (root : Path) : Except Abort Settings := do
  match file <|> findFile? t root with
  | none => return .default
  | some p => if t.contains p then ofDocument (← (t.read p).mapError .file) else return .default

/-- a path where specs are, by its full name; one that is full already stays as it is spelled -/
def resolvedText (rootName : Text) (root : Path) (spelled : Text) : Text :=
  if Path.isAbsolute spelled then spelled else (root.join (Path.parse spelled)).resolve.text rootName

/-- the paths where specs are, by their full names -/
def resolvedTexts (s : Settings) (rootName : Text) (root : Path) : List Text :=
  s.specPaths.map (resolvedText rootName root)

/-- the paths where specs are -/
def resolvedPaths (s : Settings) (root : Path) : List Path :=
  s.specPaths.map fun p => if Path.isAbsolute p then Path.parse p else (root.join (Path.parse p)).resolve

end Settings

end CursorSpec
