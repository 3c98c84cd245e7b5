/-
The commands of the program: building, checking, compiling and showing specs, starting a project and showing its
settings.

A command takes the files as they are and leaves them as it makes them. Arguments that it does not take end it with
exit code 2 and no output; a failure it reports, or one that stops it, with exit code 1.
-/
import CursorSpec.Build.Basic
import CursorSpec.CommandLine.Arguments
import CursorSpec.CommandLine.Markup
import CursorSpec.CommandLine.Template
import CursorSpec.Spec.Dump

namespace CursorSpec.CommandLine

/-- how a command ends -/
structure CommandResult where
  exit : Nat
  stdout : Text
  /-- what stopped it, if it gave no answer of its own -/
  abort : Option Abort
  tree : FileTree
  deriving DecidableEq, Inhabited

/-! ## Answers -/

/-- wrong arguments -/
def misused (t : FileTree) : CommandResult := ⟨2, [], none, t⟩

/-- an answer, or what stopped it -/
def answer (exit : Nat) (t : FileTree) (out : Except Abort Text) : CommandResult :=
  match out with
  | .ok s => ⟨exit, s, none, t⟩
  | .error a => ⟨1, [], some a, t⟩

/-- a line with markup -/
def line (t : Text) : Except Abort Text :=
  match Markup.render? t with
  | some s => .ok (s ++ ['\n'])
  | none => .error .markup

def panel (title content : Text) : Except Abort Text := do
  let body ← match Markup.render? content with
    | some s => .ok s
    | none => .error .markup
  let trimEnd (l : Text) : Text := (l.reverse.dropWhile (· = ' ')).reverse
  let ls := (Text.lines body).map fun l => '|' :: ' ' :: trimEnd l
  let rows : List Text := ("[panel] " ++ title) :: ls
  return Text.unlines rows ++ "\n[end]\n"

/-! ## Options -/

def projectForm : OptionForm := ⟨"project", some 'p', true⟩
def configForm : OptionForm := ⟨"config", some 'c', true⟩
def checkForm : OptionForm := ⟨"check", none, false⟩
def outputForm : OptionForm := ⟨"output", some 'o', true⟩
def prettyForm : OptionForm := ⟨"pretty", none, false⟩
def helpForm : OptionForm := ⟨"help", none, false⟩
def debugForm : OptionForm := ⟨"debug", none, false⟩
def versionForm : OptionForm := ⟨"version", none, false⟩

/-- whether a text ends as only the path of a directory may -/
def endsLikeDirectory (path : Text) : Bool := ((Text.splitOn '/' path).getLast?).any fun n => n.isEmpty || n = ['.']

def isFile (t : FileTree) (path : Text) : Bool := !endsLikeDirectory path && t.isFile (.parse path)

/-- whether a text names something that is there -/
def isThere (t : FileTree) (path : Text) : Bool := !path.isEmpty && (isFile t path || t.isDirectory (.parse path))

/-- whether the path that an option gives, if any, is there -/
def optionExists (t : FileTree) (p : Parsed) (name : Text) : Bool := (p.option? name).all (isThere t)

def pathOption? (p : Parsed) (name : Text) : Option Path := (p.option? name).map Path.parse

def projectRoot (p : Parsed) : Path := (pathOption? p "project").getD .working

/-! ## Commands -/

/-- every spec compiled, and written unless it is only checked -/
def build (t : FileTree) (p : Parsed) : CommandResult :=
  if !(p.arguments.all (isThere t) && optionExists t p "project" && optionExists t p "config") then misused t
  else match Settings.load t (pathOption? p "config") (projectRoot p) with
  | .error a => answer 1 t (.error a)
  | .ok settings =>
    let targets := if p.arguments.isEmpty then settings.resolvedPaths (projectRoot p) else p.arguments.map Path.parse
    match Build.build settings (!p.has "check") t targets with
    | (t, .error a) => answer 1 t (.error a)
    | (t, .ok []) => answer 0 t (line ("[yellow]No *" ++ settings.specExtension ++ " files found[/yellow]"))
    | (t, .ok rs) =>
      let report := Markup.escape (Build.report t.root rs)
      if rs.all (·.outcome.isOk) then answer 0 t (panel "Build Succeeded" report)
      else answer 1 t (panel "Build Failed" report)

def resolveFile (t : FileTree) (p : Path) : Except Abort (Except Text ResolvedSpec) := do
  let text ← (t.read p).mapError .file
  Build.orReport do (← Spec.read text).resolve

/-- a command on one spec file: a failure is reported after some words -/
def onFile (t : FileTree) (p : Parsed) (words : Text) (use : Path → ResolvedSpec → CommandResult) : CommandResult :=
  match p.arguments with
  | [path] =>
    if !isFile t path then misused t
    else match resolveFile t (.parse path) with
    | .error a => answer 1 t (.error a)
    | .ok (.error m) => answer 1 t (line (words ++ Markup.escape m))
    | .ok (.ok r) => use (.parse path) r
  | _ => misused t

/-- whether a spec is valid; documents are not looked at -/
def check (t : FileTree) (p : Parsed) : CommandResult :=
  onFile t p "[red]✗[/red] Invalid: " fun _ r =>
    answer 0 t (line ("[green]✓[/green] Valid: " ++ Text.ofNat r.setups.length ++ " initial states, " ++
      Text.ofNat r.tests.length ++ " transitions"))

/-- the test module of one spec, shown or written to a file -/
def compile (t : FileTree) (p : Parsed) : CommandResult :=
  match p.arguments with
  | [path] =>
    if !(isFile t path && optionExists t p "config") then misused t
    else match Settings.load t (pathOption? p "config") .working with
    | .error a => answer 1 t (.error a)
    | .ok settings =>
      match Build.compileFile settings t (.parse path) with
      | .error a => answer 1 t (.error a)
      | .ok (.error m) => answer 1 t (line ("[red]Compile error:[/red] " ++ Markup.escape m))
      | .ok (.ok s) =>
        match pathOption? p "output" with
        | none => answer 0 t (.ok s.source)
        | some output =>
          match t.write output s.source with
          | .error f => answer 1 t (.error (.file f))
          | .ok t => answer 0 t (line ("[green]✓[/green] Compiled to " ++ output.text t.root))
  | _ => misused t

/-- the resolved spec as a value -/
def inspect (t : FileTree) (p : Parsed) : CommandResult :=
  onFile t p "[red]Parse error:[/red] " fun _ r => answer 0 t (.ok (r.toValue.prettyJson ++ ['\n']))

/-- where the specs of a new project are -/
def newSpecs : Path := ⟨.relative, ["tests", "specs"]⟩

def newSettings : Path := ⟨.relative, ["statebook.yaml"]⟩

def init (t : FileTree) (p : Parsed) : CommandResult :=
  if !p.arguments.isEmpty then misused t
  else
    let made : Except FileFault (FileTree × Text) := do
      let t ← t.makeDirectory newSpecs
      if t.contains newSettings then return (t, "[yellow]-[/yellow] statebook.yaml already exists")
      else return (← t.write newSettings settingsTemplate, "[green]✓[/green] Created statebook.yaml")
    match made with
    | .error f => answer 1 t (.error (.file f))
    | .ok (t, settingsLine) =>
      answer 0 t do
        let first ← line "[green]✓[/green] Created tests/specs/"
        let second ← line settingsLine
        let third ← line "\n[dim]statebook initialized. Write specs in tests/specs/[/dim]"
        return first ++ second ++ third

def config (t : FileTree) (p : Parsed) : CommandResult :=
  if !(p.arguments.isEmpty && optionExists t p "project") then misused t
  else match Settings.load t none (projectRoot p) with
  | .error a => answer 1 t (.error a)
  | .ok settings => answer 0 t (panel "statebook Config" settings.toValue.prettyJson)

/-- a command by its name, with the options it takes -/
def command? (name : Text) : Option (List OptionForm × (FileTree → Parsed → CommandResult)) :=
  match name.str with
  | "build" => some ([projectForm, configForm, checkForm, helpForm], build)
  | "check" => some ([helpForm], check)
  | "compile" => some ([outputForm, configForm, helpForm], compile)
  | "inspect" => some ([prettyForm, helpForm], inspect)
  | "init" => some ([helpForm], init)
  | "config" => some ([projectForm, helpForm], config)
  | _ => none

def version : Text := "0.1.0"

def dispatch (t : FileTree) (name : Text) (args : List Text) : CommandResult :=
  match command? name with
  | none => misused t
  | some (forms, act) =>
    match parse forms true args with
    | none => misused t
    | some p => if p.has "help" then answer 0 t (.ok []) else act t p

def run (t : FileTree) (argv : List Text) : CommandResult :=
  match parse [debugForm, versionForm, helpForm] false argv with
  | none => misused t
  | some p =>
    if p.has "version" then answer 0 t (.ok ("statebook, version " ++ version ++ ['\n']))
    else if p.has "help" || argv.isEmpty then answer 0 t (.ok [])
    else match p.arguments with
      | [] => misused t
      | name :: args => dispatch t name args

end CursorSpec.CommandLine
