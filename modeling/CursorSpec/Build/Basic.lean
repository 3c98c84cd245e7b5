/-
Building: every spec file becomes a test module beside it.

A spec that does not compile is reported and leaves no trace; the others are written all the same. What stops a build
altogether is a file that cannot be read as text or written, arguments that the expression reader refuses to look at,
and a suffix that makes no file name; the modules written before that remain. An extension that makes no pattern stops
it before the first spec, if a directory is named.
-/
import CursorSpec.Files.Discover
import CursorSpec.Settings.Load
import CursorSpec.Suite.Module

namespace CursorSpec

inductive BuildOutcome where
  | written (output : Path) (suite : Suite)
  | checked (suite : Suite)
  | failed (message : Text)
  deriving DecidableEq, Inhabited

namespace BuildOutcome

def isOk : BuildOutcome → Bool
  | .failed _ => false
  | _ => true

def status : BuildOutcome → Text
  | .written .. => "written"
  | .checked _ => "checked"
  | .failed _ => "failed"

def output? : BuildOutcome → Option Path
  | .written p _ => some p
  | _ => none

def suite? : BuildOutcome → Option Suite
  | .written _ s | .checked s => some s
  | .failed _ => none

def message? : BuildOutcome → Option Text
  | .failed m => some m
  | _ => none

end BuildOutcome

structure BuildResult where
  source : Path
  outcome : BuildOutcome
  deriving DecidableEq, Inhabited

namespace Build

/-- a compilation that failed: reported, unless the problem is of no documented kind -/
def orReport {α : Type} (x : Except Problem α) : Except Abort (Except Text α) :=
  match x with
  | .ok a => .ok (.ok a)
  | .error p => if p.cause.kind = .internal then .error .refusedArguments else .ok (.error p.message)

/-- where the module of a spec file is written -/
def outputPath (settings : Settings) (source : Path) : Except Abort Path :=
  let name := source.stem ++ settings.generator.outputSuffix
  match source.withName? name with
  | some p => .ok p
  | none => .error (.invalidName name)

def compileFile (settings : Settings) (t : FileTree) (p : Path) : Except Abort (Except Text Suite) := do
  orReport (Suite.compile settings p.name (← (t.read p).mapError .file))

def buildFile (settings : Settings) (write : Bool) (t : FileTree) (p : Path) :
    Except Abort (FileTree × BuildResult) := do
  match ← compileFile settings t p with
  | .error m => return (t, ⟨p, .failed m⟩)
  | .ok s =>
    if !write then return (t, ⟨p, .checked s⟩)
    else
      let target ← outputPath settings p
      let t ← (t.write target.plain s.source).mapError .file
      return (t, ⟨p, .written target s⟩)

def buildAll (settings : Settings) (write : Bool) (t : FileTree) :
    List Path → FileTree × Except Abort (List BuildResult)
  | [] => (t, .ok [])
  | p :: ps =>
    match buildFile settings write t p with
    | .error a => (t, .error a)
    | .ok (t, r) =>
      let (t, rs) := buildAll settings write t ps
      (t, rs.map (r :: ·))

/-- the spec files that paths stand for, built -/
def build (settings : Settings) (write : Bool) (t : FileTree) (paths : List Path) :
    FileTree × Except Abort (List BuildResult) :=
  if t.refuses settings.specExtension paths then (t, .error .invalidPattern)
  else buildAll settings write t (t.discover settings.specExtension paths).found

/-! ## Reports -/

def reportLines (root : Text) (r : BuildResult) : List Text :=
  match r.outcome with
  | .failed m => ("  ✗ " ++ r.source.text root) :: (Text.lines m).map ("      " ++ ·)
  | o =>
    let target := (o.output?.map Path.name).getD "checked"
    let count := (o.suite?.map fun s => s.tests.length).getD 0
    ["  ✓ " ++ r.source.text root ++ " -> " ++ target ++ " (" ++ Text.ofNat count ++ " tests)"]

/-- the line that sums up -/
def summaryLine (rs : List BuildResult) : Text :=
  let built := rs.countP (·.outcome.isOk)
  let tests := rs.foldl (fun n r => n + (r.outcome.suite?.map fun s => s.tests.length).getD 0) 0
  Text.ofNat built ++ " built, " ++ Text.ofNat (rs.length - built) ++ " failed, " ++ Text.ofNat tests ++ " tests (" ++
    Text.ofNat rs.length ++ " files)"

def report (root : Text) (rs : List BuildResult) : Text :=
  Text.unlines (rs.flatMap (reportLines root)) ++ '\n' :: summaryLine rs

end Build

end CursorSpec
