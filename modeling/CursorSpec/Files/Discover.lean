/-
Finding spec files: those that are named, and those below named directories that have the extension.

Every file is found once, and they come in the order of their names. Paths that lead nowhere are reported.

A star before the extension makes a pattern of paths, which is followed from each named directory and all those below
it. An extension may have slashes and stars of its own, so the pattern may have several steps, and may be refused
(`refuses`); it is looked at for directories only.
-/
import CursorSpec.Files.Glob
import CursorSpec.Files.Tree

namespace CursorSpec

/-- the paths that were found, and those that lead nowhere -/
structure Discovery where
  found : List Path
  missing : List Path
  deriving DecidableEq, Inhabited

namespace FileTree

/-- the names by which one step of a pattern may go on from a directory -/
def namesFor (t : FileTree) (p : Path) : Glob.Component → List Text
  | .matching ps => (t.namesIn p).filter (Glob.matchPieces ps)
  | .named n => [n]
  | .below | .slash => []

/-- whether a step may end at a path: it leads somewhere, and to a directory unless it is the last step -/
def admits (t : FileTree) (last : Bool) (p : Path) : Bool := if last then t.contains p else t.isDirectory p

/-- what the steps of a pattern lead to from a directory -/
def select (t : FileTree) : List Glob.Component → Path → List Path
  | [], p => [p]
  | .slash :: _, p => [p]
  | .below :: cs, p => (t.directoriesFrom p).flatMap (t.select cs)
  | c :: cs, p => (((t.namesFor p c).map p.child).filter (t.admits cs.isEmpty)).flatMap (t.select cs)

def pattern (extension : Text) : Text := '*' :: extension

/-- the files that a path stands for -/
def specsAt (t : FileTree) (extension : Text) (p : Path) : List Path :=
  if t.isFile p then [p]
  else if t.isDirectory p then
    match Glob.components? (pattern extension) with
    | some cs => (t.select (.below :: cs) p).filter t.isFile
    | none => []
  else []

/-- whether the pattern of an extension is refused at some directory -/
def refuses (t : FileTree) (extension : Text) (paths : List Path) : Bool :=
  (Glob.components? (pattern extension)).isNone && paths.any t.isDirectory

/-- the elements of a list, each once -/
def distinct {α : Type} [BEq α] (xs : List α) : List α :=
  xs.foldl (fun acc x => if acc.contains x then acc else acc ++ [x]) []

/-- the spec files that paths stand for -/
def discover (t : FileTree) (extension : Text) (paths : List Path) : Discovery where
  found := sortBy Path.le (distinct (paths.flatMap (t.specsAt extension)))
  missing := paths.filter fun p => !t.contains p

def missingWarning (t : FileTree) (p : Path) : Text := "spec path " ++ p.text t.root ++ " does not exist"

end FileTree

end CursorSpec
