/-
The files below the working directory.

A tree maps places, lists of names, to files and directories; the working directory itself is always there. A path
leads to a place by walking: every name before the last must be a directory, also where a double dot follows it. What
lies outside of the working directory is not there.

Simplified: names and paths may have any length, all that is there may be read and written over, there is room for
every file, and there are no links.
-/
import CursorSpec.Files.Path
import CursorSpec.Files.Utf8

namespace CursorSpec

/-- what is in a file: a text, or bytes that may not be one -/
inductive Content where
  | text (t : Text)
  | bytes (bs : List Nat)
  deriving DecidableEq, Inhabited

namespace Content

def decode? : Content → Option Text
  | .text t => some t
  | .bytes bs => Utf8.decode? bs

end Content

/-- why a file cannot be read or written -/
inductive FileFault where
  | notFound
  | isDirectory
  | notDirectory
  | alreadyExists
  | undecodable
  /-- a name with a zero character -/
  | zeroCharacter
  deriving DecidableEq, Inhabited

/-- names from the working directory down -/
abbrev Place := List Text

inductive Item where
  | file (c : Content)
  | directory
  deriving DecidableEq, Inhabited

/-- files and directories, and the full name of the working directory -/
structure FileTree where
  root : Text
  items : List (Place × Item)
  deriving DecidableEq, Inhabited

namespace FileTree

/-- a working directory with nothing in it -/
def empty (root : Text) : FileTree := ⟨root, []⟩

/-- what is at a place -/
def item? (t : FileTree) (p : Place) : Option Item :=
  if p.isEmpty then some .directory else (t.items.find? fun i => i.1 = p).map (·.2)

/-- something put at a place, in place of what is there -/
def put (t : FileTree) (p : Place) (i : Item) : FileTree :=
  { t with items := t.items.filter (fun j => j.1 ≠ p) ++ [(p, i)] }

/-! ## Paths -/

/-- the place that names lead to from a directory -/
def walk (t : FileTree) (base : Place) : List Text → Except FileFault Place
  | [] => .ok base
  | n :: ns =>
    if t.item? base ≠ some .directory then .error .notDirectory
    else if n = ['.', '.'] then (if base.isEmpty then .error .notFound else t.walk base.dropLast ns)
    else if (t.item? (base ++ [n])).isNone then .error .notFound
    else t.walk (base ++ [n]) ns

def place (t : FileTree) (p : Path) : Except FileFault Place :=
  if p.anchor = .outside then .error .notFound else t.walk [] p.parts

/-- what a path leads to -/
def at? (t : FileTree) (p : Path) : Option Item := (t.place p).toOption.bind t.item?

def contains (t : FileTree) (p : Path) : Bool := (t.at? p).isSome

def isFile (t : FileTree) (p : Path) : Bool :=
  match t.at? p with
  | some (.file _) => true
  | _ => false

def isDirectory (t : FileTree) (p : Path) : Bool := t.at? p = some .directory

def namesIn (t : FileTree) (p : Path) : List Text :=
  match t.place p with
  | .error _ => []
  | .ok d => t.items.filterMap fun i => if i.1.dropLast = d then i.1.getLast? else none

/-- a directory and those at any depth below it, as paths from it -/
def directoriesFrom (t : FileTree) (p : Path) : List Path :=
  match t.place p with
  | .error _ => []
  | .ok d => p :: t.items.filterMap fun
    | (q, .directory) =>
      if d.isPrefixOf q && d.length < q.length then some ⟨p.anchor, p.parts ++ q.drop d.length⟩ else none
    | (_, .file _) => none

/-! ## Reading and writing -/

/-- the text of a file, with line feeds at the ends of its lines -/
def read (t : FileTree) (p : Path) : Except FileFault Text := do
  match t.item? (← t.place p) with
  | some (.file c) =>
    match c.decode? with
    | some text => return Text.lineFeeds text
    | none => .error .undecodable
  | some .directory => .error .isDirectory
  | none => .error .notFound

/-- a text written to a file in a directory that is there -/
def write (t : FileTree) (p : Path) (text : Text) : Except FileFault FileTree := do
  if p.hasZero then .error .zeroCharacter
  else match p.parts.getLast? with
  | none => .error .isDirectory
  | some name =>
    let d ← t.place ⟨p.anchor, p.parts.dropLast⟩
    if t.item? d ≠ some .directory then .error .notDirectory
    else if name = ['.', '.'] || t.item? (d ++ [name]) = some .directory then .error .isDirectory
    else return t.put (d ++ [name]) (.file (.text text))

/-- a directory made with all directories it is in; it may be there already -/
def makeDirectoryFrom (t : FileTree) (base : Place) : List Text → Except FileFault FileTree
  | [] => .ok t
  | n :: ns =>
    if n = ['.', '.'] then t.makeDirectoryFrom base.dropLast ns
    else match t.item? (base ++ [n]) with
      | some .directory => t.makeDirectoryFrom (base ++ [n]) ns
      | some (.file _) => .error (if ns.isEmpty then .alreadyExists else .notDirectory)
      | none => (t.put (base ++ [n]) .directory).makeDirectoryFrom (base ++ [n]) ns

def makeDirectory (t : FileTree) (p : Path) : Except FileFault FileTree :=
  if p.anchor = .outside then .error .notFound else t.makeDirectoryFrom [] p.parts

/-- a file put in place, with the directories it is in -/
def plant (t : FileTree) (p : Path) (c : Content) : Except FileFault FileTree := do
  let parent : Path := ⟨p.anchor, p.parts.dropLast⟩
  let t ← t.makeDirectory parent
  return t.put ((← t.place parent) ++ [p.name]) (.file c)

/-- the files that are not in another tree, or not with the same text -/
def changedFrom (t old : FileTree) : List (Place × Content) :=
  t.items.filterMap fun
    | (p, .file c) => if old.item? p = some (.file c) then none else some (p, c)
    | (_, .directory) => none

end FileTree

end CursorSpec
