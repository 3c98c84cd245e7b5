/-
Paths: names from a directory on.

A path starts at the working directory, whether it says so or not, or lies outside of it. Repeated slashes and single
dots mean nothing and are not kept; a double dot is kept, since what it leads to depends on the files. Only where a path
is given another last name, that name stays as it is spelled, and `plain` reads it.

A text does not know the full name of the working directory. One that begins with a slash is taken to lie outside, also
where it spells that name (`parse`); from inside, full paths come about by joining and resolving.
-/
import CursorSpec.Text.Basic

namespace CursorSpec

/-- where a path starts -/
inductive Anchor where
  /-- at the working directory, without saying so -/
  | relative
  /-- at the working directory, by its full name -/
  | working
  /-- at the root of everything; what is there is not known -/
  | outside
  deriving DecidableEq, Inhabited

structure Path where
  anchor : Anchor
  parts : List Text
  deriving DecidableEq, Inhabited

namespace Path

/-- the working directory -/
def here : Path := ⟨.relative, []⟩

/-- the working directory by its full name -/
def working : Path := ⟨.working, []⟩

/-- whether a text is a path from the root of everything -/
def isAbsolute (t : Text) : Bool := t.head? = some '/'

def partsOf (t : Text) : List Text := (Text.splitOn '/' t).filter fun p => !p.isEmpty && p ≠ ['.']

def parse (t : Text) : Path := ⟨if isAbsolute t then .outside else .relative, partsOf t⟩

/-- one path from another; a full one leaves nothing of the other -/
def join (base p : Path) : Path := if p.anchor = .relative then ⟨base.anchor, base.parts ++ p.parts⟩ else p

/-- a path as a text, given the full name of the working directory -/
def text (root : Text) (p : Path) : Text :=
  match p.anchor with
  | .relative => if p.parts.isEmpty then ['.'] else Text.join ['/'] p.parts
  | .working => Text.join ['/'] (root :: p.parts)
  | .outside => '/' :: Text.join ['/'] p.parts

def name (p : Path) : Text := p.parts.getLast?.getD []

/-- the last name without its extension; a dot at either end begins none -/
def stem (p : Path) : Text :=
  let n := p.name
  let extension := n.reverse.takeWhile (· ≠ '.')
  let before := n.take (n.length - extension.length - 1)
  if extension.isEmpty || extension.length = n.length || before.isEmpty then n else before

/-- the path with another last name, which must be one; single dots before it are kept -/
def withName? (p : Path) (name : Text) : Option Path :=
  let isName := !name.isEmpty && name.getLast? ≠ some '/' && !isAbsolute name && (partsOf name).length = 1
  if p.parts.isEmpty || !isName then none
  else some ⟨p.anchor, p.parts.dropLast ++ [name]⟩

/-- the path without single dots in its last name -/
def plain (p : Path) : Path := ⟨p.anchor, p.parts.dropLast ++ partsOf p.name⟩

def child (p : Path) (name : Text) : Path := ⟨p.anchor, p.parts ++ [name]⟩

/-- whether a zero character stands in a path, which no file system takes -/
def hasZero (p : Path) : Bool := p.parts.any fun n => n.contains Text.zero

/-- what paths are ordered by: their names, those of full paths after the root -/
def key (p : Path) : List Text := if p.anchor = .relative then p.parts else ['/'] :: p.parts

/-- order by names, one after the other -/
def le (p q : Path) : Bool := Text.leAll p.key q.key

/-- names without double dots: each takes away the name before it -/
def withoutParents (parts : List Text) : List Text :=
  (parts.foldl (fun acc p => if p = ['.', '.'] then acc.drop 1 else p :: acc) []).reverse

/-- a path by its full name -/
def resolve (p : Path) : Path :=
  ⟨if p.anchor = .outside then .outside else .working, withoutParents p.parts⟩

end Path

end CursorSpec
