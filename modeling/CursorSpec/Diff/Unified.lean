/-
Unified differences of two lists of lines: changed lines with up to three equal lines around them, in hunks.

There are no lines at all iff the two lists match throughout.
-/
import CursorSpec.Diff.Matching
import CursorSpec.Text.Basic

namespace CursorSpec.Diff

/-- a stretch of either list, equal or changed; each stretch runs from its start up to its stop -/
structure Stretch where
  equal : Bool
  leftStart : Nat
  leftStop : Nat
  rightStart : Nat
  rightStop : Nat
  deriving DecidableEq, Inhabited

/-- the stretches between and in matching blocks, up to the ends of both lists -/
def stretchesFrom (leftEnd rightEnd : Nat) : (left right : Nat) → List Block → List Stretch
  | i, j, [] => if i < leftEnd ∨ j < rightEnd then [⟨false, i, leftEnd, j, rightEnd⟩] else []
  | i, j, x :: xs =>
    (if i < x.left ∨ j < x.right then [⟨false, i, x.left, j, x.right⟩] else []) ++
      ⟨true, x.left, x.left + x.size, x.right, x.right + x.size⟩ ::
      stretchesFrom leftEnd rightEnd (x.left + x.size) (x.right + x.size) xs

def context : Nat := 3

/-- an equal stretch cut to its last lines -/
def Stretch.tail (s : Stretch) : Stretch :=
  { s with leftStart := max s.leftStart (s.leftStop - context), rightStart := max s.rightStart (s.rightStop - context) }

/-- an equal stretch cut to its first lines -/
def Stretch.head (s : Stretch) : Stretch :=
  { s with leftStop := min s.leftStop (s.leftStart + context), rightStop := min s.rightStop (s.rightStart + context) }

/-- the first stretch changed where it is equal -/
def onFirst (f : Stretch → Stretch) : List Stretch → List Stretch
  | [] => []
  | s :: ss => (if s.equal then f s else s) :: ss

/-- hunks: a long equal stretch ends one and begins the next -/
def hunksFrom : (hunk : List Stretch) → List Stretch → List (List Stretch)
  | hunk, [] => [hunk]
  | hunk, s :: ss =>
    if s.equal && 2 * context < s.leftStop - s.leftStart then (hunk ++ [s.head]) :: hunksFrom [s.tail] ss
    else hunksFrom (hunk ++ [s]) ss

/-- the hunks that hold a change -/
def hunks (ss : List Stretch) : List (List Stretch) :=
  let ss := onFirst Stretch.tail ss
  let ss := (onFirst Stretch.head ss.reverse).reverse
  (hunksFrom [] ss).filter fun h => h.any fun s => !s.equal

/-- a range of lines in a hunk's head: counted from one, its length left out where it is one -/
def rangeText (start stop : Nat) : Text :=
  let size := stop - start
  if size = 1 then Text.ofNat (start + 1)
  else Text.ofNat (if size = 0 then start else start + 1) ++ "," ++ Text.ofNat size

def hunkLines (a b : List Text) (h : List Stretch) : List Text :=
  let first := h.head?.getD default
  let last := h.getLast?.getD default
  let range (c : Char) (start stop : Nat) : Text := c :: rangeText start stop
  let top : Text :=
    "@@ " ++ range '-' first.leftStart last.leftStop ++ " " ++ range '+' first.rightStart last.rightStop ++ " @@"
  top :: h.flatMap fun s =>
    let left := (a.take s.leftStop).drop s.leftStart
    let right := (b.take s.rightStop).drop s.rightStart
    if s.equal then left.map (' ' :: ·) else left.map ('-' :: ·) ++ right.map ('+' :: ·)

/-- the unified difference of two lists of lines under two names -/
def unified (leftName rightName : Text) (a b : List Text) : List Text :=
  match hunks (stretchesFrom a.length b.length 0 0 (blocks a b)) with
  | [] => []
  | hs => ("--- " ++ leftName) :: ("+++ " ++ rightName) :: hs.flatMap (hunkLines a b)

end CursorSpec.Diff
