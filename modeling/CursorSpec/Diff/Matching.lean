/-
Matching blocks of two lists: the longest common run, then recursively the longest ones before and after it.

Where the second list is long, elements that fill more than a hundredth of it do not start runs; they still extend
runs that others start. Of runs of one length the one that starts first wins, in the first list and then in the second.
-/

namespace CursorSpec.Diff

/-- a common run: its start in either list and its length -/
structure Block where
  left : Nat
  right : Nat
  size : Nat
  deriving DecidableEq, Inhabited

/-- whether an element occurs too often in a long list to start a run -/
def isPopular {α : Type} [BEq α] (b : List α) (x : α) : Bool :=
  200 ≤ b.length && b.length / 100 + 1 < b.count x

section Search

variable {α : Type} [BEq α] (rare : α → Bool)

/-- lengths of the runs that end at `x` and at each element of `b`, from the lengths one row up and one to the left -/
def runRow (x : α) : (diagonal : Nat) → List α → List Nat → List Nat
  | _, [], _ => []
  | d, y :: b, [] => (if x == y && rare y then d + 1 else 0) :: runRow x 0 b []
  | d, y :: b, r :: row => (if x == y && rare y then d + 1 else 0) :: runRow x r b row

/-- the best run after looking at a row; later runs must be longer -/
def bestOfRow (i : Nat) : (j : Nat) → List Nat → Block → Block
  | _, [], best => best
  | j, k :: row, best =>
    bestOfRow i (j + 1) row (if best.size < k then ⟨i + 1 - k, j + 1 - k, k⟩ else best)

/-- the longest run of rare elements -/
def longestRun (b : List α) : (i : Nat) → List α → List Nat → Block → Block
  | _, [], _, best => best
  | i, x :: a, row, best =>
    let row := runRow rare x 0 b row
    longestRun b (i + 1) a row (bestOfRow i 0 row best)

/-- the number of equal elements at the heads of two lists -/
def commonHead : List α → List α → Nat
  | x :: a, y :: b => if x == y then commonHead a b + 1 else 0
  | _, _ => 0

/-- the longest run, extended at both ends over whatever is equal -/
def longestMatch (a b : List α) : Block :=
  let best := longestRun rare b 0 a [] ⟨0, 0, 0⟩
  let back := commonHead (a.take best.left).reverse (b.take best.right).reverse
  let ahead := commonHead (a.drop (best.left + best.size)) (b.drop (best.right + best.size))
  ⟨best.left - back, best.right - back, best.size + back + ahead⟩

/-- the blocks of two lists that begin at the given places -/
def blocksFrom : (fuel : Nat) → (left right : Nat) → List α → List α → List Block
  | 0, _, _, _, _ => []
  | fuel + 1, left, right, a, b =>
    let m := longestMatch rare a b
    if m.size = 0 then []
    else
      blocksFrom fuel left right (a.take m.left) (b.take m.right) ++
        ⟨left + m.left, right + m.right, m.size⟩ ::
        blocksFrom fuel (left + m.left + m.size) (right + m.right + m.size) (a.drop (m.left + m.size))
          (b.drop (m.right + m.size))

end Search

/-- blocks that touch joined into one -/
def mergeBlocks : List Block → List Block
  | [] => []
  | x :: xs =>
    match mergeBlocks xs with
    | [] => [x]
    | y :: ys =>
      if x.left + x.size = y.left ∧ x.right + x.size = y.right then ⟨x.left, x.right, x.size + y.size⟩ :: ys
      else x :: y :: ys

def blocks {α : Type} [BEq α] (a b : List α) : List Block :=
  mergeBlocks (blocksFrom (fun x => !isPopular b x) (a.length + 1) 0 0 a b)

def matched {α : Type} [BEq α] (a b : List α) : Nat := (blocks a b).foldl (fun n k => n + k.size) 0

end CursorSpec.Diff
