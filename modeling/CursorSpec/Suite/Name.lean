/-
Names of test functions: titles reduced to lower-case words, and numbered where a name is taken.

`unique` tries the name itself and then the numbers from two on; among one more number than there are taken names one
is free, so the search has that length.
-/
import CursorSpec.Text.Word

namespace CursorSpec.Suite

/-- runs of characters other than ASCII letters and digits replaced by one underscore each -/
def underscored : Text → Text
  | [] => []
  | c :: t =>
    if Text.isAsciiAlnum c then c :: underscored t
    else if t.head?.any fun d => !Text.isAsciiAlnum d then underscored t
    else '_' :: underscored t

/-- a title as a part of a name -/
def slug (title : Text) : Text :=
  let s := (Text.trim (· = '_') (underscored title)).map Char.toLower
  if s.isEmpty then "state" else s

/-- a name with a number -/
def numbered (base : Text) (n : Nat) : Text := base ++ '_' :: Text.ofNat n

/-- the first of the numbered names from `n` on that is free, looking at `tries` of them -/
def firstFree (used : List Text) (base : Text) : (tries n : Nat) → Text
  | 0, n => numbered base n
  | tries + 1, n => if used.contains (numbered base n) then firstFree used base tries (n + 1) else numbered base n

/-- a name, with a number if it is taken -/
def unique (used : List Text) (base : Text) : Text :=
  if used.contains base then firstFree used base used.length 2 else base

/-- the name of the function that tests a transition, as long as it is not taken -/
def baseName (comesAfter title : Text) : Text := "test_" ++ slug comesAfter ++ "_to_" ++ slug title

end CursorSpec.Suite
