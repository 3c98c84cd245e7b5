/-
Texts are lists of characters, and every length, offset and column counts characters.

`lines` cuts a text at its line feeds and `unlines` joins the pieces again; `unlines_lines` says that nothing is
lost, `lines_ne_nil` that there is always a first line, and `lines_concat` that the last one may be empty. The order of
texts is the order of code points.
-/

namespace CursorSpec

/-- a text is its characters in order -/
abbrev Text := List Char

instance : Coe String Text := ⟨String.toList⟩

namespace Text

/-- a text as a string, for output -/
def str (t : Text) : String := String.ofList t

/-- the character that neither a module nor the name of a file may have -/
def zero : Char := Char.ofNat 0

/-! ## Lines -/

/-- the pieces between line feeds; a text without line feeds is one line -/
def lines : Text → List Text
  | [] => [[]]
  | c :: t =>
    if c = '\n' then [] :: lines t
    else match lines t with
      | [] => [[c]]
      | l :: ls => (c :: l) :: ls

/-- texts joined by a separator -/
def join (sep : Text) : List Text → Text
  | [] => []
  | [l] => l
  | l :: ls => l ++ sep ++ join sep ls

/-- lines joined by line feeds -/
def unlines (ls : List Text) : Text := join ['\n'] ls

theorem lines_ne_nil (t : Text) : lines t ≠ [] := by
  cases t with
  | nil => simp [lines]
  | cons c t =>
    unfold lines
    split
    · simp
    · split <;> simp

/-- A line feed at the end begins an empty line. -/
theorem lines_concat (t : Text) : lines (t ++ ['\n']) = lines t ++ [[]] := by
  induction t with
  | nil => rfl
  | cons c t ih =>
    rw [List.cons_append, lines, ih, lines]
    split
    · rfl
    · cases hl : lines t with
      | nil => exact absurd hl (lines_ne_nil t)
      | cons l ls => rfl

/-- Lines have no line feeds. -/
theorem notMem_of_mem_lines {t l : Text} (h : l ∈ lines t) : '\n' ∉ l := by
  induction t generalizing l with
  | nil =>
    obtain rfl := List.mem_singleton.1 h
    exact List.not_mem_nil
  | cons c t ih =>
    unfold lines at h
    split at h
    · rcases List.mem_cons.1 h with rfl | h
      · exact List.not_mem_nil
      · exact ih h
    · next hc =>
      split at h
      · next hnil => exact absurd hnil (lines_ne_nil t)
      · next m ms hms =>
        rcases List.mem_cons.1 h with rfl | h
        · rw [List.mem_cons, not_or]
          exact ⟨Ne.symm hc, ih (hms ▸ List.mem_cons_self)⟩
        · exact ih (hms ▸ List.mem_cons_of_mem m h)

theorem join_cons_cons (sep l m : Text) (ls : List Text) : join sep (l :: m :: ls) = l ++ sep ++ join sep (m :: ls) :=
  rfl

theorem join_cons_append (sep a l : Text) (ls : List Text) : join sep ((a ++ l) :: ls) = a ++ join sep (l :: ls) := by
  cases ls <;> simp [join]

/-- Cutting into lines loses nothing. -/
theorem unlines_lines (t : Text) : unlines (lines t) = t := by
  induction t with
  | nil => rfl
  | cons c t ih =>
    unfold lines
    split
    · next h =>
      subst h
      cases hl : lines t with
      | nil => exact absurd hl (lines_ne_nil t)
      | cons l ls => rw [hl] at ih; simp only [unlines, join_cons_cons] at *; simp [ih]
    · cases hl : lines t with
      | nil => exact absurd hl (lines_ne_nil t)
      | cons l ls =>
        rw [hl] at ih
        show join ['\n'] (([c] ++ l) :: ls) = c :: t
        rw [join_cons_append]
        exact congrArg (c :: ·) ih

theorem join_cons (sep l : Text) (ls : List Text) : join sep (l :: ls) = l ++ ls.flatMap (sep ++ ·) := by
  induction ls generalizing l with
  | nil => exact (List.append_nil l).symm
  | cons m ls ih => rw [join_cons_cons, ih m, List.flatMap_cons, List.append_assoc, List.append_assoc]

theorem unlines_cons (l : Text) (ls : List Text) : unlines (l :: ls) = l ++ ls.flatMap ('\n' :: ·) :=
  join_cons ['\n'] l ls

/-- With a line feed at the end, every line has its own. -/
theorem unlines_concat {ls : List Text} (h : ls ≠ []) : unlines ls ++ ['\n'] = ls.flatMap (· ++ ['\n']) := by
  cases ls with
  | nil => exact absurd rfl h
  | cons l ls =>
    rw [unlines_cons, List.flatMap_cons, List.append_assoc, List.append_assoc]
    refine congrArg (l ++ ·) ?_
    induction ls with
    | nil => rfl
    | cons m ls ih =>
      rw [List.flatMap_cons, List.flatMap_cons, List.append_assoc, ih nofun]
      simp

/-! ## Cutting and searching -/

def startsWith (t start : Text) : Bool := start.isPrefixOf t

theorem startsWith_iff {t start : Text} : startsWith t start = true ↔ start <+: t := List.isPrefixOf_iff_prefix

def endsWith (t ending : Text) : Bool := ending.isSuffixOf t

/-- what follows `start`, if the text begins with it -/
def afterStart? : (start t : Text) → Option Text
  | [], t => some t
  | _ :: _, [] => none
  | s :: start, c :: t => if s = c then afterStart? start t else none

theorem afterStart?_eq_some_iff {start t u : Text} : afterStart? start t = some u ↔ t = start ++ u := by
  induction start generalizing t with
  | nil => exact Option.some_inj
  | cons s start ih =>
    cases t with
    | nil => simp [afterStart?]
    | cons c t =>
      unfold afterStart?
      split
      · next h => rw [ih, h, List.cons_append, List.cons.injEq, eq_self, true_and]
      · next h => simp [Ne.symm h]

/-- the text before and after the first occurrence of a character -/
def cutAt? (c : Char) (t : Text) : Option (Text × Text) :=
  match t.dropWhile (· ≠ c) with
  | [] => none
  | _ :: after => some (t.takeWhile (· ≠ c), after)

/-- the pieces between occurrences of a character -/
def splitOn (sep : Char) : Text → List Text
  | [] => [[]]
  | c :: t =>
    if c = sep then [] :: splitOn sep t
    else match splitOn sep t with
      | [] => [[c]]
      | l :: ls => (c :: l) :: ls

/-- every occurrence of a two-character text replaced by one character, from the left -/
def replacePair (a b : Char) (replacement : Char) : Text → Text
  | c :: d :: t =>
    if c = a ∧ d = b then replacement :: replacePair a b replacement t
    else c :: replacePair a b replacement (d :: t)
  | t => t

/-- line ends of every kind as line feeds -/
def lineFeeds : Text → Text
  | '\r' :: '\n' :: t => '\n' :: lineFeeds t
  | '\r' :: t => '\n' :: lineFeeds t
  | c :: t => c :: lineFeeds t
  | [] => []

/-- leading and trailing characters of a class removed -/
def trim (p : Char → Bool) (t : Text) : Text := ((t.dropWhile p).reverse.dropWhile p).reverse

/-- repetition of a text -/
def times (n : Nat) (t : Text) : Text := (List.replicate n t).flatten

def spaces (n : Nat) : Text := List.replicate n ' '

/-- the decimal digits of a number -/
def ofNat (n : Nat) : Text := Nat.toDigits 10 n

/-- the decimal digits of a number, after a hyphen if it is negative -/
def ofInt : Int → Text
  | .ofNat n => ofNat n
  | .negSucc n => '-' :: ofNat (n + 1)

/-! ## Order -/

/-- the order of code points, a shorter text before its extensions -/
def le : Text → Text → Bool
  | [], _ => true
  | _ :: _, [] => false
  | a :: s, b :: t => if a = b then le s t else a.toNat < b.toNat

/-- lexicographic order of lists of texts -/
def leAll : List Text → List Text → Bool
  | [], _ => true
  | _ :: _, [] => false
  | a :: s, b :: t => if a = b then leAll s t else le a b

end Text

/-! ## Stable insertion sort -/

/-- insertion after every element that may stand before `x` -/
def insertBy {α : Type} (le : α → α → Bool) (x : α) : List α → List α
  | [] => [x]
  | y :: ys => if le y x then y :: insertBy le x ys else x :: y :: ys

/-- the elements in the order `le`, equals in the order they came -/
def sortBy {α : Type} (le : α → α → Bool) (xs : List α) : List α := xs.foldl (fun acc x => insertBy le x acc) []

theorem insertBy_perm {α : Type} (le : α → α → Bool) (x : α) (ys : List α) :
    (insertBy le x ys).Perm (x :: ys) := by
  induction ys with
  | nil => exact List.Perm.refl _
  | cons y ys ih =>
    unfold insertBy
    split
    · exact (ih.cons y).trans (List.Perm.swap x y ys)
    · exact List.Perm.refl _

theorem foldl_insertBy_perm {α : Type} (le : α → α → Bool) (xs acc : List α) :
    (xs.foldl (fun acc x => insertBy le x acc) acc).Perm (xs ++ acc) := by
  induction xs generalizing acc with
  | nil => exact List.Perm.refl _
  | cons x xs ih =>
    refine (ih (insertBy le x acc)).trans ?_
    exact ((insertBy_perm le x acc).append_left xs).trans List.perm_middle

/-- Sorting only reorders. -/
theorem sortBy_perm {α : Type} (le : α → α → Bool) (xs : List α) : (sortBy le xs).Perm xs := by
  have h := foldl_insertBy_perm le xs []
  rwa [List.append_nil] at h

theorem insertBy_pairwise {α : Type} {le : α → α → Bool} (total : ∀ a b, le a b = true ∨ le b a = true)
    (trans : ∀ a b c, le a b = true → le b c = true → le a c = true) (x : α) (ys : List α)
    (h : ys.Pairwise fun a b => le a b = true) : (insertBy le x ys).Pairwise fun a b => le a b = true := by
  induction ys with
  | nil => simp [insertBy]
  | cons y ys ih =>
    rw [List.pairwise_cons] at h
    unfold insertBy
    split
    · next hy =>
      refine List.pairwise_cons.2 ⟨fun z hz => ?_, ih h.2⟩
      rcases List.mem_cons.1 ((insertBy_perm le x ys).mem_iff.1 hz) with rfl | hz
      · exact hy
      · exact h.1 z hz
    · next hy =>
      have hxy := (total x y).resolve_right hy
      refine List.pairwise_cons.2 ⟨fun z hz => ?_, List.pairwise_cons.2 h⟩
      rcases List.mem_cons.1 hz with rfl | hz
      · exact hxy
      · exact trans x y z hxy (h.1 z hz)

/-- Sorting by a total preorder yields an ordered list. -/
theorem sortBy_pairwise {α : Type} {le : α → α → Bool} (total : ∀ a b, le a b = true ∨ le b a = true)
    (trans : ∀ a b c, le a b = true → le b c = true → le a c = true) (xs : List α) :
    (sortBy le xs).Pairwise fun a b => le a b = true := by
  suffices h : ∀ acc : List α, acc.Pairwise (fun a b => le a b = true) →
      (xs.foldl (fun acc x => insertBy le x acc) acc).Pairwise fun a b => le a b = true from h [] List.Pairwise.nil
  induction xs with
  | nil => exact fun acc h => h
  | cons x xs ih => exact fun acc h => ih _ (insertBy_pairwise total trans x acc h)

theorem insertBy_append {α : Type} {le : α → α → Bool} {x : α} {ys : List α} (h : ∀ y ∈ ys, le y x = true) :
    insertBy le x ys = ys ++ [x] := by
  induction ys with
  | nil => rfl
  | cons y ys ih =>
    rw [insertBy, if_pos (h y List.mem_cons_self), ih fun z hz => h z (List.mem_cons_of_mem y hz)]
    rfl

/-- Sorting leaves an ordered list as it is. -/
theorem sortBy_of_pairwise {α : Type} {le : α → α → Bool} {xs : List α}
    (h : xs.Pairwise fun a b => le a b = true) : sortBy le xs = xs := by
  suffices hacc : ∀ acc : List α, (acc ++ xs).Pairwise (fun a b => le a b = true) →
      xs.foldl (fun acc x => insertBy le x acc) acc = acc ++ xs from hacc [] h
  clear h
  induction xs with
  | nil => exact fun acc _ => (List.append_nil acc).symm
  | cons x xs ih =>
    intro acc h
    have hx : ∀ y ∈ acc, le y x = true := fun y hy =>
      (List.pairwise_append.1 h).2.2 y hy x List.mem_cons_self
    have hxs : acc ++ x :: xs = acc ++ [x] ++ xs := by simp
    rw [List.foldl_cons, insertBy_append hx, hxs]
    exact ih (acc ++ [x]) (hxs ▸ h)

end CursorSpec
