/-
Names of test functions.

A search for a free name looks at one candidate after another (`Search.next?`): at the name itself, and then at the name
with the numbers from two on. No two candidates are alike, so no more of them are taken than there are names taken at
all (`le_length_of_taken`), and the search comes to an end with `unique`, the first candidate that is free
(`Search.ends_unique`). Each test of a suite is named by a search among the names of the tests before it
(`function_of_testsOf`).

`names_distinct`: no test has the name of another one.
-/
import CursorSpec.Proofs.Links
import CursorSpec.Proofs.Suite.Loading

namespace CursorSpec

theorem Text.ofNat_injective : Function.Injective Text.ofNat := by
  intro m n h
  have hvalue := congrArg (fun t => Nat.ofDigitChars 10 t 0) h
  simpa only [Text.ofNat, Nat.ofDigitChars_ten_toDigits] using hvalue

theorem Text.mem_of_mem_trim {p : Char → Bool} {t : Text} {c : Char} (h : c ∈ trim p t) : c ∈ t := by
  have h := (List.dropWhile_suffix p).subset (List.mem_reverse.1 h)
  exact (List.dropWhile_suffix p).subset (List.mem_reverse.1 h)

/-- An upper-case letter becomes a lower-case one. -/
theorem Text.isLower_toLower {c : Char} (h : c.isUpper = true) : c.toLower.isLower = true := by
  have h : 'A'.val ≤ c.val ∧ c.val ≤ 'Z'.val := of_decide_eq_true h
  have hlow : 65 ≤ c.val.toNat := UInt32.le_iff_toNat_le.1 h.1
  have hhigh : c.val.toNat ≤ 90 := UInt32.le_iff_toNat_le.1 h.2
  have hsum : (c.val + 32).toNat = c.val.toNat + 32 := by
    rw [UInt32.toNat_add]
    exact Nat.mod_eq_of_lt (show c.val.toNat + 32 < 2 ^ 32 by omega)
  have hlower : 97 ≤ (c.val + 32).toNat ∧ (c.val + 32).toNat ≤ 122 := by omega
  unfold Char.toLower Char.isLower
  rw [dif_pos h, Bool.and_eq_true]
  exact ⟨decide_eq_true (UInt32.le_iff_toNat_le.2 hlower.1), decide_eq_true (UInt32.le_iff_toNat_le.2 hlower.2)⟩

theorem Text.toLower_of_not_isUpper {c : Char} (h : c.isUpper = false) : c.toLower = c :=
  dif_neg (of_decide_eq_false h)

namespace Suite

/-! ## Candidates -/

/-- the names that a search looks at, in this order: the name itself, and then with the numbers from two on -/
def candidate (base : Text) : Nat → Text
  | 0 => base
  | k + 1 => numbered base (k + 2)

theorem numbered_ne (base : Text) (n : Nat) : numbered base n ≠ base := by
  intro h
  have hlength := congrArg List.length h
  simp [numbered] at hlength

theorem numbered_injective (base : Text) : Function.Injective (numbered base) := by
  intro m n h
  exact Text.ofNat_injective (List.cons.inj (List.append_cancel_left h)).2

theorem candidate_injective (base : Text) : Function.Injective (candidate base) := by
  intro j k h
  cases j with
  | zero =>
    cases k with
    | zero => rfl
    | succ k => exact absurd h.symm (numbered_ne base (k + 2))
  | succ j =>
    cases k with
    | zero => exact absurd h (numbered_ne base (j + 2))
    | succ k =>
      have hnumber := numbered_injective base h
      omega

variable {used : List Text} {base : Text}

/-- There are no more candidates that are taken one after another than names that are taken. -/
theorem le_length_of_taken {k : Nat} (taken : ∀ j < k, candidate base j ∈ used) : k ≤ used.length := by
  have distinct : ((List.range k).map (candidate base)).Nodup :=
    List.nodup_range.map (candidate_injective base)
  have hsub : (List.range k).map (candidate base) ⊆ used := by
    intro t ht
    obtain ⟨j, hj, rfl⟩ := List.mem_map.1 ht
    exact taken j (List.mem_range.1 hj)
  calc
    k = ((List.range k).map (candidate base)).length := by rw [List.length_map, List.length_range]
    _ ≤ used.length := (List.subperm_of_subset distinct hsub).length_le

/-- The search among numbered names gives the first free one, if it looks that far. -/
theorem firstFree_eq {tries n m : Nat} (taken : ∀ i, n ≤ i → i < m → numbered base i ∈ used)
    (free : numbered base m ∉ used) (hle : n ≤ m) (enough : m ≤ n + tries) :
    firstFree used base tries n = numbered base m := by
  induction tries generalizing n with
  | zero =>
    obtain rfl : n = m := by omega
    rfl
  | succ tries ih =>
    unfold firstFree
    rcases Nat.eq_or_lt_of_le hle with rfl | hlt
    · exact if_neg (by simpa using free)
    · have hfirst : numbered base n ∈ used := taken n le_rfl hlt
      rw [if_pos (by simpa using hfirst)]
      exact ih (fun i hi him => taken i (by omega) him) hlt (by omega)

/-- **The first candidate that is free is the name that is found.** -/
theorem unique_eq_candidate {k : Nat} (taken : ∀ j < k, candidate base j ∈ used) (free : candidate base k ∉ used) :
    unique used base = candidate base k := by
  unfold unique
  cases k with
  | zero =>
    have hfree : base ∉ used := free
    exact if_neg (by simpa using hfree)
  | succ k =>
    have hbase : base ∈ used := taken 0 (Nat.succ_pos k)
    have hlength : k + 1 ≤ used.length := le_length_of_taken taken
    rw [if_pos (by simpa using hbase)]
    refine firstFree_eq (fun i hi hik => ?_) free (by omega) (by omega)
    obtain ⟨j, rfl⟩ := Nat.exists_eq_add_of_le' hi
    exact taken (j + 1) (by omega)

/-! ## The search -/

/-- a search for a free name under way: the name it looks at, and the number it takes next -/
structure Search where
  candidate : Text
  number : Nat

namespace Search

def start (base : Text) : Search := ⟨base, 2⟩

/-- where a search goes on: at the name with the next number, as long as the one it looks at is taken -/
def next? (used : List Text) (base : Text) (s : Search) : Option Search :=
  if s.candidate ∈ used then some ⟨numbered base s.number, s.number + 1⟩ else none

/-- whether the search ends with a name, after a number of steps -/
def EndsAfter (used : List Text) (base : Text) (k : Nat) (found : Text) : Prop :=
  ∃ s, follow? (next? used base) k (start base) = some s ∧ next? used base s = none ∧ s.candidate = found

/-- whether a search stands at a candidate behind candidates that are all taken, with so many of the taken names left -/
def IsAt (used : List Text) (base : Text) (left : Nat) (s : Search) : Prop :=
  ∃ k, k + left = used.length ∧ s = ⟨Suite.candidate base k, k + 2⟩ ∧ ∀ j < k, Suite.candidate base j ∈ used

theorem next?_eq_some_iff {s s' : Search} :
    next? used base s = some s' ↔ s.candidate ∈ used ∧ s' = ⟨numbered base s.number, s.number + 1⟩ := by
  unfold next?
  split
  · next h => simp [h, eq_comm]
  · next h => simp [h]

theorem next?_eq_none_iff {s : Search} : next? used base s = none ↔ s.candidate ∉ used := by
  unfold next?
  split
  · next h => simp [h]
  · next h => simp [h]

theorem isAt_start (used : List Text) (base : Text) : IsAt used base used.length (start base) :=
  ⟨0, Nat.zero_add _, rfl, nofun⟩

/-- A step puts one more taken name behind the search, so that fewer are left. -/
theorem IsAt.next? {left : Nat} {s s' : Search} (h : IsAt used base left s) (hnext : next? used base s = some s') :
    ∃ left' < left, IsAt used base left' s' := by
  -- the candidate that is looked at is taken too, so there is a name left for it
  obtain ⟨k, hk, rfl, taken⟩ := h
  obtain ⟨hmem, rfl⟩ := next?_eq_some_iff.1 hnext
  have htaken : ∀ j < k + 1, Suite.candidate base j ∈ used := by
    intro j hj
    rcases Nat.lt_succ_iff_lt_or_eq.1 hj with hj | rfl
    · exact taken j hj
    · exact hmem
  have hlength := le_length_of_taken htaken
  exact ⟨left - 1, by omega, k + 1, by omega, rfl, htaken⟩

/-- The search ends at the first candidate that is free, which is the name that is found. -/
theorem exists_end (used : List Text) (base : Text) :
    ∃ k ≤ used.length, ∃ m, follow? (next? used base) k (start base) = some ⟨Suite.candidate base m, m + 2⟩ ∧
      Suite.candidate base m ∉ used ∧ unique used base = Suite.candidate base m := by
  obtain ⟨k, hk, s, hfollow, hend, -, m, -, rfl, taken⟩ :=
    exists_follow?_end (fun _ _ _ => IsAt.next?) (isAt_start used base)
  have free := next?_eq_none_iff.1 hend
  exact ⟨k, hk, m, hfollow, free, unique_eq_candidate taken free⟩

/-- **The search for a free name ends**, after no more steps than there are names taken. -/
theorem ends_unique (used : List Text) (base : Text) : ∃ k ≤ used.length, EndsAfter used base k (unique used base) := by
  obtain ⟨k, hk, m, hfollow, free, hunique⟩ := exists_end used base
  exact ⟨k, hk, _, hfollow, next?_eq_none_iff.2 free, hunique.symm⟩

end Search

theorem unique_notMem (used : List Text) (base : Text) : unique used base ∉ used := by
  obtain ⟨_, -, m, -, free, hunique⟩ := Search.exists_end used base
  rw [hunique]
  exact free

theorem unique_eq_self_iff : unique used base = base ↔ base ∉ used := by
  constructor
  · intro h
    rw [← h]
    exact unique_notMem used base
  · intro free
    exact unique_eq_candidate (k := 0) nofun free

/-! ## What names are made of -/

/-- characters of names: digits, lower-case letters and the underscore -/
def IsNameChar (c : Char) : Prop := c.isDigit = true ∨ c.isLower = true ∨ c = '_'

def IsTestName (t : Text) : Prop := ∃ rest : Text, t = "test_" ++ rest ∧ ∀ c ∈ rest, IsNameChar c

theorem isNameChar_toLower {c : Char} (h : Text.isAsciiAlnum c = true) : IsNameChar c.toLower := by
  cases hupper : c.isUpper with
  | true => exact .inr (.inl (Text.isLower_toLower hupper))
  | false =>
    rw [Text.toLower_of_not_isUpper hupper]
    have hclasses : (c.isUpper || c.isLower || c.isDigit) = true := h
    rw [hupper, Bool.false_or, Bool.or_eq_true] at hclasses
    rcases hclasses with hlower | hdigit
    · exact .inr (.inl hlower)
    · exact .inl hdigit

theorem isAsciiAlnum_of_mem_underscored {t : Text} {c : Char} (h : c ∈ underscored t) :
    Text.isAsciiAlnum c = true ∨ c = '_' := by
  fun_induction underscored t with
  | case1 => cases h
  | case2 d t hd ih =>
    rcases List.mem_cons.1 h with rfl | h
    · exact .inl hd
    · exact ih h
  | case3 d t _ _ ih => exact ih h
  | case4 d t _ _ ih =>
    rcases List.mem_cons.1 h with rfl | h
    · exact .inr rfl
    · exact ih h

theorem isNameChar_of_mem_slug {title : Text} {c : Char} (h : c ∈ slug title) : IsNameChar c := by
  unfold slug at h
  dsimp only at h
  split at h
  · have hstate : ∀ c ∈ "state".toList, IsNameChar c := by simp [IsNameChar]
    exact hstate c h
  · obtain ⟨d, hd, rfl⟩ := List.mem_map.1 h
    rcases isAsciiAlnum_of_mem_underscored (Text.mem_of_mem_trim hd) with halnum | rfl
    · exact isNameChar_toLower halnum
    · exact .inr (.inr rfl)

theorem isTestName_baseName (comesAfter title : Text) : IsTestName (baseName comesAfter title) := by
  have hmiddle : ∀ c ∈ "_to_".toList, IsNameChar c := by simp [IsNameChar]
  have happend : baseName comesAfter title = "test_" ++ (slug comesAfter ++ "_to_" ++ slug title) := by
    show "test_" ++ slug comesAfter ++ "_to_" ++ slug title = _
    simp only [List.append_assoc]
  refine ⟨slug comesAfter ++ "_to_" ++ slug title, happend, fun c hc => ?_⟩
  rcases List.mem_append.1 hc with hc | hc
  · rcases List.mem_append.1 hc with hc | hc
    · exact isNameChar_of_mem_slug hc
    · exact hmiddle c hc
  · exact isNameChar_of_mem_slug hc

theorem IsTestName.numbered {base : Text} (h : IsTestName base) (n : Nat) : IsTestName (numbered base n) := by
  obtain ⟨rest, rfl, hrest⟩ := h
  refine ⟨rest ++ '_' :: Text.ofNat n, by simp only [Suite.numbered, List.append_assoc], fun c hc => ?_⟩
  rcases List.mem_append.1 hc with hc | hc
  · exact hrest c hc
  · rcases List.mem_cons.1 hc with rfl | hc
    · exact .inr (.inr rfl)
    · exact .inl (Nat.isDigit_of_mem_toDigits (by decide) (by decide) hc)

theorem IsTestName.unique {base : Text} (h : IsTestName base) (used : List Text) : IsTestName (unique used base) := by
  obtain ⟨_, -, m, -, -, hunique⟩ := Search.exists_end used base
  rw [hunique]
  cases m with
  | zero => exact h
  | succ m => exact h.numbered (m + 2)

/-! ## The names of tests -/

/-- Each test has the name that is found for it when those before it are taken. -/
theorem function_of_testsOf {settings : Settings} {used : List Text} {ts : List Transition} {xs : List SuiteTest}
    (h : testsOf settings used ts = .ok xs) {k : Nat} {x : SuiteTest} (hx : xs[k]? = some x) :
    x.function = unique (used ++ (xs.take k).map (·.function)) (baseName x.comesAfter x.title) := by
  induction ts generalizing used xs k with
  | nil =>
    cases h
    cases hx
  | cons t ts ih =>
    rw [testsOf] at h
    obtain ⟨steps, -, h⟩ := bind_eq_ok_iff.1 h
    obtain ⟨d, -, h⟩ := bind_eq_ok_iff.1 h
    obtain ⟨ys, hys, h⟩ := bind_eq_ok_iff.1 h
    cases h
    cases k with
    | zero =>
      cases hx
      rw [List.take_zero, List.map_nil, List.append_nil]
    | succ k => rw [ih hys hx, List.take_succ_cons, List.map_cons, List.append_assoc, List.singleton_append]

theorem function_of_compile {settings : Settings} {name text : Text} {s : Suite}
    (h : compile settings name text = .ok s) {k : Nat} {x : SuiteTest} (hx : s.tests[k]? = some x) :
    x.function = unique ((s.tests.take k).map (·.function)) (baseName x.comesAfter x.title) := by
  obtain ⟨spec, -, h⟩ := bind_eq_ok_iff.1 h
  obtain ⟨r, -, h⟩ := bind_eq_ok_iff.1 h
  obtain ⟨seeds, -, h⟩ := bind_eq_ok_iff.1 h
  obtain ⟨tests, htests, h⟩ := bind_eq_ok_iff.1 h
  cases h
  exact function_of_testsOf htests hx

theorem nodup_functions {tests : List SuiteTest}
    (h : ∀ k x, tests[k]? = some x → x.function ∉ (tests.take k).map (·.function)) :
    (tests.map (·.function)).Nodup := by
  refine nodup_of_notMem_take fun k t ht => ?_
  rw [List.getElem?_map] at ht
  obtain ⟨x, hx, rfl⟩ := Option.map_eq_some_iff.1 ht
  rw [← List.map_take]
  exact h k x hx

/-- **No test shadows another.** A search for a free name ends, whatever names are taken. In a suite that is compiled,
no two tests have one name, and all names are made of lower-case letters, digits and underscores. Each is found by such
a search among the names of the tests before, so it is the one that the titles spell exactly if none of them took it. -/
theorem names_distinct :
    (∀ used base, ∃ k ≤ used.length, Search.EndsAfter used base k (unique used base)) ∧
      ∀ settings name text suite, compile settings name text = .ok suite →
        (suite.tests.map (·.function)).Nodup ∧ (∀ t ∈ suite.tests, IsTestName t.function) ∧
          ∀ k t, suite.tests[k]? = some t →
            let earlier := (suite.tests.take k).map (·.function)
            let base := baseName t.comesAfter t.title
            t.function = unique earlier base ∧ (t.function = base ↔ base ∉ earlier) := by
  refine ⟨Search.ends_unique, fun settings name text suite h => ⟨?_, ?_, ?_⟩⟩
  · refine nodup_functions fun k t ht => ?_
    rw [function_of_compile h ht]
    exact unique_notMem _ _
  · intro t ht
    obtain ⟨k, hk⟩ := List.mem_iff_getElem?.1 ht
    rw [function_of_compile h hk]
    exact (isTestName_baseName _ _).unique _
  · intro k t ht
    have hfunction := function_of_compile h ht
    refine ⟨hfunction, ?_⟩
    rw [hfunction]
    exact unique_eq_self_iff

/-- a spec whose titles spell names that are alike, one of them with a number -/
def collidingText : Text :=
  let fence : Text := "\x60\x60\x60"
  Text.unlines ["# A", fence, ['|'], fence, "# x.y", "[up](#A)", fence, ['|'], fence,
    "# x_y", "[up](#A)", fence, ['|'], fence, "# X y 2", "[up](#A)", fence, ['|'], fence]

def collidingTest (function title : Text) : SuiteTest := ⟨function, title, "A", [], .make [] [.caret ⟨0, 0⟩]⟩

def colliding : Suite where
  name := "s"
  seeds := [⟨"A", .make [] [.caret ⟨0, 0⟩]⟩]
  tests := [collidingTest "test_a_to_x_y" "x.y", collidingTest "test_a_to_x_y_2" "x_y",
    collidingTest "test_a_to_x_y_2_2" "X-y-2"]
  settings := .default

theorem compile_colliding : compile .default "s" collidingText = .ok colliding := by decide +kernel

/-- The second test takes the name that the titles of the third one spell, so that both of them get a number. -/
theorem names_distinct_colliding :
    compile .default "s" collidingText = .ok colliding ∧ (colliding.tests.map (·.function)).Nodup ∧
      (∀ t ∈ colliding.tests, IsTestName t.function) ∧ baseName "A" "X-y-2" = "test_a_to_x_y_2".toList ∧
      unique ["test_a_to_x_y", "test_a_to_x_y_2"] "test_a_to_x_y_2" = "test_a_to_x_y_2_2".toList ∧
      ∃ k ≤ 2, Search.EndsAfter ["test_a_to_x_y", "test_a_to_x_y_2"] "test_a_to_x_y_2" k "test_a_to_x_y_2_2" := by
  have hbase : baseName "A" "X-y-2" = "test_a_to_x_y_2".toList := by decide +kernel
  obtain ⟨distinct, formed, named⟩ := names_distinct.2 .default "s" collidingText colliding compile_colliding
  have hthird := (named 2 (collidingTest "test_a_to_x_y_2_2" "X-y-2") rfl).1
  have hname : unique ["test_a_to_x_y", "test_a_to_x_y_2"] "test_a_to_x_y_2" = "test_a_to_x_y_2_2".toList := by
    rw [← hbase]
    exact hthird.symm
  refine ⟨compile_colliding, distinct, formed, hbase, hname, ?_⟩
  rw [← hname]
  exact names_distinct.1 ["test_a_to_x_y", "test_a_to_x_y_2"] "test_a_to_x_y_2"

end Suite

end CursorSpec
