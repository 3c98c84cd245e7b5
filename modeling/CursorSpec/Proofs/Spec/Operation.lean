/-
What operation lines and flag lines look like.

An operation line is a hyphen, spaces, a token, and perhaps spaces and a rest. The token is `type:` and a character, or
the name of a command; it ends with the line or where the next space stands, so a line can be read in one way only
(`token_eq`). `operation?_eq_some_iff` says that the reader of such lines reads them so, and what it makes of the rest.
A line that sets out to type has a token that does (`beginsTyping_token`), if it has one.
-/
import CursorSpec.Proofs.Spec.Line
import Mathlib.Data.List.TakeWhile

namespace CursorSpec

/-! ## Blanks around a text -/

namespace Text

theorem isBlank_space : isBlank ' ' = true := by decide

/-- No blank is a word character. -/
theorem isWord_of_isBlank {c : Char} (h : isBlank c = true) : isWord c = false := by
  have hall : ∀ n ∈ blanks, isWord (Char.ofNat n) = false := by decide +kernel
  have hc := hall c.toNat (List.contains_iff_mem.1 h)
  rwa [Char.ofNat_toNat] at hc

theorem dropWhile_replicate_append (n : Nat) (t : Text) :
    (List.replicate n ' ' ++ t).dropWhile isBlank = t.dropWhile isBlank :=
  List.dropWhile_append_of_pos fun _ hc => (List.eq_of_mem_replicate hc).symm ▸ isBlank_space

theorem strip_replicate_append (n : Nat) (t : Text) : strip (List.replicate n ' ' ++ t) = strip t := by
  rw [strip, trim, dropWhile_replicate_append]
  rfl

theorem strip_append_replicate (t : Text) (n : Nat) : strip (t ++ List.replicate n ' ') = strip t := by
  have hspaces : (List.replicate n ' ').dropWhile isBlank = [] := by
    have hdrop := dropWhile_replicate_append n []
    rwa [List.append_nil] at hdrop
  rw [strip, strip, trim, trim, List.dropWhile_append]
  split
  · next h =>
    rw [hspaces, List.isEmpty_iff.1 h]
  · rw [List.reverse_append, List.reverse_replicate, dropWhile_replicate_append]

end Text

namespace Line

/-! ## Operation lines -/

/-- whether a text can say what an operation does: `type:` and a character that is not blank, or a name -/
def IsToken (token : Text) : Prop :=
  (∃ c, Text.isBlank c = false ∧ token = typingStart ++ [c]) ∨
    (token ≠ [] ∧ ∀ c ∈ token, isCommandChar c = true)

/-- what can follow a token: nothing, or spaces and a rest -/
inductive Follows : Text → Option Text → Prop
  | nothing : Follows [] none
  | rest (n : Nat) {r : Text} (h : r ≠ []) : Follows (List.replicate (n + 1) ' ' ++ r) (some r)

/-- whether a line is a hyphen, spaces, a token, and perhaps spaces and a rest -/
structure IsOperation (l token : Text) (rest : Option Text) : Prop where
  line : ∃ n tail, l = '-' :: (List.replicate n ' ' ++ (token ++ tail)) ∧ Follows tail rest
  token : IsToken token

/-- the arguments that a rest spells: none if it is blank -/
def argumentsOf (rest : Option Text) : Option Text := (rest.map Text.strip).filter fun args => !args.isEmpty

theorem strip_of_argumentsOf {r args : Text} (h : argumentsOf (some r) = some args) : Text.strip r = args := by
  rw [argumentsOf, Option.map_some, Option.filter_eq_some_iff] at h
  exact Option.some.inj h.1

/-- whether something can end a token: the end of the line, or a space -/
def Ends (tail : Text) : Prop := ∀ c ∈ tail.head?, c = ' '

theorem Follows.ends {tail : Text} {rest : Option Text} (h : Follows tail rest) : Ends tail := by
  cases h with
  | nothing => exact nofun
  | rest n h =>
    intro c hc
    exact (Option.some.inj hc).symm

theorem ne_space_of_mem_token {token : Text} (h : IsToken token) {c : Char} (hc : c ∈ token) : c ≠ ' ' := by
  rintro rfl
  rcases h with ⟨d, hd, rfl⟩ | ⟨-, hname⟩
  · rcases List.mem_append.1 hc with hc | hc
    · exact absurd hc (by decide)
    · rw [← List.mem_singleton.1 hc, Text.isBlank_space] at hd
      cases hd
  · exact absurd (hname ' ' hc) (by decide)

/-- What a token types is not blank. -/
theorem isBlank_of_isToken {c : Char} (h : IsToken (typingStart ++ [c])) : Text.isBlank c = false := by
  rcases h with ⟨d, hd, hcd⟩ | ⟨-, hname⟩
  · rw [List.singleton_inj.1 (List.append_cancel_left hcd)]
    exact hd
  · have hc := hname c (List.mem_append_right _ List.mem_cons_self)
    cases hblank : Text.isBlank c with
    | false => rfl
    | true =>
      rw [isCommandChar, Text.isWord_of_isBlank hblank, Bool.false_or, Bool.or_eq_true, decide_eq_true_iff,
        decide_eq_true_iff] at hc
      rcases hc with rfl | rfl
      · exact absurd hblank (by decide)
      · exact absurd hblank (by decide)

/-- A text without spaces that something ends is all that stands before the first space. -/
theorem takeWhile_token {token tail : Text} (h : ∀ c ∈ token, c ≠ ' ') (ends : Ends tail) :
    (token ++ tail).takeWhile (· ≠ ' ') = token := by
  rw [List.takeWhile_append_of_pos fun c hc => decide_eq_true (h c hc)]
  cases tail with
  | nil => exact List.append_nil token
  | cons c tail =>
    rw [ends c rfl]
    exact List.append_nil token

/-- **A line has one token at most.** -/
theorem token_eq {token token' tail tail' : Text} (h : IsToken token) (h' : IsToken token') (ends : Ends tail)
    (ends' : Ends tail') (same : token ++ tail = token' ++ tail') : token = token' := by
  have htoken := takeWhile_token (fun c hc => ne_space_of_mem_token h hc) ends
  rw [same, takeWhile_token (fun c hc => ne_space_of_mem_token h' hc) ends'] at htoken
  exact htoken.symm

/-! ## The reader of operation lines -/

theorem argumentsAfter?_eq_some_iff {tail : Text} {args : Option Text} :
    argumentsAfter? tail = some args ↔ ∃ rest, Follows tail rest ∧ argumentsOf rest = args := by
  have hsome : ∀ r : Text, (if (Text.strip r).isEmpty then none else some (Text.strip r)) = argumentsOf (some r) := by
    intro r
    rw [argumentsOf, Option.map_some, Option.filter_some]
    cases (Text.strip r).isEmpty <;> rfl
  constructor
  · intro h
    unfold argumentsAfter? at h
    split at h
    · cases h
      exact ⟨none, .nothing, rfl⟩
    · next c t =>
      refine ⟨some (c :: t), .rest 0 (List.cons_ne_nil c t), ?_⟩
      rw [← hsome]
      exact Option.some.inj h
    · cases h
  · rintro ⟨rest, hrest, rfl⟩
    cases hrest with
    | nothing => rfl
    | @rest n r hr =>
      obtain ⟨c, t, hct⟩ : ∃ c t, List.replicate n ' ' ++ r = c :: t :=
        List.exists_cons_of_ne_nil fun hnil => hr (List.append_eq_nil_iff.1 hnil).2
      have hstrip := Text.strip_replicate_append n r
      rw [hct] at hstrip
      rw [List.replicate_succ, List.cons_append, hct, ← hsome r, ← hstrip]
      rfl

theorem ends_of_argumentsAfter? {tail : Text} {args : Option Text} (h : argumentsAfter? tail = some args) :
    Ends tail := by
  obtain ⟨rest, hrest, -⟩ := argumentsAfter?_eq_some_iff.1 h
  exact hrest.ends

theorem typed?_eq_some_iff {t token : Text} {args : Option Text} :
    typed? t = some (token, args) ↔
      ∃ tail, t = token ++ tail ∧ argumentsAfter? tail = some args ∧
        ∃ c, Text.isBlank c = false ∧ token = typingStart ++ [c] := by
  unfold typed?
  cases h : Text.afterStart? typingStart t with
  | none =>
    constructor
    · intro h'; cases h'
    · rintro ⟨tail, rfl, -, c, -, rfl⟩
      rw [List.append_assoc, Text.afterStart?_eq_some_iff.2 rfl] at h
      cases h
  | some u =>
    rw [Text.afterStart?_eq_some_iff] at h
    subst h
    cases u with
    | nil =>
      constructor
      · intro h'; cases h'
      · rintro ⟨tail, hline, -, c, -, rfl⟩
        have hlength := congrArg List.length hline
        simp only [List.length_append, List.length_singleton, List.length_nil] at hlength
        omega
    | cons c u =>
      constructor
      · intro h'
        simp only [Option.bind_eq_bind, Option.bind_some] at h'
        split at h'
        · cases h'
        · next hc =>
          obtain ⟨args', hargs, h'⟩ := Option.bind_eq_some_iff.1 h'
          cases h'
          exact ⟨u, by simp, hargs, c, Bool.eq_false_of_not_eq_true hc, rfl⟩
      · rintro ⟨tail, hline, hargs, d, hd, rfl⟩
        rw [List.append_assoc] at hline
        obtain ⟨rfl, rfl⟩ := List.cons.inj (List.append_cancel_left hline)
        simp [hd, hargs]

theorem command?_eq_some_iff {t name : Text} {args : Option Text} :
    command? t = some (name, args) ↔
      ∃ tail, t = name ++ tail ∧ argumentsAfter? tail = some args ∧
        name ≠ [] ∧ ∀ c ∈ name, isCommandChar c = true := by
  unfold command?
  constructor
  · intro h
    dsimp only at h
    split at h
    · cases h
    · next hname =>
      obtain ⟨args', hargs, h⟩ := Option.bind_eq_some_iff.1 h
      cases h
      have hsplit : t.takeWhile isCommandChar ++ t.drop (t.takeWhile isCommandChar).length = t := by
        conv_rhs => rw [← List.take_append_drop (t.takeWhile isCommandChar).length t]
        rw [← List.prefix_iff_eq_take.1 (List.takeWhile_prefix isCommandChar)]
      refine ⟨_, hsplit.symm, hargs, fun hnil => hname (List.isEmpty_iff.2 hnil), fun c hc => ?_⟩
      exact List.mem_takeWhile_imp hc
  · rintro ⟨tail, rfl, hargs, hne, hname⟩
    have htake : (name ++ tail).takeWhile isCommandChar = name := by
      rw [List.takeWhile_append_of_pos hname]
      cases tail with
      | nil => exact List.append_nil name
      | cons c tail =>
        rw [ends_of_argumentsAfter? hargs c rfl]
        exact List.append_nil name
    have hnonempty : name.isEmpty = false := by simpa using hne
    simp only [htake, hnonempty, Bool.false_eq_true, if_false, List.drop_left, hargs]
    rfl

/-- What follows the hyphen and its spaces begins with no space. -/
theorem afterHyphen?_eq_some_iff {l t : Text} :
    afterHyphen? l = some t ↔ ∃ n, l = '-' :: (List.replicate n ' ' ++ t) ∧ t.head? ≠ some ' ' := by
  constructor
  · intro h
    unfold afterHyphen? at h
    split at h
    · next u =>
      cases h
      refine ⟨(u.takeWhile (· = ' ')).length, ?_, fun hspace => ?_⟩
      · have hspaces : u.takeWhile (· = ' ') = List.replicate (u.takeWhile (· = ' ')).length ' ' :=
          List.eq_replicate_iff.2 ⟨rfl, fun c hc => by simpa using List.mem_takeWhile_imp hc⟩
        rw [← hspaces, List.takeWhile_append_dropWhile]
      · have hhead := List.head?_dropWhile_not (· = ' ') u
        rw [hspace] at hhead
        simp at hhead
    · cases h
  · rintro ⟨n, rfl, hhead⟩
    rw [afterHyphen?, List.dropWhile_append_of_pos fun c hc => decide_eq_true (List.eq_of_mem_replicate hc)]
    cases t with
    | nil => rfl
    | cons c t =>
      have hc : c ≠ ' ' := fun h => hhead (congrArg some h)
      rw [List.dropWhile_cons_of_neg (by simpa using hc)]

theorem head?_token {token tail : Text} (h : IsToken token) : (token ++ tail).head? ≠ some ' ' := by
  intro hspace
  cases token with
  | nil =>
    rcases h with ⟨c, -, hc⟩ | ⟨hne, -⟩
    · cases hc
    · exact hne rfl
  | cons c token => exact ne_space_of_mem_token h List.mem_cons_self (Option.some.inj hspace)

/-- **What an operation line is read as**: its token, and the arguments that the rest spells. -/
theorem operation?_eq_some_iff {l token : Text} {args : Option Text} :
    operation? l = some (token, args) ↔ ∃ rest, IsOperation l token rest ∧ argumentsOf rest = args := by
  constructor
  · intro h
    rw [operation?, Option.bind_eq_bind, Option.bind_eq_some_iff] at h
    obtain ⟨t, ht, h⟩ := h
    obtain ⟨n, rfl, -⟩ := afterHyphen?_eq_some_iff.1 ht
    have hread : ∃ tail, t = token ++ tail ∧ argumentsAfter? tail = some args ∧ IsToken token := by
      rcases (Option.orElse_eq_some _ _ _).1 h with h | ⟨-, h⟩
      · obtain ⟨tail, hline, hargs, htyped⟩ := typed?_eq_some_iff.1 h
        exact ⟨tail, hline, hargs, Or.inl htyped⟩
      · obtain ⟨tail, hline, hargs, hname⟩ := command?_eq_some_iff.1 h
        exact ⟨tail, hline, hargs, Or.inr hname⟩
    obtain ⟨tail, rfl, hargs, htoken⟩ := hread
    obtain ⟨rest, hrest, hargs⟩ := argumentsAfter?_eq_some_iff.1 hargs
    exact ⟨rest, ⟨⟨n, tail, rfl, hrest⟩, htoken⟩, hargs⟩
  · rintro ⟨rest, ⟨⟨n, tail, rfl, hrest⟩, htoken⟩, rfl⟩
    have hargs := argumentsAfter?_eq_some_iff.2 ⟨rest, hrest, rfl⟩
    rw [operation?, afterHyphen?_eq_some_iff.2 ⟨n, rfl, head?_token htoken⟩, Option.bind_eq_bind, Option.bind_some,
      Option.orElse_eq_some]
    cases htyped : typed? (token ++ tail) with
    | none =>
      have hname : token ≠ [] ∧ ∀ c ∈ token, isCommandChar c = true := by
        refine htoken.resolve_left fun htypes => ?_
        rw [typed?_eq_some_iff.2 ⟨tail, rfl, hargs, htypes⟩] at htyped
        cases htyped
      exact Or.inr ⟨rfl, command?_eq_some_iff.2 ⟨tail, rfl, hargs, hname⟩⟩
    | some o =>
      -- what is typed is the same token, because there is only one
      obtain ⟨token', args'⟩ := o
      obtain ⟨tail', hline, hargs', htypes⟩ := typed?_eq_some_iff.1 htyped
      have hsame := token_eq htoken (Or.inl htypes) hrest.ends (ends_of_argumentsAfter? hargs') hline
      subst hsame
      rw [List.append_cancel_left hline, hargs'] at hargs
      exact Or.inl (congrArg (fun a => some (token, a)) (Option.some.inj hargs))

def IsOperationLine (l : Text) : Prop := ∃ token rest, IsOperation l token rest

theorem isOperationLine_iff {l : Text} : IsOperationLine l ↔ (operation? l).isSome = true := by
  rw [Option.isSome_iff_exists, Prod.exists]
  constructor
  · rintro ⟨token, rest, h⟩
    exact ⟨token, argumentsOf rest, operation?_eq_some_iff.2 ⟨rest, h, rfl⟩⟩
  · rintro ⟨token, args, h⟩
    obtain ⟨rest, h, -⟩ := operation?_eq_some_iff.1 h
    exact ⟨token, rest, h⟩

instance (l : Text) : Decidable (IsOperationLine l) := decidable_of_iff' _ isOperationLine_iff

/-! ## Lines that set out to type -/

/-- whether a line begins as one that types does: a hyphen, spaces, and `type:` -/
def BeginsTyping (l : Text) : Prop := ∃ n u, l = '-' :: (List.replicate n ' ' ++ (typingStart ++ u))

theorem head?_typingStart (u : Text) : (typingStart ++ u).head? ≠ some ' ' :=
  fun h => absurd (Option.some.inj h) (by decide)

theorem looksLikeTyping_iff {l : Text} : looksLikeTyping l = true ↔ BeginsTyping l := by
  rw [looksLikeTyping, Option.any_eq_true]
  constructor
  · rintro ⟨t, ht, htyping⟩
    obtain ⟨u, rfl⟩ := Text.startsWith_iff.1 htyping
    obtain ⟨n, rfl, -⟩ := afterHyphen?_eq_some_iff.1 ht
    exact ⟨n, u, rfl⟩
  · rintro ⟨n, u, rfl⟩
    have hstart := Text.startsWith_iff.2 (List.prefix_append typingStart u)
    exact ⟨typingStart ++ u, afterHyphen?_eq_some_iff.2 ⟨n, rfl, head?_typingStart u⟩, hstart⟩

/-- **The token of a line that begins as one that types does begins so too.** -/
theorem beginsTyping_token {token tail : Text} {n : Nat}
    (typing : BeginsTyping ('-' :: (List.replicate n ' ' ++ (token ++ tail)))) (h : IsToken token) (ends : Ends tail) :
    typingStart <+: token := by
  obtain ⟨m, u, hu⟩ := typing
  have hafter := (afterHyphen?_eq_some_iff.2 ⟨m, hu, head?_typingStart u⟩).symm.trans
    (afterHyphen?_eq_some_iff.2 ⟨n, rfl, head?_token h⟩)
  have htake := takeWhile_token (fun c hc => ne_space_of_mem_token h hc) ends
  rw [← Option.some.inj hafter, List.takeWhile_append_of_pos (List.all_eq_true.1 (by decide))] at htake
  exact ⟨_, htake⟩

theorem IsOperation.beginsTyping_token {l token : Text} {rest : Option Text} (h : IsOperation l token rest)
    (typing : BeginsTyping l) : typingStart <+: token := by
  obtain ⟨⟨n, tail, rfl, hrest⟩, htoken⟩ := h
  exact Line.beginsTyping_token typing htoken hrest.ends

/-! ## Flag lines -/

/-- whether a line is a flag line: a bracket and at least one character -/
def IsFlagLine (l : Text) : Prop := ∃ rest, rest ≠ [] ∧ l = '>' :: rest

theorem flag?_eq_some_iff {l t : Text} :
    flag? l = some t ↔ ∃ rest, rest ≠ [] ∧ l = '>' :: rest ∧ Text.strip rest = t := by
  constructor
  · intro h
    unfold flag? at h
    split at h
    · next c u =>
      exact ⟨c :: u, List.cons_ne_nil c u, rfl, Option.some.inj h⟩
    · cases h
  · rintro ⟨rest, hrest, rfl, rfl⟩
    cases rest with
    | nil => exact absurd rfl hrest
    | cons c u => rfl

theorem isFlagLine_iff {l : Text} : IsFlagLine l ↔ (flag? l).isSome = true := by
  rw [Option.isSome_iff_exists]
  constructor
  · rintro ⟨rest, hrest, hl⟩
    exact ⟨_, flag?_eq_some_iff.2 ⟨rest, hrest, hl, rfl⟩⟩
  · rintro ⟨t, h⟩
    obtain ⟨rest, hrest, hl, -⟩ := flag?_eq_some_iff.1 h
    exact ⟨rest, hrest, hl⟩

instance (l : Text) : Decidable (IsFlagLine l) := decidable_of_iff' _ isFlagLine_iff

end Line

end CursorSpec
