/-
What is read of one entry.

`RawEntry.read` keeps what the lines say: title, number, block and reference (`keeps_of_read`). Where it fails, the
problem names the entry and a line of its body, and is never one of structure (`problem_of_read`).
-/
import CursorSpec.Proofs.Except
import CursorSpec.Spec.Reader

namespace CursorSpec

namespace Entry

def comesAfter? : Entry → Option Text
  | .initial _ => none
  | .transition t => some t.comesAfter

/-- the number of its line; entries made without one come first -/
def number (x : Entry) : Int := x.line.getD 0

end Entry

namespace RawEntry

/-- what an entry keeps of its lines -/
structure Keeps (e : RawEntry) (x : Entry) : Prop where
  title : x.title = e.title
  line : x.line = some (e.line : Int)
  content : x.content = e.content
  comesAfter : x.comesAfter? = e.comesAfter

theorem keeps_of_read {e : RawEntry} {x : Entry} (h : e.read = .ok x) : e.Keeps x := by
  obtain ⟨flags, -, h⟩ := bind_eq_ok_iff.1 h
  cases hafter : e.comesAfter with
  | none =>
    rw [hafter] at h
    cases h
    exact ⟨rfl, rfl, rfl, hafter.symm⟩
  | some target =>
    simp only [hafter] at h
    split at h
    · cases h
    · obtain ⟨operations, -, h⟩ := bind_eq_ok_iff.1 h
      cases h
      exact ⟨rfl, rfl, rfl, hafter.symm⟩

/-- **When an entry is read as a transition**: it comes after something, its flags and operations can be read, and every
line that sets out to type something is an operation. -/
theorem read_eq_transition_iff {e : RawEntry} {tr : Transition} :
    e.read = .ok (.transition tr) ↔ ∃ target flags operations, e.comesAfter = some target ∧
      readFlags e.title e.body = .ok flags ∧ (∀ l ∈ e.body, isUnreadableTyping l = false) ∧
      readOperations e.title e.body = .ok operations ∧
      tr = ⟨e.title, target, operations, flags, e.content, some e.line⟩ := by
  have hfind : e.body.find? isUnreadableTyping = none ↔ ∀ l ∈ e.body, isUnreadableTyping l = false := by
    simp only [List.find?_eq_none, Bool.not_eq_true]
  constructor
  · intro h
    obtain ⟨flags, hflags, h⟩ := bind_eq_ok_iff.1 h
    cases hafter : e.comesAfter with
    | none =>
      rw [hafter] at h
      cases h
    | some target =>
      simp only [hafter] at h
      split at h
      · cases h
      · next htyping =>
        obtain ⟨operations, hoperations, h⟩ := bind_eq_ok_iff.1 h
        cases h
        exact ⟨target, flags, operations, rfl, hflags, hfind.1 htyping, hoperations, rfl⟩
  · rintro ⟨target, flags, operations, hafter, hflags, htyping, hoperations, rfl⟩
    simp only [read, hflags, hafter, hfind.2 htyping, hoperations, bind, Except.bind]
    rfl

/-- a problem in one of these lines of an entry, about a flag, an operation or arguments that cannot be looked at -/
structure IsProblemIn (p : Problem) (title : Text) (ls : List NumberedLine) : Prop where
  line : ∃ l ∈ ls, p.line = some (l.number : Int)
  title : p.cause.title? = some title
  kind : p.cause.kind = .unrecognizedFlag ∨ p.cause.kind = .invalidOperation ∨ p.cause.kind = .internal

theorem IsProblemIn.cons {p : Problem} {title : Text} {ls : List NumberedLine} (h : IsProblemIn p title ls)
    (l : NumberedLine) : IsProblemIn p title (l :: ls) := by
  obtain ⟨m, hm, hline⟩ := h.line
  exact ⟨⟨m, List.mem_cons_of_mem l hm, hline⟩, h.title, h.kind⟩

theorem exists_of_readFlags {title : Text} {ls : List NumberedLine} {p : Problem}
    (h : readFlags title ls = .error p) :
    ∃ l ∈ ls, ∃ t, Line.flag? l.text = some t ∧ p = problemAt l (.unrecognizedFlag t title) := by
  induction ls with
  | nil => cases h
  | cons l ls ih =>
    rw [readFlags] at h
    split at h
    · obtain ⟨m, hm, t, ht, rfl⟩ := ih h
      exact ⟨m, List.mem_cons_of_mem l hm, t, ht, rfl⟩
    · next t ht =>
      split at h
      · cases h
        exact ⟨l, List.mem_cons_self, t, ht, rfl⟩
      · rcases bind_eq_error_iff.1 h with h | ⟨fs, -, h⟩
        · obtain ⟨m, hm, t, ht, rfl⟩ := ih h
          exact ⟨m, List.mem_cons_of_mem l hm, t, ht, rfl⟩
        · cases h

theorem exists_of_readTyping {title : Text} {l : NumberedLine} {command : Text} {args : Option Text} {p : Problem}
    (h : readTyping title l command args = .error p) :
    ∃ cause : Cause, p = problemAt l cause ∧ cause.title? = some title ∧ cause.kind = .invalidOperation := by
  unfold readTyping at h
  dsimp only at h
  split at h
  · cases h
    exact ⟨_, rfl, rfl, rfl⟩
  · split at h
    · cases h
      exact ⟨_, rfl, rfl, rfl⟩
    · cases h

theorem problem_of_readCommand {title : Text} {l : NumberedLine} {command : Text} {args : Option Text} {p : Problem}
    (h : readCommand title l command args = .error p) (ls : List NumberedLine) : IsProblemIn p title (l :: ls) := by
  unfold readCommand at h
  split at h
  · cases h
    exact ⟨⟨l, List.mem_cons_self, rfl⟩, rfl, Or.inr (Or.inr rfl)⟩
  · split at h
    · cases h
    · cases h
      exact ⟨⟨l, List.mem_cons_self, rfl⟩, rfl, Or.inr (Or.inl rfl)⟩

theorem problem_of_readOperations {title : Text} {ls : List NumberedLine} {p : Problem}
    (h : readOperations title ls = .error p) : IsProblemIn p title ls := by
  induction ls with
  | nil => cases h
  | cons l ls ih =>
    rw [readOperations] at h
    split at h
    · exact (ih h).cons l
    · rcases bind_eq_error_iff.1 h with h | ⟨o, -, h⟩
      · split at h
        · obtain ⟨cause, rfl, htitle, hkind⟩ := exists_of_readTyping h
          exact ⟨⟨l, List.mem_cons_self, rfl⟩, htitle, Or.inr (Or.inl hkind)⟩
        · exact problem_of_readCommand h ls
      · rcases bind_eq_error_iff.1 h with h | ⟨os, -, h⟩
        · exact (ih h).cons l
        · cases h

/-- **A problem of an entry is in its body.** -/
theorem problem_of_read {e : RawEntry} {p : Problem} (h : e.read = .error p) : IsProblemIn p e.title e.body := by
  rcases bind_eq_error_iff.1 h with h | ⟨flags, -, h⟩
  · obtain ⟨l, hl, t, -, rfl⟩ := exists_of_readFlags h
    exact ⟨⟨l, hl, rfl⟩, rfl, Or.inl rfl⟩
  · cases hafter : e.comesAfter with
    | none => rw [hafter] at h; cases h
    | some target =>
      simp only [hafter] at h
      split at h
      · next l hl =>
        cases h
        exact ⟨⟨l, List.mem_of_find?_eq_some hl, rfl⟩, rfl, Or.inr (Or.inl rfl)⟩
      · rcases bind_eq_error_iff.1 h with h | ⟨os, -, h⟩
        · exact problem_of_readOperations h
        · cases h

end RawEntry

end CursorSpec
