/-
The names of files, and of what is written beside them.

In a well-formed tree a path to a file ends with the name of the file, never with a double dot (`getLast?_of_isFile`),
so two paths to one file end alike (`name_eq_of_place`). Behind the stem of a file, a suffix without slashes that ends
as a module does makes the name of a file again (`withName?_stem`). What is written to a path is what the path leads to:
both are at the place where it lands (`at?_of_landing?`).
-/
import CursorSpec.Proofs.Files.Tree

namespace CursorSpec

namespace Text

theorem splitOn_of_notMem {sep : Char} {t : Text} (h : sep ∉ t) : splitOn sep t = [t] := by
  induction t with
  | nil => rfl
  | cons c t ih =>
    rw [List.mem_cons, not_or] at h
    obtain ⟨hc, ht⟩ := h
    rw [splitOn, if_neg (Ne.symm hc), ih ht]

end Text

namespace Path

variable {p : Path}

/-- A text without slashes is one name, unless it is empty or a dot. -/
theorem partsOf_of_notMem {name : Text} (slash : '/' ∉ name) (ne_nil : name ≠ []) (ne_dot : name ≠ ['.']) :
    partsOf name = [name] := by
  simp [partsOf, Text.splitOn_of_notMem slash, ne_nil, ne_dot]

/-- A path whose last name is one name is spelled as it is read. -/
theorem plain_concat {a : Anchor} {ns : List Text} {name : Text} (slash : '/' ∉ name) (ne_nil : name ≠ [])
    (ne_dot : name ≠ ['.']) : plain ⟨a, ns ++ [name]⟩ = ⟨a, ns ++ [name]⟩ := by
  simp [plain, Path.name, partsOf_of_notMem slash ne_nil ne_dot]

theorem withName?_eq {name : Text} (parts : p.parts ≠ []) (slash : '/' ∉ name) (ne_nil : name ≠ [])
    (ne_dot : name ≠ ['.']) : p.withName? name = some ⟨p.anchor, p.parts.dropLast ++ [name]⟩ := by
  have hlast : name.getLast? ≠ some '/' := fun h => slash (List.mem_of_getLast? h)
  have hhead : name.head? ≠ some '/' := fun h => slash (List.mem_of_head? h)
  simp [withName?, isAbsolute, partsOf_of_notMem slash ne_nil ne_dot, parts, ne_nil, hlast, hhead]

theorem name_mem_parts (parts : p.parts ≠ []) : p.name ∈ p.parts := by
  rw [name, List.getLast?_eq_some_getLast parts]
  exact List.getLast_mem parts

theorem mem_name_of_mem_stem {c : Char} (h : c ∈ p.stem) : c ∈ p.name := by
  unfold stem at h
  simp only at h
  split at h
  · exact h
  · exact List.mem_of_mem_take h

/-- A name that ends as a module does is neither empty nor made of dots. -/
theorem ne_of_endsWith {name : Text} (ends : Text.endsWith name ".py" = true) :
    name ≠ [] ∧ name ≠ ['.'] ∧ name ≠ ['.', '.'] := by
  have hsuffix : ['.', 'p', 'y'] <:+ name := List.isSuffixOf_iff_suffix.1 ends
  have hlength : 3 ≤ name.length := hsuffix.length_le
  refine ⟨?_, ?_, ?_⟩ <;> rintro rfl <;> simp at hlength

/-- What is written behind the stem of a name without slashes makes a file name. -/
theorem withName?_stem {suffix : Text} (parts : p.parts ≠ []) (name : '/' ∉ p.name) (slash : '/' ∉ suffix)
    (ends : Text.endsWith suffix ".py" = true) :
    let q : Path := ⟨p.anchor, p.parts.dropLast ++ [p.stem ++ suffix]⟩
    p.withName? (p.stem ++ suffix) = some q ∧ q.plain = q ∧ p.stem ++ suffix ≠ ['.', '.'] := by
  have hends : Text.endsWith (p.stem ++ suffix) ".py" = true := by
    have hsuffix : ['.', 'p', 'y'] <:+ suffix := List.isSuffixOf_iff_suffix.1 ends
    exact List.isSuffixOf_iff_suffix.2 (hsuffix.trans (List.suffix_append _ _))
  have hslash : '/' ∉ p.stem ++ suffix := fun h =>
    (List.mem_append.1 h).elim (fun h => name (mem_name_of_mem_stem h)) slash
  obtain ⟨ne_nil, ne_dot, ne_dots⟩ := ne_of_endsWith hends
  exact ⟨withName?_eq parts hslash ne_nil ne_dot, plain_concat hslash ne_nil ne_dot, ne_dots⟩

end Path

namespace FileTree

variable {t : FileTree} {p q : Path} {w : Place}

/-- The directory that something is in. -/
theorem IsTree.item?_dropLast (tree : t.IsTree) (h : t.item? w ≠ none) : t.item? w.dropLast = some .directory := by
  by_cases hw : w = []
  · simp [hw]
  · obtain ⟨i, hi⟩ := Option.ne_none_iff_exists'.1 h
    exact tree.parent _ (IsTree.mem_of_item? hw hi)

/-- A path to a file ends with the name of the file. -/
theorem getLast?_of_isFile (tree : t.IsTree) {c : Content} (hw : t.place p = .ok w) (hc : t.item? w = some (.file c)) :
    ∃ n, p.parts.getLast? = some n ∧ w.getLast? = some n := by
  obtain ⟨-, hwalk⟩ := place_eq_ok_iff.1 hw
  have hparts : p.parts ≠ [] := by
    intro h
    rw [h] at hwalk
    cases hwalk
    cases hc
  obtain ⟨d, hd, hdir⟩ := place_dropLast hw hparts
  rw [← List.dropLast_append_getLast hparts, walk_append, (place_eq_ok_iff.1 hd).2] at hwalk
  rcases walk_cons_eq_ok_iff.1 hwalk with ⟨-, ⟨-, -, hup⟩ | ⟨-, -, hdown⟩⟩
  · -- a double dot would lead to a directory
    cases hup
    cases hc.symm.trans (tree.item?_dropLast (by rw [hdir]; simp))
  · cases hdown
    exact ⟨p.parts.getLast hparts, List.getLast?_eq_some_getLast hparts, by simp⟩

/-- Two paths to one file end with one name. -/
theorem name_eq_of_place (tree : t.IsTree) {c : Content} (hp : t.place p = .ok w) (hq : t.place q = .ok w)
    (hc : t.item? w = some (.file c)) : p.name = q.name := by
  obtain ⟨n, hn, hw⟩ := getLast?_of_isFile tree hp hc
  obtain ⟨m, hm, hw'⟩ := getLast?_of_isFile tree hq hc
  rw [Path.name, Path.name, hn, hm, ← hw, ← hw']

/-- The name of a file has no slash in it. -/
theorem name_of_isFile (tree : t.IsTree) (file : t.isFile p = true) : p.parts ≠ [] ∧ '/' ∉ p.name := by
  obtain ⟨w, c, hw, hc⟩ := isFile_iff_place.1 file
  obtain ⟨n, hn, hlast⟩ := getLast?_of_isFile tree hw hc
  have hmem : (w, Item.file c) ∈ t.items := by
    refine IsTree.mem_of_item? ?_ hc
    rintro rfl
    cases hlast
  have hparts : p.parts ≠ [] := by
    intro h
    rw [h] at hn
    cases hn
  refine ⟨hparts, ?_⟩
  rw [Path.name, hn]
  exact ((tree.named _ hmem).2 n (List.mem_of_getLast? hlast)).2.2.2.1

/-- In a well-formed tree no name on the way to anything has a zero character. -/
theorem IsTree.zero_notMem_of_walk (tree : t.IsTree) {base d : Place} {ns : List Text} (h : t.walk base ns = .ok d) :
    ∀ n ∈ ns, Text.zero ∉ n := by
  induction ns generalizing base with
  | nil => exact nofun
  | cons n ns ih =>
    rw [List.forall_mem_cons]
    rcases walk_cons_eq_ok_iff.1 h with ⟨-, ⟨rfl, -, h⟩ | ⟨-, hitem, h⟩⟩
    · exact ⟨by decide, ih h⟩
    · obtain ⟨i, hi⟩ := Option.ne_none_iff_exists'.1 hitem
      have hname := (tree.named _ (IsTree.mem_of_item? (by simp) hi)).2 n (by simp)
      exact ⟨hname.2.2.2.2, ih h⟩

/-- Names without a double dot lead straight down. -/
theorem walk_eq_append {base d : Place} {ns : List Text} (straight : ['.', '.'] ∉ ns) (h : t.walk base ns = .ok d) :
    d = base ++ ns := by
  induction ns generalizing base with
  | nil =>
    cases h
    simp
  | cons n ns ih =>
    rw [List.mem_cons, not_or] at straight
    rcases walk_cons_eq_ok_iff.1 h with ⟨-, ⟨hdots, -⟩ | ⟨-, -, h⟩⟩
    · exact absurd hdots.symm straight.1
    · rw [ih straight.2 h, List.append_assoc, List.singleton_append]

/-- In a well-formed tree names without a double dot lead from a directory to what is below it. -/
theorem IsTree.at?_append (tree : t.IsTree) (hp : t.place p = .ok w) {ns : List Text} (straight : ['.', '.'] ∉ ns) :
    t.at? ⟨p.anchor, p.parts ++ ns⟩ = t.item? (w ++ ns) := by
  obtain ⟨hanchor, hwalk⟩ := place_eq_ok_iff.1 hp
  have hplace : t.place ⟨p.anchor, p.parts ++ ns⟩ = t.walk w ns := by
    rw [FileTree.place, if_neg hanchor, walk_append, hwalk]
    rfl
  rw [at?, hplace]
  cases hw : t.walk w ns with
  | ok v =>
    obtain rfl := walk_eq_append straight hw
    rfl
  | error f =>
    cases hitem : t.item? (w ++ ns) with
    | none => rfl
    | some i =>
      rw [tree.walk (by simp [hitem])] at hw
      cases hw

/-- A path leads to what is at the place where it lands. -/
theorem at?_of_landing? (landing : t.landing? p = some w) (parent : t.item? w.dropLast = some .directory)
    (named : w.getLast? ≠ some ['.', '.']) : t.at? p = t.item? w := by
  obtain ⟨n, d, hn, hd, rfl⟩ := landing?_eq_some_iff.1 landing
  obtain ⟨hanchor, hd⟩ := place_eq_ok_iff.1 hd
  have hparts : p.parts = p.parts.dropLast ++ [n] := (List.dropLast_append_getLast? n hn).symm
  have hparent : t.item? d = some .directory := by simpa using parent
  have hdots : n ≠ ['.', '.'] := by simpa using named
  have hplace : t.place p = t.walk d [n] := by
    rw [FileTree.place, if_neg hanchor, hparts, walk_append, hd]
    rfl
  rw [at?, hplace, FileTree.walk, if_neg (by simp [hparent]), if_neg hdots]
  cases hitem : t.item? (d ++ [n]) with
  | none => simp [Except.toOption]
  | some i => simp [Except.toOption, FileTree.walk, hitem]

end FileTree

end CursorSpec
