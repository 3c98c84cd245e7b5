/-
What writing leaves of a tree, and where paths lead in it afterwards.

Writing puts a file at the place where a path lands (`landing?`) and changes nothing else (`write_eq_ok_iff`). It makes
no directory and takes none away, and what was there stays there: the tree is kept (`Keeps`). In a tree that is kept,
every path leads where it led (`Keeps.place`), so whoever goes on reading and writing finds the places of before.

A well-formed tree (`IsTree`) has at most one item at a place, and directories all the way to it. There a walk down to
something that is there always arrives (`IsTree.walk`).
-/
import CursorSpec.Files.Tree
import CursorSpec.Proofs.Except
import CursorSpec.Proofs.Lists

namespace CursorSpec.FileTree

variable {t t' t'' : FileTree}

/-! ## Items -/

@[simp] theorem item?_nil (t : FileTree) : t.item? [] = some .directory := rfl

theorem item?_of_ne_nil {p : Place} (hp : p ≠ []) :
    t.item? p = (t.items.find? fun i => decide (i.1 = p)).map (·.2) := by
  rw [item?, if_neg (by simpa using hp)]

theorem item?_put_self {p : Place} (hp : p ≠ []) (i : Item) : (t.put p i).item? p = some i := by
  have hnone : (t.items.filter fun j => decide (j.1 ≠ p)).find? (fun j => decide (j.1 = p)) = none := by
    rw [List.find?_eq_none]
    intro j hj
    simpa using (List.mem_filter.1 hj).2
  rw [item?_of_ne_nil hp, put, List.find?_append, hnone]
  simp

theorem item?_put_of_ne {p q : Place} (h : q ≠ p) (i : Item) : (t.put p i).item? q = t.item? q := by
  by_cases hq : q = []
  · rw [hq, item?_nil, item?_nil]
  · have hp : ¬p = q := fun hpq => h hpq.symm
    have hsame : ((t.items.filter fun j => decide (j.1 ≠ p)).find? fun j => decide (j.1 = q)) =
        t.items.find? fun j => decide (j.1 = q) := by
      rw [List.find?_filter]
      congr 1
      funext j
      by_cases hj : j.1 = q
      · simp [hj, h]
      · simp [hj]
    rw [item?_of_ne_nil hq, item?_of_ne_nil hq, put, List.find?_append, hsame]
    simp [hp]

/-! ## Trees that are kept -/

/-- The directories of `t'` are those of `t`, and what is in `t` is also in `t'`, maybe with other contents. -/
structure Keeps (t t' : FileTree) : Prop where
  directory : ∀ p, t'.item? p = some .directory ↔ t.item? p = some .directory
  present : ∀ p, t.item? p ≠ none → t'.item? p ≠ none

theorem Keeps.refl (t : FileTree) : t.Keeps t := ⟨fun _ => Iff.rfl, fun _ h => h⟩

theorem Keeps.trans (h : t.Keeps t') (h' : t'.Keeps t'') : t.Keeps t'' :=
  ⟨fun p => (h'.directory p).trans (h.directory p), fun p hp => h'.present p (h.present p hp)⟩

/-- A file put where there is no directory keeps a tree. -/
theorem keeps_put {p : Place} {c : Content} (hp : t.item? p ≠ some .directory) : t.Keeps (t.put p (.file c)) := by
  have hne : p ≠ [] := fun h => hp (by rw [h, item?_nil])
  constructor
  · intro q
    by_cases hq : q = p
    · rw [hq, item?_put_self hne]
      exact iff_of_false (by simp) hp
    · rw [item?_put_of_ne hq]
  · intro q hq
    by_cases hqp : q = p
    · rw [hqp, item?_put_self hne]
      simp
    · rwa [item?_put_of_ne hqp]

/-! ## Walking -/

theorem walk_cons_eq_ok_iff {base d : Place} {n : Text} {ns : List Text} :
    t.walk base (n :: ns) = .ok d ↔ t.item? base = some .directory ∧
      (n = ['.', '.'] ∧ base ≠ [] ∧ t.walk base.dropLast ns = .ok d ∨
        n ≠ ['.', '.'] ∧ t.item? (base ++ [n]) ≠ none ∧ t.walk (base ++ [n]) ns = .ok d) := by
  rw [walk]
  by_cases hbase : t.item? base = some .directory
  · by_cases hn : n = ['.', '.']
    · by_cases hnil : base = [] <;> simp [hbase, hn, hnil]
    · cases t.item? (base ++ [n]) <;> simp [hbase, hn]
  · simp [hbase]

theorem walk_append {base : Place} {ns ms : List Text} :
    t.walk base (ns ++ ms) = t.walk base ns >>= fun d => t.walk d ms := by
  induction ns generalizing base with
  | nil => rfl
  | cons n ns ih =>
    rw [List.cons_append, walk, walk]
    split
    · rfl
    · split
      · split
        · rfl
        · exact ih
      · split
        · rfl
        · exact ih

theorem Keeps.walk (h : t.Keeps t') {base d : Place} {ns : List Text} (hd : t.walk base ns = .ok d) :
    t'.walk base ns = .ok d := by
  induction ns generalizing base with
  | nil => exact hd
  | cons n ns ih =>
    obtain ⟨hbase, hstep⟩ := walk_cons_eq_ok_iff.1 hd
    refine walk_cons_eq_ok_iff.2 ⟨(h.directory base).2 hbase, ?_⟩
    rcases hstep with ⟨hn, hne, hd⟩ | ⟨hn, hitem, hd⟩
    · exact Or.inl ⟨hn, hne, ih hd⟩
    · exact Or.inr ⟨hn, h.present _ hitem, ih hd⟩

theorem place_eq_ok_iff {p : Path} {d : Place} :
    t.place p = .ok d ↔ p.anchor ≠ .outside ∧ t.walk [] p.parts = .ok d := by
  unfold place
  split
  · next h => simp [h]
  · next h => simp [h]

/-- Where a path leads it leads in every tree that keeps the tree. -/
theorem Keeps.place (h : t.Keeps t') {p : Path} {d : Place} (hd : t.place p = .ok d) : t'.place p = .ok d := by
  obtain ⟨hanchor, hd⟩ := place_eq_ok_iff.1 hd
  exact place_eq_ok_iff.2 ⟨hanchor, h.walk hd⟩

theorem directory_of_walk {base d : Place} {ns : List Text} (hd : t.walk base ns = .ok d)
    (directory : t.item? d = some .directory) : t.item? base = some .directory := by
  cases ns with
  | nil =>
    cases hd
    exact directory
  | cons n ns => exact (walk_cons_eq_ok_iff.1 hd).1

/-- No way to a directory is new in a tree that keeps the tree: all in the way are directories. -/
theorem Keeps.walk_of_directory (h : t.Keeps t') {base d : Place} {ns : List Text} (hd : t'.walk base ns = .ok d)
    (directory : t'.item? d = some .directory) : t.walk base ns = .ok d := by
  induction ns generalizing base with
  | nil => exact hd
  | cons n ns ih =>
    obtain ⟨hbase, hstep⟩ := walk_cons_eq_ok_iff.1 hd
    refine walk_cons_eq_ok_iff.2 ⟨(h.directory base).1 hbase, ?_⟩
    rcases hstep with ⟨hn, hne, hd⟩ | ⟨hn, -, hd⟩
    · exact Or.inl ⟨hn, hne, ih hd⟩
    · have hdown := (h.directory _).1 (directory_of_walk hd directory)
      exact Or.inr ⟨hn, by simp [hdown], ih hd⟩

/-- The names of a path but for the last lead to a directory, if the path leads anywhere. -/
theorem place_dropLast {p : Path} {w : Place} (hw : t.place p = .ok w) (hp : p.parts ≠ []) :
    ∃ d, t.place ⟨p.anchor, p.parts.dropLast⟩ = .ok d ∧ t.item? d = some .directory := by
  obtain ⟨hanchor, hw⟩ := place_eq_ok_iff.1 hw
  rw [← List.dropLast_append_getLast hp, walk_append] at hw
  obtain ⟨d, hd, hw⟩ := bind_eq_ok_iff.1 hw
  exact ⟨d, place_eq_ok_iff.2 ⟨hanchor, hd⟩, (walk_cons_eq_ok_iff.1 hw).1⟩

/-! ## Reading -/

theorem at?_eq_some_iff {p : Path} {i : Item} : t.at? p = some i ↔ ∃ w, t.place p = .ok w ∧ t.item? w = some i := by
  unfold at?
  cases t.place p <;> simp [Except.toOption]

theorem isFile_iff {p : Path} : t.isFile p = true ↔ ∃ c, t.at? p = some (.file c) := by
  unfold isFile
  split
  · next c h => exact iff_of_true rfl ⟨c, h⟩
  · next h => exact iff_of_false (by simp) fun ⟨c, hc⟩ => h c hc

theorem isDirectory_of_isFile {p : Path} (file : t.isFile p = true) : t.isDirectory p = false := by
  obtain ⟨c, hc⟩ := isFile_iff.1 file
  simp [isDirectory, hc]

/-- A file is replaced by a file only. -/
theorem Keeps.isFile (h : t.Keeps t') {p : Path} (file : t.isFile p = true) : t'.isFile p = true := by
  obtain ⟨c, hc⟩ := isFile_iff.1 file
  obtain ⟨w, hw, hitem⟩ := at?_eq_some_iff.1 hc
  cases hi : t'.item? w with
  | none => exact absurd hi (h.present w (by simp [hitem]))
  | some i =>
    cases i with
    | file c => exact isFile_iff.2 ⟨c, at?_eq_some_iff.2 ⟨w, h.place hw, hi⟩⟩
    | directory => cases hitem.symm.trans ((h.directory w).1 hi)

theorem isDirectory_iff {p : Path} :
    t.isDirectory p = true ↔ ∃ w, t.place p = .ok w ∧ t.item? w = some .directory := by
  rw [isDirectory, decide_eq_true_iff, at?_eq_some_iff]

/-- The same paths lead to directories. -/
theorem Keeps.isDirectory_eq (h : t.Keeps t') (p : Path) : t'.isDirectory p = t.isDirectory p := by
  rw [Bool.eq_iff_iff, isDirectory_iff, isDirectory_iff]
  constructor
  · rintro ⟨w, hw, directory⟩
    obtain ⟨hanchor, hwalk⟩ := place_eq_ok_iff.1 hw
    exact ⟨w, place_eq_ok_iff.2 ⟨hanchor, h.walk_of_directory hwalk directory⟩, (h.directory w).1 directory⟩
  · rintro ⟨w, hw, directory⟩
    exact ⟨w, h.place hw, (h.directory w).2 directory⟩

theorem isFile_iff_place {p : Path} : t.isFile p = true ↔ ∃ w c, t.place p = .ok w ∧ t.item? w = some (.file c) := by
  simp only [isFile_iff, at?_eq_some_iff]
  exact ⟨fun ⟨c, w, h⟩ => ⟨w, c, h⟩, fun ⟨w, c, h⟩ => ⟨c, w, h⟩⟩

/-- What a file reads as depends on its contents alone. -/
theorem read_of_place {p : Path} {w : Place} {c : Content} (hw : t.place p = .ok w) (hc : t.item? w = some (.file c)) :
    t.read p = match c.decode? with
      | some text => .ok (Text.lineFeeds text)
      | none => .error .undecodable := by
  unfold read
  cases hdecode : c.decode? <;> simp [hw, hc, hdecode, bind, Except.bind, pure, Except.pure]

/-- Reading a file fails only if it is not text. -/
theorem read_eq_error_of_isFile {p : Path} {f : FileFault} (file : t.isFile p = true) (h : t.read p = .error f) :
    f = .undecodable := by
  obtain ⟨w, c, hw, hc⟩ := isFile_iff_place.1 file
  rw [read_of_place hw hc] at h
  cases hdecode : c.decode? with
  | none =>
    rw [hdecode] at h
    exact (Except.error.inj h).symm
  | some text =>
    rw [hdecode] at h
    cases h

/-! ## Writing -/

/-- the place where a file written to a path lands -/
def landing? (t : FileTree) (p : Path) : Option Place := do
  let name ← p.parts.getLast?
  let d ← (t.place ⟨p.anchor, p.parts.dropLast⟩).toOption
  return d ++ [name]

theorem landing?_eq_some_iff {p : Path} {w : Place} :
    t.landing? p = some w ↔
      ∃ name d, p.parts.getLast? = some name ∧ t.place ⟨p.anchor, p.parts.dropLast⟩ = .ok d ∧ w = d ++ [name] := by
  unfold landing?
  cases p.parts.getLast? with
  | none => simp
  | some name => cases t.place ⟨p.anchor, p.parts.dropLast⟩ <;> simp [Except.toOption, eq_comm]

theorem Keeps.landing? (h : t.Keeps t') {p : Path} {w : Place} (hw : t.landing? p = some w) :
    t'.landing? p = some w := by
  obtain ⟨name, d, hname, hd, rfl⟩ := landing?_eq_some_iff.1 hw
  exact landing?_eq_some_iff.2 ⟨name, d, hname, h.place hd, rfl⟩

/-- whether a path can be written to: it has no zero character and lands beside what a directory holds, on no
directory -/
structure Takes (t : FileTree) (p : Path) (w : Place) : Prop where
  nonzero : p.hasZero = false
  landing : t.landing? p = some w
  parent : t.item? w.dropLast = some .directory
  named : w.getLast? ≠ some ['.', '.']
  free : t.item? w ≠ some .directory

theorem write_of_hasZero {p : Path} (hzero : p.hasZero = true) (text : Text) :
    t.write p text = .error .zeroCharacter := if_pos hzero

theorem write_eq_ok_iff {p : Path} {text : Text} :
    t.write p text = .ok t' ↔ ∃ w, t.Takes p w ∧ t' = t.put w (.file (.text text)) := by
  cases hzero : p.hasZero with
  | true =>
    refine iff_of_false (by simp [write_of_hasZero hzero]) ?_
    rintro ⟨w, takes, -⟩
    cases hzero.symm.trans takes.nonzero
  | false =>
    rw [write, if_neg (Bool.eq_false_iff.1 hzero)]
    cases hname : p.parts.getLast? with
    | none =>
      refine iff_of_false (by simp) ?_
      rintro ⟨w, takes, -⟩
      obtain ⟨name, d, h, -⟩ := landing?_eq_some_iff.1 takes.landing
      cases hname.symm.trans h
    | some name =>
      cases hd : t.place ⟨p.anchor, p.parts.dropLast⟩ with
      | error f =>
        refine iff_of_false (by simp [bind, Except.bind]) ?_
        rintro ⟨w, takes, -⟩
        obtain ⟨name, d, -, h, -⟩ := landing?_eq_some_iff.1 takes.landing
        cases hd.symm.trans h
      | ok d =>
        have hland : t.landing? p = some (d ++ [name]) := landing?_eq_some_iff.2 ⟨name, d, hname, hd, rfl⟩
        have htakes : (∃ w, t.Takes p w ∧ t' = t.put w (.file (.text text))) ↔
            (t.item? d = some .directory ∧ name ≠ ['.', '.'] ∧ t.item? (d ++ [name]) ≠ some .directory) ∧
              t' = t.put (d ++ [name]) (.file (.text text)) := by
          constructor
          · rintro ⟨w, ⟨-, landing, parent, named, free⟩, rfl⟩
            obtain rfl : w = d ++ [name] := Option.some.inj (landing.symm.trans hland)
            exact ⟨⟨by simpa using parent, by simpa using named, free⟩, rfl⟩
          · rintro ⟨⟨parent, named, free⟩, rfl⟩
            exact ⟨_, ⟨hzero, hland, by simpa using parent, by simpa using named, free⟩, rfl⟩
        rw [htakes]
        by_cases hdir : t.item? d = some .directory
        · by_cases hdots : name = ['.', '.']
          · simp [bind, Except.bind, hdir, hdots]
          · by_cases hfree : t.item? (d ++ [name]) = some .directory
            · simp [bind, Except.bind, hdir, hfree]
            · simp [bind, Except.bind, pure, Except.pure, hdir, hdots, hfree, eq_comm]
        · simp [bind, Except.bind, hdir]

/-- A path that lands beside what a directory holds is refused only for a zero character, and where a directory is. -/
theorem write_eq_error_iff {p : Path} {w : Place} {text : Text} {f : FileFault} (landing : t.landing? p = some w)
    (parent : t.item? w.dropLast = some .directory) :
    t.write p text = .error f ↔ f = .zeroCharacter ∧ p.hasZero = true ∨
      f = .isDirectory ∧ p.hasZero = false ∧ (w.getLast? = some ['.', '.'] ∨ t.item? w = some .directory) := by
  cases hzero : p.hasZero with
  | true => simp [write_of_hasZero hzero, eq_comm]
  | false =>
    obtain ⟨name, d, hname, hd, rfl⟩ := landing?_eq_some_iff.1 landing
    have hdir : t.item? d = some .directory := by simpa using parent
    rw [write, if_neg (Bool.eq_false_iff.1 hzero)]
    by_cases hdots : name = ['.', '.']
    · simp [hname, hd, hdir, hdots, bind, Except.bind, eq_comm]
    · by_cases hfree : t.item? (d ++ [name]) = some .directory
      · simp [hname, hd, hdir, hfree, bind, Except.bind, eq_comm]
      · simp [hname, hd, hdir, hdots, hfree, bind, Except.bind, pure, Except.pure]

theorem Keeps.takes_iff (h : t.Keeps t') {p : Path} {w : Place} (landing : t.landing? p = some w) :
    t'.Takes p w ↔ t.Takes p w := by
  constructor
  · rintro ⟨nonzero, -, parent, named, free⟩
    exact ⟨nonzero, landing, (h.directory _).1 parent, named, fun hw => free ((h.directory w).2 hw)⟩
  · rintro ⟨nonzero, -, parent, named, free⟩
    exact ⟨nonzero, h.landing? landing, (h.directory _).2 parent, named, fun hw => free ((h.directory w).1 hw)⟩

theorem Takes.ne_nil {p : Path} {w : Place} (h : t.Takes p w) : w ≠ [] := fun hw => h.free (by rw [hw, item?_nil])

/-- What is written to is where the path leads from then on. -/
theorem Takes.place_put {p : Path} {w : Place} {c : Content} (h : t.Takes p w) :
    (t.put w (.file c)).place p = .ok w := by
  have hkeeps : t.Keeps (t.put w (.file c)) := keeps_put h.free
  obtain ⟨name, d, hname, hd, rfl⟩ := landing?_eq_some_iff.1 h.landing
  obtain ⟨hanchor, hd⟩ := place_eq_ok_iff.1 (hkeeps.place hd)
  have hparts : p.parts = p.parts.dropLast ++ [name] := (List.dropLast_append_getLast? name hname).symm
  have hparent : t.item? d = some .directory := by simpa using h.parent
  have hnamed : name ≠ ['.', '.'] := by simpa using h.named
  have hstep : (t.put (d ++ [name]) (.file c)).walk d [name] = .ok (d ++ [name]) := by
    refine walk_cons_eq_ok_iff.2 ⟨(hkeeps.directory d).2 hparent, Or.inr ⟨hnamed, ?_, rfl⟩⟩
    rw [item?_put_self h.ne_nil]
    simp
  refine place_eq_ok_iff.2 ⟨hanchor, ?_⟩
  rw [hparts, walk_append, hd]
  exact hstep

/-! ## Well-formed trees -/

def IsName (n : Text) : Prop := n ≠ [] ∧ n ≠ ['.'] ∧ n ≠ ['.', '.'] ∧ '/' ∉ n ∧ Text.zero ∉ n

instance (n : Text) : Decidable (IsName n) := inferInstanceAs (Decidable (_ ∧ _))

/-- At most one item is at a place, it has a name, and it is in a directory. -/
structure IsTree (t : FileTree) : Prop where
  distinct : (t.items.map (·.1)).Nodup
  named : ∀ i ∈ t.items, i.1 ≠ [] ∧ ∀ n ∈ i.1, IsName n
  parent : ∀ i ∈ t.items, t.item? i.1.dropLast = some .directory

instance (t : FileTree) : Decidable t.IsTree :=
  decidable_of_iff (_ ∧ _ ∧ _) ⟨fun ⟨h₁, h₂, h₃⟩ => ⟨h₁, h₂, h₃⟩, fun ⟨h₁, h₂, h₃⟩ => ⟨h₁, h₂, h₃⟩⟩

namespace IsTree

theorem item?_of_mem (tree : t.IsTree) {i : Place × Item} (hi : i ∈ t.items) : t.item? i.1 = some i.2 := by
  rw [item?_of_ne_nil (tree.named i hi).1, find?_of_nodup_map tree.distinct hi]
  rfl

theorem mem_of_item? {p : Place} {i : Item} (hp : p ≠ []) (h : t.item? p = some i) : (p, i) ∈ t.items := by
  rw [item?_of_ne_nil hp] at h
  obtain ⟨j, hj, rfl⟩ := Option.map_eq_some_iff.1 h
  have hkey : j.1 = p := by simpa using List.find?_some hj
  exact hkey ▸ List.mem_of_find?_eq_some hj

/-- All that is in the way to something that is there is a directory. -/
theorem item?_of_append (tree : t.IsTree) {p : Place} {n : Text} {ns : List Text}
    (h : t.item? (p ++ n :: ns) ≠ none) : t.item? p = some .directory := by
  induction ns using List.reverseRecOn generalizing n with
  | nil =>
    obtain ⟨i, hi⟩ := Option.ne_none_iff_exists'.1 h
    simpa using tree.parent _ (mem_of_item? (by simp) hi)
  | append_singleton ns m ih =>
    obtain ⟨i, hi⟩ := Option.ne_none_iff_exists'.1 h
    have hparent := tree.parent _ (mem_of_item? (by simp) hi)
    have hdrop : (p ++ n :: (ns ++ [m])).dropLast = p ++ n :: ns := by
      rw [← List.cons_append, ← List.append_assoc, List.dropLast_concat]
    rw [hdrop] at hparent
    exact ih (by rw [hparent]; simp)

/-- The names down to something that is there lead to it. -/
theorem walk (tree : t.IsTree) {p : Place} {ns : List Text} (h : t.item? (p ++ ns) ≠ none) :
    t.walk p ns = .ok (p ++ ns) := by
  induction ns generalizing p with
  | nil => simp [FileTree.walk]
  | cons n ns ih =>
    obtain ⟨i, hi⟩ := Option.ne_none_iff_exists'.1 h
    have hmem := mem_of_item? (by simp) hi
    have hn : n ≠ ['.', '.'] := ((tree.named _ hmem).2 n (by simp)).2.2.1
    have hsplit : p ++ n :: ns = (p ++ [n]) ++ ns := by simp
    have hitem : t.item? (p ++ [n]) ≠ none := by
      cases ns with
      | nil => exact h
      | cons m ns => rw [tree.item?_of_append (hsplit ▸ h)]; simp
    rw [walk_cons_eq_ok_iff]
    refine ⟨tree.item?_of_append h, Or.inr ⟨hn, hitem, ?_⟩⟩
    rw [hsplit] at h ⊢
    exact ih h

end IsTree

end CursorSpec.FileTree
