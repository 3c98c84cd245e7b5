/-
What discovery finds: files, each once, in the order of their names.

The order of paths is the order of their names, and that of names is the order of code points; both are total and
transitive, so that sorting by them sorts (`found_pairwise`). No path is found twice (`found_nodup`). What is found is
what the single paths stand for (`mem_found_iff`), and all of it are files (`isFile_of_mem_found`).

A pattern goes on from where it is followed, whatever its steps are (`prefix_of_mem_select`). So nothing is found but
the paths that were given and what goes on from them (`exists_prefix_of_mem_found`).
-/
import CursorSpec.Files.Discover
import CursorSpec.Proofs.Files.Tree

namespace CursorSpec

/-! ## The order of paths -/

namespace Text

theorem le_total (s t : Text) : le s t = true ∨ le t s = true := by
  induction s generalizing t with
  | nil => exact Or.inl (by simp [le])
  | cons a s ih =>
    cases t with
    | nil => exact Or.inr (by simp [le])
    | cons b t =>
      by_cases hab : a = b
      · simpa [le, hab] using ih t
      · have hne : a.toNat ≠ b.toNat := fun h => hab (Char.toNat_inj.1 h)
        rcases Nat.lt_or_gt_of_ne hne with hlt | hlt
        · exact Or.inl (by simpa [le, hab] using hlt)
        · exact Or.inr (by simpa [le, Ne.symm hab] using hlt)

theorem le_cons_cons_iff {a b : Char} {s t : Text} :
    le (a :: s) (b :: t) = true ↔ a.toNat < b.toNat ∨ a = b ∧ le s t = true := by
  rw [le]
  by_cases hab : a = b
  · simp [hab]
  · simp [hab]

theorem le_trans (s t u : Text) (hst : le s t = true) (htu : le t u = true) : le s u = true := by
  induction s generalizing t u with
  | nil => simp [le]
  | cons a s ih =>
    cases t with
    | nil => simp [le] at hst
    | cons b t =>
      cases u with
      | nil => simp [le] at htu
      | cons c u =>
        rw [le_cons_cons_iff] at hst htu ⊢
        rcases hst with hab | ⟨rfl, hst⟩
        · rcases htu with hbc | ⟨rfl, -⟩
          · exact Or.inl (hab.trans hbc)
          · exact Or.inl hab
        · exact htu.imp id fun ⟨hac, htu⟩ => ⟨hac, ih t u hst htu⟩

theorem le_antisymm {s t : Text} (hst : le s t = true) (hts : le t s = true) : s = t := by
  induction s generalizing t with
  | nil =>
    cases t with
    | nil => rfl
    | cons b t => simp [le] at hts
  | cons a s ih =>
    cases t with
    | nil => simp [le] at hst
    | cons b t =>
      rw [le_cons_cons_iff] at hst hts
      rcases hst with hab | ⟨rfl, hst⟩
      · rcases hts with hba | ⟨rfl, -⟩
        · omega
        · omega
      · rcases hts with hba | ⟨-, hts⟩
        · omega
        · rw [ih hst hts]

theorem leAll_cons_cons_iff {a b : Text} {s t : List Text} :
    leAll (a :: s) (b :: t) = true ↔ a ≠ b ∧ le a b = true ∨ a = b ∧ leAll s t = true := by
  rw [leAll]
  by_cases hab : a = b
  · simp [hab]
  · simp [hab]

theorem leAll_total (s t : List Text) : leAll s t = true ∨ leAll t s = true := by
  induction s generalizing t with
  | nil => exact Or.inl (by simp [leAll])
  | cons a s ih =>
    cases t with
    | nil => exact Or.inr (by simp [leAll])
    | cons b t =>
      by_cases hab : a = b
      · simpa [leAll, hab] using ih t
      · simpa [leAll, hab, Ne.symm hab] using le_total a b

theorem leAll_trans (s t u : List Text) (hst : leAll s t = true) (htu : leAll t u = true) : leAll s u = true := by
  induction s generalizing t u with
  | nil => simp [leAll]
  | cons a s ih =>
    cases t with
    | nil => simp [leAll] at hst
    | cons b t =>
      cases u with
      | nil => simp [leAll] at htu
      | cons c u =>
        rw [leAll_cons_cons_iff] at hst htu ⊢
        rcases hst with ⟨hab, hle⟩ | ⟨rfl, hst⟩
        · rcases htu with ⟨hbc, hle'⟩ | ⟨rfl, -⟩
          · -- the outer texts differ, or the one in the middle would be both of them
            refine Or.inl ⟨fun hac => hab ?_, le_trans a b c hle hle'⟩
            exact le_antisymm hle (hac ▸ hle')
          · exact Or.inl ⟨hab, hle⟩
        · exact htu.imp id fun ⟨hac, htu⟩ => ⟨hac, ih t u hst htu⟩

end Text

namespace Path

theorem le_total (p q : Path) : p.le q = true ∨ q.le p = true := Text.leAll_total p.key q.key

theorem le_trans (p q r : Path) (hpq : p.le q = true) (hqr : q.le r = true) : p.le r = true :=
  Text.leAll_trans p.key q.key r.key hpq hqr

end Path

namespace FileTree

/-! ## Each once -/

section Distinct

variable {α : Type} [BEq α] [LawfulBEq α]

theorem mem_distinct {x : α} {xs : List α} : x ∈ distinct xs ↔ x ∈ xs := by
  suffices h : ∀ acc : List α, x ∈ xs.foldl (fun acc y => if acc.contains y then acc else acc ++ [y]) acc ↔
      x ∈ acc ∨ x ∈ xs by simpa [distinct] using h []
  induction xs with
  | nil => simp
  | cons y xs ih =>
    intro acc
    rw [List.foldl_cons, ih]
    by_cases hy : y ∈ acc
    · have hmem : x = y → x ∈ acc := fun h => h ▸ hy
      simp only [List.contains_iff_mem, hy, if_true, List.mem_cons]
      tauto
    · simp only [List.contains_iff_mem, hy, if_false, List.mem_append, List.mem_cons]
      tauto

theorem nodup_distinct (xs : List α) : (distinct xs).Nodup := by
  suffices h : ∀ acc : List α, acc.Nodup →
      (xs.foldl (fun acc y => if acc.contains y then acc else acc ++ [y]) acc).Nodup from h [] List.nodup_nil
  induction xs with
  | nil => exact fun acc h => h
  | cons y xs ih =>
    intro acc h
    rw [List.foldl_cons]
    refine ih _ ?_
    split
    · exact h
    · next hy =>
      rw [List.contains_iff_mem] at hy
      refine h.append (List.nodup_singleton y) fun z hz hzy => hy ?_
      rw [List.mem_singleton.1 hzy] at hz
      exact hz

end Distinct

/-! ## What is found -/

variable {t : FileTree} {extension : Text} {paths : List Path} {p : Path}

/-- The paths that are found are in order. -/
theorem found_pairwise (t : FileTree) (extension : Text) (paths : List Path) :
    (t.discover extension paths).found.Pairwise fun p q => p.le q = true :=
  sortBy_pairwise Path.le_total Path.le_trans _

/-- No path is found twice. -/
theorem found_nodup (t : FileTree) (extension : Text) (paths : List Path) :
    (t.discover extension paths).found.Nodup :=
  (sortBy_perm Path.le _).nodup_iff.2 (nodup_distinct _)

theorem mem_found_iff : p ∈ (t.discover extension paths).found ↔ ∃ q ∈ paths, p ∈ t.specsAt extension q :=
  (sortBy_perm Path.le _).mem_iff.trans (mem_distinct.trans List.mem_flatMap)

/-- A path stands for itself, or for what the pattern leads to from it. -/
theorem of_mem_specsAt {q : Path} (h : p ∈ t.specsAt extension q) :
    t.isFile p = true ∧ (p = q ∨ ∃ cs, p ∈ t.select cs q) := by
  unfold specsAt at h
  split at h
  · next hfile =>
    obtain rfl := List.mem_singleton.1 h
    exact ⟨hfile, Or.inl rfl⟩
  · split at h
    · split at h
      · obtain ⟨hselect, hfile⟩ := List.mem_filter.1 h
        exact ⟨hfile, Or.inr ⟨_, hselect⟩⟩
      · cases h
    · cases h

/-- All that is found are files. -/
theorem isFile_of_mem_found (h : p ∈ (t.discover extension paths).found) : t.isFile p = true := by
  obtain ⟨q, -, hq⟩ := mem_found_iff.1 h
  exact (of_mem_specsAt hq).1

/-- A pattern is refused wherever the directories are the same. -/
theorem Keeps.refuses_eq {t' : FileTree} (h : t.Keeps t') (extension : Text) (paths : List Path) :
    t'.refuses extension paths = t.refuses extension paths := by
  rw [refuses, refuses, funext h.isDirectory_eq]

/-! ## Following a pattern -/

theorem mem_directoriesFrom_iff {q : Path} {d : Place} (hq : t.place q = .ok d) :
    p ∈ t.directoriesFrom q ↔
      p = q ∨ ∃ n ns, (d ++ n :: ns, .directory) ∈ t.items ∧ p = ⟨q.anchor, q.parts ++ n :: ns⟩ := by
  unfold directoriesFrom
  simp only [hq, List.mem_cons, List.mem_filterMap]
  refine or_congr_right ⟨?_, ?_⟩
  · rintro ⟨⟨r, i⟩, hmem, hp⟩
    cases i with
    | file c => cases hp
    | directory =>
      simp only [Option.ite_none_right_eq_some, Option.some.injEq, Bool.and_eq_true, decide_eq_true_eq,
        List.isPrefixOf_iff_prefix] at hp
      obtain ⟨⟨⟨ms, rfl⟩, hlength⟩, rfl⟩ := hp
      cases ms with
      | nil => simp at hlength
      | cons n ns => exact ⟨n, ns, hmem, by simp⟩
  · rintro ⟨n, ns, hmem, rfl⟩
    exact ⟨_, hmem, by simp⟩

theorem mem_namesIn_iff {q : Path} {d : Place} (hq : t.place q = .ok d) {n : Text} :
    n ∈ t.namesIn q ↔ ∃ i, (d ++ [n], i) ∈ t.items := by
  unfold namesIn
  simp only [hq, List.mem_filterMap, Option.ite_none_right_eq_some]
  constructor
  · rintro ⟨⟨r, i⟩, hmem, rfl, hlast⟩
    exact ⟨i, by rwa [List.dropLast_append_getLast? n hlast]⟩
  · rintro ⟨i, hmem⟩
    exact ⟨_, hmem, by simp, by simp⟩

/-- **What a pattern leads to goes on from where it was followed**, also where it goes up again. -/
theorem prefix_of_mem_select {cs : List Glob.Component} {q : Path} (h : p ∈ t.select cs q) :
    p.anchor = q.anchor ∧ q.parts <+: p.parts := by
  induction cs generalizing q with
  | nil =>
    rw [List.mem_singleton.1 h]
    exact ⟨rfl, List.prefix_rfl⟩
  | cons c cs ih =>
    -- a step by name takes one more name, and what follows it goes on from there
    have named (h : p ∈ (((t.namesFor q c).map q.child).filter (t.admits cs.isEmpty)).flatMap (t.select cs)) :
        p.anchor = q.anchor ∧ q.parts <+: p.parts := by
      obtain ⟨r, hr, hp⟩ := List.mem_flatMap.1 h
      obtain ⟨n, -, rfl⟩ := List.mem_map.1 (List.mem_of_mem_filter hr)
      obtain ⟨hanchor, hprefix⟩ := ih hp
      exact ⟨hanchor, (List.prefix_append q.parts [n]).trans hprefix⟩
    cases c with
    | slash =>
      rw [List.mem_singleton.1 h]
      exact ⟨rfl, List.prefix_rfl⟩
    | below =>
      obtain ⟨r, hr, hp⟩ := List.mem_flatMap.1 h
      obtain ⟨hanchor, hprefix⟩ := ih hp
      cases hq : t.place q with
      | error f => simp [directoriesFrom, hq] at hr
      | ok d =>
        rcases (mem_directoriesFrom_iff hq).1 hr with rfl | ⟨n, ns, -, rfl⟩
        · exact ⟨hanchor, hprefix⟩
        · exact ⟨hanchor, (List.prefix_append _ _).trans hprefix⟩
    | matching ps => exact named h
    | named n => exact named h

/-- **Every file that is found goes on from one of the paths**, whatever the extension is. -/
theorem exists_prefix_of_mem_found (h : p ∈ (t.discover extension paths).found) :
    ∃ q ∈ paths, p.anchor = q.anchor ∧ q.parts <+: p.parts := by
  obtain ⟨q, hq, hp⟩ := mem_found_iff.1 h
  refine ⟨q, hq, ?_⟩
  obtain ⟨-, rfl | ⟨cs, hselect⟩⟩ := of_mem_specsAt hp
  · exact ⟨rfl, List.prefix_rfl⟩
  · exact prefix_of_mem_select hselect

end FileTree

end CursorSpec
