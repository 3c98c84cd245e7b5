/-
What discovery finds is a set, written in one way.

An extension that stands for itself makes a pattern of one step (`components?_pattern`), which matches the names that
end with it (`matchPieces_iff_endsWith`). So a path is found exactly if it is a file that is named, or a file below a
directory that is named whose own name ends with the extension (`mem_found_iff_isFile`). In a well-formed tree two files
whose paths are spelled alike are the same path (`eq_of_key`), so what is found is in strict order and is determined by
what is in it (`found_congr`).
`found_canonical` puts this together: the order and the number of times in which paths are named do not matter, nor do
paths that lead nowhere, nor directories below others that are named.
-/
import CursorSpec.Proofs.Files.Discovery
import CursorSpec.Proofs.Files.Naming

namespace CursorSpec

/-! ## Names with an extension -/

namespace Glob

/-- whether no character of a text means anything but itself in a pattern -/
def IsPlain (t : Text) : Prop := ∀ c ∈ t, c ≠ '*' ∧ c ≠ '?' ∧ c ≠ '['

theorem piecesFrom_of_isPlain {t : Text} (plain : IsPlain t) {fuel : Nat} (hfuel : t.length ≤ fuel) :
    piecesFrom fuel t = t.map .char := by
  induction t generalizing fuel with
  | nil => cases fuel <;> rfl
  | cons c t ih =>
    obtain ⟨fuel, rfl⟩ : ∃ n, fuel = n + 1 := ⟨fuel - 1, by simp only [List.length_cons] at hfuel; omega⟩
    obtain ⟨hstar, hquestion, hbracket⟩ := plain c List.mem_cons_self
    have hrest := ih (fun d hd => plain d (List.mem_cons_of_mem c hd)) (Nat.le_of_succ_le_succ hfuel)
    rw [piecesFrom, if_neg hstar, if_neg hquestion, if_neg hbracket, hrest, List.map_cons]

theorem matchPieces_map_char_iff {t name : Text} : matchPieces (t.map .char) name = true ↔ name = t := by
  induction t generalizing name with
  | nil => simp [matchPieces]
  | cons c t ih =>
    cases name with
    | nil => simp [matchPieces]
    | cons d name => simp [matchPieces, Piece.accepts, ih]

theorem anySuffix_iff {accepts : Text → Bool} {t : Text} :
    matchPieces.anySuffix accepts t = true ↔ ∃ u, u <:+ t ∧ accepts u = true := by
  induction t with
  | nil => simp [matchPieces.anySuffix]
  | cons c t ih =>
    simp only [matchPieces.anySuffix, Bool.or_eq_true, ih, List.suffix_cons_iff, or_and_right, exists_or,
      exists_eq_left]

/-- **The pattern of an extension matches the names that end with it.** -/
theorem matchPieces_iff_endsWith {extension name : Text} (plain : IsPlain extension) :
    matchPieces (pieces ('*' :: extension)) name = true ↔ Text.endsWith name extension = true := by
  have hpieces : pieces ('*' :: extension) = .any :: extension.map .char := by
    rw [pieces, List.length_cons, piecesFrom, if_pos rfl, piecesFrom_of_isPlain plain le_rfl]
  rw [hpieces, matchPieces, anySuffix_iff, Text.endsWith, List.isSuffixOf_iff_suffix]
  constructor
  · rintro ⟨u, hu, haccepts⟩
    rwa [matchPieces_map_char_iff.1 haccepts] at hu
  · exact fun h => ⟨extension, h, matchPieces_map_char_iff.2 rfl⟩

theorem hasTwoStars_of_isPlain {t : Text} (plain : IsPlain t) : hasTwoStars t = false := by
  induction t with
  | nil => rfl
  | cons c t ih =>
    have hstar := (plain c List.mem_cons_self).1
    rw [hasTwoStars]
    · exact ih fun d hd => plain d (List.mem_cons_of_mem c hd)
    · rintro u rfl
      exact absurd rfl hstar

end Glob

/-- whether a text can be the extension of names and stands for itself in a pattern -/
structure IsExtension (extension : Text) : Prop where
  dot : extension.head? = some '.'
  plain : Glob.IsPlain extension
  slash : '/' ∉ extension

/-- The pattern of such an extension has one step. -/
theorem IsExtension.components?_pattern {extension : Text} (ext : IsExtension extension) :
    Glob.components? (FileTree.pattern extension) = some [.matching (Glob.pieces ('*' :: extension))] := by
  obtain ⟨rest, rfl⟩ := List.head?_eq_some_iff.1 ext.dot
  have hslash : '/' ∉ '*' :: '.' :: rest := by simpa using ext.slash
  have hparts : Path.partsOf ('*' :: '.' :: rest) = ['*' :: '.' :: rest] :=
    Path.partsOf_of_notMem hslash (by simp) (by simp)
  have hlast : ('.' :: rest).getLast? ≠ some '/' := fun h => ext.slash (List.mem_of_getLast? h)
  have htwo : Glob.hasTwoStars ('*' :: '.' :: rest) = false := by
    rw [Glob.hasTwoStars, Glob.hasTwoStars_of_isPlain ext.plain]
    simp
  have hplain : Glob.isPlain ('*' :: '.' :: rest) = false := rfl
  simp [Glob.components?, FileTree.pattern, hparts, hlast, Glob.component?, htwo, hplain]

/-! ## The strict order of paths -/

namespace Text

theorem leAll_antisymm {s t : List Text} (hst : leAll s t = true) (hts : leAll t s = true) : s = t := by
  induction s generalizing t with
  | nil =>
    cases t with
    | nil => rfl
    | cons b t => simp [leAll] at hts
  | cons a s ih =>
    cases t with
    | nil => simp [leAll] at hst
    | cons b t =>
      rw [leAll_cons_cons_iff] at hst hts
      rcases hst with ⟨hab, hle⟩ | ⟨rfl, hst⟩
      · rcases hts with ⟨-, hle'⟩ | ⟨hba, -⟩
        · exact absurd (le_antisymm hle hle') hab
        · exact absurd hba.symm hab
      · rcases hts with ⟨hne, -⟩ | ⟨-, hts⟩
        · exact absurd rfl hne
        · rw [ih hst hts]

end Text

namespace Path

def lt (p q : Path) : Bool := p.le q && !q.le p

theorem lt_iff {p q : Path} : p.lt q = true ↔ p.le q = true ∧ ¬q.le p = true := by
  simp [lt]

/-- whether a path goes on from another one, all the way down -/
def IsBelow (p q : Path) : Prop := ∃ n ns, p = ⟨q.anchor, q.parts ++ n :: ns⟩ ∧ ['.', '.'] ∉ n :: ns

theorem IsBelow.trans {p q r : Path} (hpq : p.IsBelow q) (hqr : q.IsBelow r) : p.IsBelow r := by
  obtain ⟨n, ns, rfl, hns⟩ := hpq
  obtain ⟨m, ms, rfl, hms⟩ := hqr
  refine ⟨m, ms ++ n :: ns, by simp, ?_⟩
  rw [← List.cons_append, List.mem_append]
  exact fun h => h.elim hms hns

end Path

namespace FileTree

variable {t : FileTree} {extension : Text} {paths paths' : List Path} {p q : Path}

/-- In a well-formed tree no path to a file has a slash for its first name. -/
theorem IsTree.head?_parts_ne (tree : t.IsTree) (file : t.isFile p = true) : p.parts.head? ≠ some ['/'] := by
  intro hhead
  obtain ⟨ns, hns⟩ := List.head?_eq_some_iff.1 hhead
  obtain ⟨w, c, hw, -⟩ := isFile_iff_place.1 file
  obtain ⟨-, hwalk⟩ := place_eq_ok_iff.1 hw
  rw [hns] at hwalk
  rcases walk_cons_eq_ok_iff.1 hwalk with ⟨-, ⟨hdots, -⟩ | ⟨-, hitem, -⟩⟩
  · exact absurd hdots (by decide)
  · obtain ⟨i, hi⟩ := Option.ne_none_iff_exists'.1 hitem
    have hname := (tree.named _ (IsTree.mem_of_item? (by simp) hi)).2 ['/'] (by simp)
    exact absurd List.mem_cons_self hname.2.2.2.1

theorem anchor_ne_of_isFile (file : t.isFile p = true) : p.anchor ≠ .outside := by
  obtain ⟨w, c, hw, -⟩ := isFile_iff_place.1 file
  exact (place_eq_ok_iff.1 hw).1

/-- **Of two files with the same names the paths are the same.** -/
theorem eq_of_key (tree : t.IsTree) (hp : t.isFile p = true) (hq : t.isFile q = true) (key : p.key = q.key) :
    p = q := by
  have hanchor := anchor_ne_of_isFile hp
  have hanchor' := anchor_ne_of_isFile hq
  have hhead := tree.head?_parts_ne hp
  have hhead' := tree.head?_parts_ne hq
  obtain ⟨a, ns⟩ := p
  obtain ⟨b, ms⟩ := q
  cases a with
  | outside => exact absurd rfl hanchor
  | relative =>
    cases b with
    | outside => exact absurd rfl hanchor'
    | relative => exact congrArg (Path.mk .relative) key
    | working => exact absurd (congrArg List.head? key) hhead
  | working =>
    cases b with
    | outside => exact absurd rfl hanchor'
    | relative => exact absurd (congrArg List.head? key).symm hhead'
    | working => exact congrArg (Path.mk .working) (List.cons.inj key).2

theorem eq_of_le_of_le (tree : t.IsTree) (hp : p ∈ (t.discover extension paths).found)
    (hq : q ∈ (t.discover extension paths').found) (hle : p.le q = true) (hle' : q.le p = true) : p = q :=
  eq_of_key tree (isFile_of_mem_found hp) (isFile_of_mem_found hq) (Text.leAll_antisymm hle hle')

/-- **The paths that are found are in strict order.** -/
theorem found_pairwise_lt (tree : t.IsTree) (extension : Text) (paths : List Path) :
    (t.discover extension paths).found.Pairwise fun p q => p.lt q = true := by
  refine ((found_pairwise t extension paths).and (found_nodup t extension paths)).imp_of_mem
    fun {p q} hp hq ⟨hle, hne⟩ => Path.lt_iff.2 ⟨hle, fun hle' => hne ?_⟩
  exact eq_of_le_of_le tree hp hq hle hle'

/-- **What is found is determined by which paths are found.** -/
theorem found_congr (tree : t.IsTree)
    (same : ∀ p, p ∈ (t.discover extension paths).found ↔ p ∈ (t.discover extension paths').found) :
    (t.discover extension paths).found = (t.discover extension paths').found := by
  have hperm := (List.perm_ext_iff_of_nodup (found_nodup t extension paths) (found_nodup t extension paths')).2 same
  exact List.Perm.eq_of_pairwise (fun p q hp hq => eq_of_le_of_le tree hp hq) (found_pairwise t extension paths)
    (found_pairwise t extension paths') hperm

/-! ## What is found -/

theorem not_isFile_of_isDirectory (directory : t.isDirectory p = true) : ¬t.isFile p = true := fun file => by
  cases directory.symm.trans (isDirectory_of_isFile file)

theorem isBelow_iff : p.IsBelow q ↔ ∃ ns n, p = ⟨q.anchor, q.parts ++ (ns ++ [n])⟩ ∧ ['.', '.'] ∉ ns ++ [n] := by
  constructor
  · rintro ⟨n, ns, rfl, straight⟩
    have hsplit := List.dropLast_append_getLast (List.cons_ne_nil n ns)
    exact ⟨_, _, by rw [hsplit], by rwa [hsplit]⟩
  · rintro ⟨ns, n, rfl, straight⟩
    cases ns with
    | nil => exact ⟨n, [], rfl, straight⟩
    | cons m ns => exact ⟨m, ns ++ [n], rfl, straight⟩

/-- What can be below a directory are the directory's own names, so no double dot is among them. -/
theorem IsTree.straight_of_mem (tree : t.IsTree) {d : Place} {ns : List Text} {i : Item}
    (hmem : (d ++ ns, i) ∈ t.items) : ['.', '.'] ∉ ns := fun hdots =>
  ((tree.named _ hmem).2 _ (List.mem_append_right d hdots)).2.2.1 rfl

/-- The directories from a directory on are itself and those whose paths go on from it. -/
theorem mem_directoriesFrom_iff_isDirectory (tree : t.IsTree) (directory : t.isDirectory q = true) :
    p ∈ t.directoriesFrom q ↔ (p = q ∨ p.IsBelow q) ∧ t.isDirectory p = true := by
  obtain ⟨d, hd, -⟩ := isDirectory_iff.1 directory
  rw [mem_directoriesFrom_iff hd]
  constructor
  · rintro (rfl | ⟨n, ns, hmem, rfl⟩)
    · exact ⟨Or.inl rfl, directory⟩
    · have straight := tree.straight_of_mem hmem
      refine ⟨Or.inr ⟨n, ns, rfl, straight⟩, ?_⟩
      rw [isDirectory, tree.at?_append hd straight, tree.item?_of_mem hmem]
      rfl
  · rintro ⟨rfl | ⟨n, ns, rfl, straight⟩, hdirectory⟩
    · exact Or.inl rfl
    · have hitem := of_decide_eq_true hdirectory
      rw [tree.at?_append hd straight] at hitem
      exact Or.inr ⟨n, ns, IsTree.mem_of_item? (by simp) hitem, rfl⟩

/-- **What one step of names leads to below a directory** are the files with such names whose paths go on from it. -/
theorem mem_select_matching_iff (tree : t.IsTree) (directory : t.isDirectory q = true) {ps : List Glob.Piece} :
    p ∈ (t.select [.below, .matching ps] q).filter t.isFile ↔
      p.IsBelow q ∧ t.isFile p = true ∧ Glob.matchPieces ps p.name = true := by
  obtain ⟨d, hd, -⟩ := isDirectory_iff.1 directory
  have hselect : p ∈ t.select [.below, .matching ps] q ↔
      ∃ r ∈ t.directoriesFrom q, ∃ n ∈ t.namesIn r, Glob.matchPieces ps n = true ∧ p = r.child n ∧
        t.contains p = true := by
    simp only [select, List.mem_flatMap, List.mem_filter, List.mem_map, namesFor, List.mem_singleton, admits,
      List.isEmpty_nil, if_true]
    constructor
    · rintro ⟨r, hr, s, ⟨⟨n, ⟨hn, hmatch⟩, rfl⟩, hcontains⟩, rfl⟩
      exact ⟨r, hr, n, hn, hmatch, rfl, hcontains⟩
    · rintro ⟨r, hr, n, hn, hmatch, rfl, hcontains⟩
      exact ⟨r, hr, _, ⟨⟨n, ⟨hn, hmatch⟩, rfl⟩, hcontains⟩, rfl⟩
  rw [List.mem_filter, hselect]
  constructor
  · rintro ⟨⟨r, hr, n, hn, hmatch, rfl, -⟩, file⟩
    obtain ⟨hrq, hdir⟩ := (mem_directoriesFrom_iff_isDirectory tree directory).1 hr
    obtain ⟨e, he, -⟩ := isDirectory_iff.1 hdir
    obtain ⟨i, hmem⟩ := (mem_namesIn_iff he).1 hn
    have below : (r.child n).IsBelow r := ⟨n, [], rfl, tree.straight_of_mem hmem⟩
    refine ⟨?_, file, by simpa [Path.name, Path.child] using hmatch⟩
    rcases hrq with rfl | hrq
    · exact below
    · exact below.trans hrq
  · rintro ⟨below, file, hmatch⟩
    obtain ⟨ns, n, rfl, straight⟩ := isBelow_iff.1 below
    obtain ⟨c, hc⟩ := isFile_iff.1 file
    rw [tree.at?_append hd straight] at hc
    have straight' : ['.', '.'] ∉ ns := fun h => straight (List.mem_append_left _ h)
    have hchild : t.item? ((d ++ ns) ++ [n]) ≠ none := by
      rw [List.append_assoc, hc]
      simp
    have hparent : t.item? (d ++ ns) = some .directory := tree.item?_of_append hchild
    have hr : t.place ⟨q.anchor, q.parts ++ ns⟩ = .ok (d ++ ns) := by
      obtain ⟨hanchor, hwalk⟩ := place_eq_ok_iff.1 hd
      refine place_eq_ok_iff.2 ⟨hanchor, ?_⟩
      rw [walk_append, hwalk]
      exact tree.walk (by simp [hparent])
    have hdirectory : t.isDirectory ⟨q.anchor, q.parts ++ ns⟩ = true :=
      isDirectory_iff.2 ⟨_, hr, hparent⟩
    refine ⟨⟨⟨q.anchor, q.parts ++ ns⟩, ?_, n, ?_, ?_, ?_, ?_⟩, file⟩
    · refine (mem_directoriesFrom_iff_isDirectory tree directory).2 ⟨?_, hdirectory⟩
      cases ns with
      | nil => exact Or.inl (by simp)
      | cons m ns => exact Or.inr ⟨m, ns, rfl, straight'⟩
    · refine (mem_namesIn_iff hr).2 ⟨.file c, ?_⟩
      rw [List.append_assoc]
      exact IsTree.mem_of_item? (by simp) hc
    · simpa [Path.name] using hmatch
    · simp [Path.child]
    · obtain ⟨c, hc⟩ := isFile_iff.1 file
      rw [contains, hc]
      rfl

/-- What one path stands for: itself if it is a file, and the files with the extension below it if it is a directory. -/
theorem mem_specsAt_iff (tree : t.IsTree) (ext : IsExtension extension) :
    p ∈ t.specsAt extension q ↔ p = q ∧ t.isFile p = true ∨
      t.isDirectory q = true ∧ p.IsBelow q ∧ t.isFile p = true ∧ Text.endsWith p.name extension = true := by
  unfold specsAt
  by_cases hfile : t.isFile q = true
  · have hdirectory : ¬t.isDirectory q = true := fun h => not_isFile_of_isDirectory h hfile
    rw [if_pos hfile, List.mem_singleton]
    constructor
    · rintro rfl
      exact Or.inl ⟨rfl, hfile⟩
    · rintro (⟨rfl, -⟩ | ⟨h, -⟩)
      · rfl
      · exact absurd h hdirectory
  · have hself : ¬(p = q ∧ t.isFile p = true) := fun ⟨hpq, hp⟩ => hfile (hpq ▸ hp)
    rw [if_neg hfile]
    by_cases hdirectory : t.isDirectory q = true
    · rw [if_pos hdirectory, ext.components?_pattern]
      refine (mem_select_matching_iff tree hdirectory).trans ?_
      rw [Glob.matchPieces_iff_endsWith ext.plain]
      simp only [hself, hdirectory, false_or, true_and]
    · simp [hself, hdirectory]

/-- **What is found are the files that are named, and those with the extension below directories that are named.** -/
theorem mem_found_iff_isFile (tree : t.IsTree) (ext : IsExtension extension) :
    p ∈ (t.discover extension paths).found ↔ p ∈ paths ∧ t.isFile p = true ∨
      ∃ q ∈ paths, t.isDirectory q = true ∧ p.IsBelow q ∧ t.isFile p = true ∧
        Text.endsWith p.name extension = true := by
  simp only [mem_found_iff, mem_specsAt_iff tree ext, and_or_left, exists_or]
  refine or_congr ⟨?_, fun ⟨hp, file⟩ => ⟨p, hp, rfl, file⟩⟩ Iff.rfl
  rintro ⟨q, hq, rfl, file⟩
  exact ⟨hq, file⟩

/-- A path adds nothing if all that it stands for is found without it. -/
theorem found_cons (tree : t.IsTree)
    (found : ∀ p ∈ t.specsAt extension q, p ∈ (t.discover extension paths).found) :
    (t.discover extension (q :: paths)).found = (t.discover extension paths).found := by
  refine found_congr tree fun p => ?_
  rw [mem_found_iff, List.exists_mem_cons_iff, ← mem_found_iff]
  exact or_iff_right_of_imp (found p)

/-- **Discovery is a canonical set.** What is found is in strict order. It is the files that are named, whatever their
names are, and the files at any depth below directories that are named whose names end with the extension. It stays the
same if paths are named in another order or more often, if one is named that leads nowhere, and if a directory is named
below another one. -/
theorem found_canonical (tree : t.IsTree) (ext : IsExtension extension) (paths : List Path) :
    ((t.discover extension paths).found.Pairwise fun p q => p.lt q = true) ∧
      (∀ p, p ∈ (t.discover extension paths).found ↔ p ∈ paths ∧ t.isFile p = true ∨
        ∃ q ∈ paths, t.isDirectory q = true ∧ p.IsBelow q ∧ t.isFile p = true ∧
          Text.endsWith p.name extension = true) ∧
      (∀ paths', (∀ p, p ∈ paths' ↔ p ∈ paths) →
        (t.discover extension paths').found = (t.discover extension paths).found) ∧
      (∀ q, t.contains q = false →
        (t.discover extension (q :: paths)).found = (t.discover extension paths).found) ∧
      ∀ r ∈ paths, t.isDirectory r = true → ∀ q, t.isDirectory q = true → q.IsBelow r →
        (t.discover extension (q :: paths)).found = (t.discover extension paths).found := by
  refine ⟨found_pairwise_lt tree extension paths, fun p => mem_found_iff_isFile tree ext, fun paths' same => ?_,
    fun q nowhere => ?_, fun r hr directory q hq below => ?_⟩
  · exact found_congr tree fun p => by simp only [mem_found_iff, same]
  · have hat : t.at? q = none := by simpa [contains] using nowhere
    have hnone : t.specsAt extension q = [] := by simp [specsAt, isFile, isDirectory, hat]
    exact found_cons tree fun p hp => by rw [hnone] at hp; cases hp
  · refine found_cons tree fun p hp => ?_
    rcases (mem_specsAt_iff tree ext).1 hp with ⟨rfl, file⟩ | ⟨-, hpq, file, ends⟩
    · exact absurd file (not_isFile_of_isDirectory hq)
    · exact (mem_found_iff_isFile tree ext).2 (Or.inr ⟨r, hr, directory, hpq.trans below, file, ends⟩)

/-- a directory that has the extension, in a directory beside files with and without it -/
def nestedTree : FileTree :=
  ⟨"/", [(["d"], .directory), (["d", "b.md"], .file (.text "")), (["d", "c.txt"], .file (.text "")),
    (["d", "x.md"], .directory), (["d", "x.md", "a.md"], .file (.text "")), (["d-e.md"], .file (.text ""))]⟩

def pathTo (parts : List Text) : Path := ⟨.relative, parts⟩

/-- A file is found though it has another extension, and a directory is not found though it has the extension. -/
theorem found_canonical_nested :
    (nestedTree.discover ".md" [pathTo ["d", "c.txt"], pathTo ["d"]]).found =
        [pathTo ["d", "b.md"], pathTo ["d", "c.txt"], pathTo ["d", "x.md", "a.md"]] ∧
      (nestedTree.discover ".md" [pathTo ["d"], pathTo ["d", "c.txt"], pathTo ["d"]]).found =
        (nestedTree.discover ".md" [pathTo ["d", "c.txt"], pathTo ["d"]]).found ∧
      (nestedTree.discover ".md" [pathTo ["e"], pathTo ["d", "c.txt"], pathTo ["d"]]).found =
        (nestedTree.discover ".md" [pathTo ["d", "c.txt"], pathTo ["d"]]).found ∧
      (nestedTree.discover ".md" [pathTo ["d", "x.md"], pathTo ["d", "c.txt"], pathTo ["d"]]).found =
        (nestedTree.discover ".md" [pathTo ["d", "c.txt"], pathTo ["d"]]).found := by
  have tree : nestedTree.IsTree := by decide
  have ext : IsExtension ".md" := ⟨by decide, by simp [Glob.IsPlain], by decide⟩
  obtain ⟨-, -, hsame, hnowhere, hbelow⟩ := found_canonical tree ext [pathTo ["d", "c.txt"], pathTo ["d"]]
  refine ⟨by decide +kernel, hsame _ fun p => ?_, hnowhere (pathTo ["e"]) (by decide), ?_⟩
  · simp only [List.mem_cons, List.not_mem_nil, or_false]
    tauto
  · exact hbelow (pathTo ["d"]) (by decide) (by decide) (pathTo ["d", "x.md"]) (by decide)
      ⟨"x.md", [], rfl, by decide⟩

end FileTree

end CursorSpec
