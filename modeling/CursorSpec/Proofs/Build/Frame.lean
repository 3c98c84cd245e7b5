/-
What a build leaves alone, and building again.

Where each spec's module has a place of its own (`Separate`), a build changes the files that its results name and no
other: a spec that fails leaves what was beside it, and the specs are read as they were. So every spec comes out as it
does alone, a build that writes nothing finds the same suites and the same problems, and building again, if it finds
the same specs, ends as before and changes nothing. `frame_and_repeat` says this of every tree in which the specs are
texts with nothing but documented problems; it also says that such a build returns, if specs can be looked for at all.

Paths are compared by where they lead. Two paths to one spec share a module, and each of them writes the same text.
-/
import CursorSpec.Proofs.Build.Outputs
import CursorSpec.Proofs.Files.Naming
import CursorSpec.Proofs.Settings.Usable
import CursorSpec.Proofs.Suite.Problems

namespace CursorSpec

theorem BuildResult.exists_writesTo {t : FileTree} {r : BuildResult} {w : Place} (h : r.landing? t = some w) :
    ∃ s, r.WritesTo t w s := by
  obtain ⟨q, houtput, landing⟩ := Option.bind_eq_some_iff.1 h
  cases houtcome : r.outcome with
  | written q' s =>
    rw [houtcome] at houtput
    cases houtput
    exact ⟨s, q, houtcome, landing⟩
  | checked s =>
    rw [houtcome] at houtput
    cases houtput
  | failed m =>
    rw [houtcome] at houtput
    cases houtput

/-- whether two results are about one spec, and have the same suite or the same message -/
def BuildResult.Likewise (r r' : BuildResult) : Prop :=
  r.source = r'.source ∧ r.outcome.suite? = r'.outcome.suite? ∧ r.outcome.message? = r'.outcome.message?

namespace Build

variable {settings : Settings} {write : Bool} {t t₁ t' : FileTree} {p q : Path} {w : Place} {r : BuildResult}
  {s s' : Suite} {ps : List Path} {rs : List BuildResult}

/-! ## Specs that can be built -/

/-- whether a spec file is a text with nothing wrong with it but what is documented -/
def EndsDocumented (settings : Settings) (t : FileTree) (p : Path) : Prop :=
  ∃ text, t.read p = .ok text ∧ ∀ x, Suite.compile settings p.name text = .error x → x.IsDocumented

instance (settings : Settings) (t : FileTree) (p : Path) : Decidable (EndsDocumented settings t p) :=
  match hread : t.read p with
  | .error _ => .isFalse fun ⟨_, h, _⟩ => by cases hread.symm.trans h
  | .ok text =>
    match hcompile : Suite.compile settings p.name text with
    | .ok _ => .isTrue ⟨text, hread, fun _ h => by cases hcompile.symm.trans h⟩
    | .error x =>
      decidable_of_iff x.IsDocumented
        ⟨fun hx => ⟨text, hread, fun _ h => by cases hcompile.symm.trans h; exact hx⟩,
          fun ⟨_, h, hx⟩ => by cases hread.symm.trans h; exact hx x hcompile⟩

/-- the place where the module of a spec belongs -/
def moduleAt? (settings : Settings) (t : FileTree) (p : Path) : Option Place :=
  (target? settings p).bind fun q => t.landing? q.plain

/-- Modules have places of their own: those of different spec files are at different places, where no spec is and no
directory. -/
structure Separate (settings : Settings) (t : FileTree) (ps : List Path) : Prop where
  own : ∀ p ∈ ps, ∀ q ∈ ps, ∀ w ∈ moduleAt? settings t p, moduleAt? settings t q = some w → t.place p = t.place q
  unread : ∀ p ∈ ps, ∀ q ∈ ps, ∀ w ∈ moduleAt? settings t p, t.place q ≠ .ok w
  free : ∀ p ∈ ps, ∀ w ∈ moduleAt? settings t p, t.item? w ≠ some .directory

instance (settings : Settings) (t : FileTree) (ps : List Path) : Decidable (Separate settings t ps) :=
  decidable_of_iff (_ ∧ _ ∧ _) ⟨fun ⟨h₁, h₂, h₃⟩ => ⟨h₁, h₂, h₃⟩, fun ⟨h₁, h₂, h₃⟩ => ⟨h₁, h₂, h₃⟩⟩

theorem moduleAt?_eq_some_iff :
    moduleAt? settings t p = some w ↔ ∃ q, target? settings p = some q ∧ t.landing? q.plain = some w :=
  Option.bind_eq_some_iff

/-- A suffix without slashes and zero characters makes a file name beside every spec file. -/
theorem exists_target? (usable : settings.generator.IsUsable)
    (plain : ∀ c ∈ settings.generator.outputSuffix, c ≠ '/' ∧ c ≠ Text.zero) (tree : t.IsTree)
    (file : t.isFile p = true) :
    ∃ q w, target? settings p = some q ∧ q.plain = q ∧ q.hasZero = false ∧ t.landing? q = some w ∧
      t.item? w.dropLast = some .directory ∧ w.getLast? ≠ some ['.', '.'] := by
  have slash : '/' ∉ settings.generator.outputSuffix := fun h => (plain _ h).1 rfl
  have zero : Text.zero ∉ settings.generator.outputSuffix := fun h => (plain _ h).2 rfl
  obtain ⟨hparts, hname⟩ := FileTree.name_of_isFile tree file
  obtain ⟨named, hplain, hdots⟩ := Path.withName?_stem hparts hname slash usable.suffix
  obtain ⟨w, landing, parent⟩ := FileTree.exists_landing?_of_withName? file named
  rw [hplain] at landing
  refine ⟨_, w, named, hplain, ?_, landing, parent, ?_⟩
  · -- the other names, and the stem, are those of a file
    obtain ⟨v, c, hv, -⟩ := FileTree.isFile_iff_place.1 file
    have hzero := tree.zero_notMem_of_walk (FileTree.place_eq_ok_iff.1 hv).2
    have hstem : Text.zero ∉ p.stem := fun h =>
      hzero p.name (Path.name_mem_parts hparts) (Path.mem_name_of_mem_stem h)
    rw [Path.hasZero, List.any_eq_false]
    intro n hn
    rw [List.contains_iff_mem]
    rcases List.mem_append.1 hn with hn | hn
    · exact hzero n (List.mem_of_mem_dropLast hn)
    · rw [List.mem_singleton.1 hn, List.mem_append]
      exact fun h => h.elim hstem zero
  · obtain ⟨n, d, hn, -, rfl⟩ := FileTree.landing?_eq_some_iff.1 landing
    rw [List.getLast?_concat] at hn ⊢
    cases hn
    simpa using hdots

/-- Nothing stops a build at a spec with documented problems only, if its module has a name without zero characters and
lands on no directory. -/
theorem exists_alone (file : t.isFile p = true) (documented : EndsDocumented settings t p)
    (named : target? settings p = some q) (nonzero : q.plain.hasZero = false) (landing : t.landing? q.plain = some w)
    (hdots : w.getLast? ≠ some ['.', '.']) (free : t.item? w ≠ some .directory) :
    ∃ r, alone settings write t p = .ok r := by
  obtain ⟨text, hread, hproblem⟩ := documented
  cases h : alone settings write t p with
  | ok r => exact ⟨r, rfl⟩
  | error a =>
    exfalso
    cases (alone_eq_error_iff file).1 h with
    | undecodable unread => cases hread.symm.trans unread
    | undocumented refused internal =>
      obtain ⟨text', hread', hx⟩ := refused
      cases hread.symm.trans hread'
      exact Problem.isDocumented_iff.1 (hproblem _ hx) internal
    | unnamed _ _ unnamed => cases named.symm.trans unnamed
    | unwritable _ _ named' zero =>
      cases named.symm.trans named'
      cases nonzero.symm.trans zero
    | occupied _ _ named' _ landing' directory =>
      cases named.symm.trans named'
      cases landing.symm.trans landing'
      exact directory.elim hdots free

/-! ## One spec, read alike -/

theorem exists_builds (h : alone settings write t p = .ok r) : ∃ t₁, Builds settings write t p t₁ r := by
  obtain ⟨⟨t₁, r⟩, hbuild, rfl⟩ := map_eq_ok_iff.1 h
  exact ⟨t₁, buildFile_eq_ok_iff.1 hbuild⟩

theorem Compiles.unique (h : Compiles settings t p s) (h' : Compiles settings t p s') : s = s' := by
  obtain ⟨text, hread, hs⟩ := h
  obtain ⟨text', hread', hs'⟩ := h'
  cases hread.symm.trans hread'
  exact Except.ok.inj (hs.symm.trans hs')

theorem Refused.unique {x x' : Problem} (h : Refused settings t p x) (h' : Refused settings t p x') : x = x' := by
  obtain ⟨text, hread, hx⟩ := h
  obtain ⟨text', hread', hx'⟩ := h'
  cases hread.symm.trans hread'
  exact Except.error.inj (hx.symm.trans hx')

theorem Refused.not_compiles {x : Problem} (h : Refused settings t p x) : ¬Compiles settings t p s := by
  rintro ⟨text', hread', hs⟩
  obtain ⟨text, hread, hx⟩ := h
  cases hread.symm.trans hread'
  cases hx.symm.trans hs

/-- Two paths to one file make one suite. -/
theorem Compiles.of_place (tree : t.IsTree) (file : t.isFile p = true) (same : t.place p = t.place q)
    (h : Compiles settings t q s) : Compiles settings t p s := by
  obtain ⟨w, c, hw, hc⟩ := FileTree.isFile_iff_place.1 file
  have hq : t.place q = .ok w := same.symm.trans hw
  obtain ⟨text, hread, hs⟩ := h
  refine ⟨text, ?_, ?_⟩
  · rw [← hread, FileTree.read_of_place hw hc, FileTree.read_of_place hq hc]
  · rw [FileTree.name_eq_of_place tree hw hq hc, hs]

/-- A module that is written is that of its spec, in the place where it belongs. -/
theorem compiles_of_writesTo (h : alone settings write t p = .ok r) (writes : r.WritesTo t w s) :
    Compiles settings t p s ∧ moduleAt? settings t p = some w := by
  obtain ⟨q, houtcome, landing⟩ := writes
  obtain ⟨t₁, builds⟩ := exists_builds h
  cases builds with
  | failed | checked => cases houtcome
  | written compiles _ named takes =>
    cases houtcome
    exact ⟨compiles, moduleAt?_eq_some_iff.2 ⟨_, named, landing⟩⟩

/-- Whether modules are written makes no difference to suites and messages. -/
theorem likewise_of_alone {r' : BuildResult} (h : alone settings true t p = .ok r)
    (h' : alone settings false t p = .ok r') : r.Likewise r' := by
  obtain ⟨t₁, builds⟩ := exists_builds h
  obtain ⟨t₂, builds'⟩ := exists_builds h'
  cases builds with
  | failed refused =>
    cases builds' with
    | failed refused' =>
      cases refused.unique refused'
      exact ⟨rfl, rfl, rfl⟩
    | checked compiles => exact absurd compiles refused.not_compiles
    | written _ writes => cases writes
  | checked _ writes => cases writes
  | written compiles =>
    cases builds' with
    | failed refused => exact absurd compiles refused.not_compiles
    | checked compiles' =>
      cases compiles.unique compiles'
      exact ⟨rfl, rfl, rfl⟩
    | written _ writes => cases writes

/-! ## All specs -/

/-- A build that writes nothing leaves the tree as it is. -/
theorem tree_of_not_write (settings : Settings) (t : FileTree) (ps : List Path) :
    (buildAll settings false t ps).1 = t := by
  induction ps with
  | nil => rfl
  | cons p ps ih =>
    rw [buildAll_cons]
    split
    · rfl
    · next t₁ r hbuild =>
      have hsame : t₁ = t := by
        cases buildFile_eq_ok_iff.1 hbuild with
        | failed | checked => rfl
        | written _ writes => cases writes
      rw [hsame]
      exact ih

theorem exists_mapM_alone (h : ∀ p ∈ ps, ∃ r, alone settings write t p = .ok r) :
    ∃ rs, ps.mapM (alone settings write t) = .ok rs := by
  cases hrs : ps.mapM (alone settings write t) with
  | ok rs => exact ⟨rs, rfl⟩
  | error a =>
    obtain ⟨before, p, after, rfl, -, hp⟩ := mapM_eq_error_iff.1 hrs
    obtain ⟨r, hr⟩ := h p (by simp)
    cases hp.symm.trans hr

theorem likewise_of_mapM {rs' : List BuildResult} (h : ps.mapM (alone settings true t) = .ok rs)
    (h' : ps.mapM (alone settings false t) = .ok rs') : List.Forall₂ BuildResult.Likewise rs rs' := by
  have hrs := forall₂_of_mapM h
  have hrs' := forall₂_of_mapM h'
  clear h h'
  induction hrs generalizing rs' with
  | nil =>
    cases hrs'
    exact .nil
  | cons hr _ ih =>
    cases hrs' with
    | cons hr' hrs' => exact .cons (likewise_of_alone hr hr') (ih hrs')

section Separate

variable (tree : t.IsTree) (files : ∀ p ∈ ps, t.isFile p = true) (separate : Separate settings t ps)
  (each : List.Forall₂ (fun p r => alone settings write t p = .ok r) ps rs)

include separate in
/-- Specs with modules of their own are not written over before their turn. -/
theorem Separate.apart : Apart settings write t ps := by
  rw [Apart, List.pairwise_iff_forall_sublist]
  intro p q hpq v hv
  have hp : p ∈ ps := hpq.subset (by simp)
  have hq : q ∈ ps := hpq.subset (by simp)
  obtain ⟨r, hr, landing⟩ := Option.bind_eq_some_iff.1 hv
  have halone : alone settings write t p = .ok r := by
    cases h : alone settings write t p with
    | error a =>
      rw [h] at hr
      cases hr
    | ok r' =>
      rw [h] at hr
      cases hr
      rfl
  obtain ⟨s, writes⟩ := BuildResult.exists_writesTo landing
  exact separate.unread p hp q hq v (compiles_of_writesTo halone writes).2

include tree files separate each in
/-- Modules that are written to one place are one. -/
theorem Separate.suite_eq {r' : BuildResult} (hr : r ∈ rs) (hr' : r' ∈ rs) (writes : r.WritesTo t w s)
    (writes' : r'.WritesTo t w s') : s = s' := by
  obtain ⟨p, hp, halone⟩ := exists_of_mem_forall₂ each hr
  obtain ⟨q, hq, halone'⟩ := exists_of_mem_forall₂ each hr'
  obtain ⟨compiles, hw⟩ := compiles_of_writesTo halone writes
  obtain ⟨compiles', hw'⟩ := compiles_of_writesTo halone' writes'
  exact compiles.unique (compiles'.of_place tree (files p hp) (separate.own p hp q hq w hw hw'))

variable (keeps : t.Keeps t₁) (h : buildAll settings write t₁ ps = (t', .ok rs))

include tree files separate each keeps h in
/-- Where a module was written, it is in the end. -/
theorem Separate.item?_of_writesTo (hr : r ∈ rs) (writes : r.WritesTo t w s) :
    t'.item? w = some (.file (.text s.source)) := by
  rcases item?_buildAll h keeps files w with ⟨hnone, -⟩ | ⟨before, r', after, s', rfl, writes', -, hitem⟩
  · exact absurd writes.landing? (hnone r hr)
  · rw [hitem, separate.suite_eq tree files each hr (by simp) writes writes']

include files keeps h in
/-- Where no module was written, nothing has changed. -/
theorem item?_of_not_writesTo (hw : ∀ r ∈ rs, ∀ s, ¬r.WritesTo t w s) : t'.item? w = t₁.item? w := by
  rcases item?_buildAll h keeps files w with ⟨-, hitem⟩ | ⟨before, r, after, s, rfl, writes, -, -⟩
  · exact hitem
  · exact absurd writes (hw r (by simp) s)

include files separate each keeps h in
/-- The specs are what they were. -/
theorem Separate.item?_of_place (hp : p ∈ ps) (hw : t.place p = .ok w) : t'.item? w = t₁.item? w := by
  refine item?_of_not_writesTo files keeps h fun r hr s writes => ?_
  obtain ⟨q, hq, halone⟩ := exists_of_mem_forall₂ each hr
  exact separate.unread q hq p hp w (compiles_of_writesTo halone writes).2 hw

include tree files separate each in
/-- What is where the module of a failed spec belongs is what was there. -/
theorem Separate.at?_of_failed (usable : settings.generator.IsUsable)
    (plain : ∀ c ∈ settings.generator.outputSuffix, c ≠ '/' ∧ c ≠ Text.zero)
    (h : buildAll settings write t ps = (t', .ok rs)) (hr : r ∈ rs) (failed : r.outcome.isOk = false)
    (named : target? settings r.source = some q) : t'.at? q = t.at? q := by
  obtain ⟨p, hp, halone⟩ := exists_of_mem_forall₂ each hr
  obtain ⟨t₂, builds⟩ := exists_builds halone
  rw [builds.source_eq] at named
  obtain ⟨q', w, named', hplain, -, landing, parent, hdots⟩ := exists_target? usable plain tree (files p hp)
  obtain rfl : q = q' := Option.some.inj (named.symm.trans named')
  have hw : moduleAt? settings t p = some w := moduleAt?_eq_some_iff.2 ⟨q, named, hplain.symm ▸ landing⟩
  have keeps : t.Keeps t' := keeps_of_buildAll h
  rw [FileTree.at?_of_landing? (keeps.landing? landing) ((keeps.directory _).2 parent) hdots,
    FileTree.at?_of_landing? landing parent hdots]
  refine item?_of_not_writesTo files (.refl t) h fun r' hr' s writes => ?_
  obtain ⟨q', hq', halone'⟩ := exists_of_mem_forall₂ each hr'
  obtain ⟨compiles, hw'⟩ := compiles_of_writesTo halone' writes
  cases builds with
  | failed refused =>
    exact refused.not_compiles (compiles.of_place tree (files p hp) (separate.own p hp q' hq' w hw hw'))
  | checked | written => cases failed

include files separate in
/-- Every build of the specs has the results that each of them has alone, in the tree or in one that keeps it and them. -/
theorem Separate.results_eq (hrs : ps.mapM (alone settings write t) = .ok rs) (keeps : t.Keeps t₁)
    (same : ∀ p ∈ ps, ∀ w, t.place p = .ok w → t₁.item? w = t.item? w) :
    (buildAll settings write t₁ ps).2 = .ok rs :=
  (buildAll_eq_mapM files separate.apart keeps same).trans hrs

include tree files separate in
/-- Building again has the same results and changes nothing. -/
theorem Separate.again (hrs : ps.mapM (alone settings write t) = .ok rs)
    (h : buildAll settings write t ps = (t', .ok rs)) :
    ∃ t'', buildAll settings write t' ps = (t'', .ok rs) ∧ ∀ w, t''.item? w = t'.item? w := by
  have each := forall₂_of_mapM hrs
  have keeps : t.Keeps t' := keeps_of_buildAll h
  have hagain : buildAll settings write t' ps = ((buildAll settings write t' ps).1, .ok rs) :=
    Prod.ext_iff.2 ⟨rfl, separate.results_eq files hrs keeps fun p hp w hw =>
      separate.item?_of_place files each (.refl t) h hp hw⟩
  refine ⟨_, hagain, fun w => ?_⟩
  by_cases hw : ∃ r ∈ rs, ∃ s, r.WritesTo t w s
  · obtain ⟨r, hr, s, writes⟩ := hw
    rw [separate.item?_of_writesTo tree files each keeps hagain hr writes,
      separate.item?_of_writesTo tree files each (.refl t) h hr writes]
  · exact item?_of_not_writesTo files keeps hagain fun r hr s writes => hw ⟨r, hr, s, writes⟩

end Separate

/-- **A build changes what its results name, and nothing else; building again changes nothing.** If the specs are texts
with documented problems only, and their modules have places of their own, the build returns, unless the extension makes
no pattern, and then nothing is changed. What was written is there, all else is as it was, also beside a spec that fails,
and each result is that of the spec alone. A build that does not write leaves the tree and finds the same. After the
build, one that finds the same specs has the same results. -/
theorem frame_and_repeat {value : Value} {settings : Settings} (checked : Settings.ofValue value = .ok settings)
    (plain : ∀ c ∈ settings.generator.outputSuffix, c ≠ '/' ∧ c ≠ Text.zero) {t : FileTree} (tree : t.IsTree)
    {paths : List Path}
    (documented : ∀ p ∈ (t.discover settings.specExtension paths).found, EndsDocumented settings t p)
    (separate : Separate settings t (t.discover settings.specExtension paths).found) :
    let found := (t.discover settings.specExtension paths).found
    (t.refuses settings.specExtension paths = true →
      ∀ write, build settings write t paths = (t, .error .invalidPattern)) ∧
    (t.refuses settings.specExtension paths = false →
      ∃ t' rs, build settings true t paths = (t', .ok rs) ∧
        ModulesKept t' rs ∧
        (∀ w, t'.item? w ≠ t.item? w → ∃ r ∈ rs, ∃ s, r.WritesTo t w s) ∧
        (∀ r ∈ rs, r.outcome.isOk = false → ∀ q, target? settings r.source = some q → t'.at? q = t.at? q) ∧
        List.Forall₂ (fun p r => (build settings true t [p]).2 = .ok [r]) found rs ∧
        (∃ rs', build settings false t paths = (t, .ok rs') ∧ List.Forall₂ BuildResult.Likewise rs rs') ∧
        ((t'.discover settings.specExtension paths).found = found →
          ∃ t'', build settings true t' paths = (t'', .ok rs) ∧ ∀ w, t''.item? w = t'.item? w)) := by
  intro found
  refine ⟨fun refused write => build_of_refuses refused, fun looks => ?_⟩
  have usable : settings.generator.IsUsable := Settings.isUsable_of_ofValue checked
  have files : ∀ p ∈ found, t.isFile p = true := fun p hp => FileTree.isFile_of_mem_found hp
  have halone : ∀ write, ∀ p ∈ found, ∃ r, alone settings write t p = .ok r := by
    intro write p hp
    obtain ⟨q, w, named, hplain, nonzero, landing, -, hdots⟩ := exists_target? usable plain tree (files p hp)
    rw [← hplain] at nonzero landing
    exact exists_alone (files p hp) (documented p hp) named nonzero landing hdots
      (separate.free p hp w (moduleAt?_eq_some_iff.2 ⟨q, named, landing⟩))
  obtain ⟨rs, hrs⟩ := exists_mapM_alone (halone true)
  obtain ⟨rs', hrs'⟩ := exists_mapM_alone (halone false)
  have each := forall₂_of_mapM hrs
  set t' := (buildAll settings true t found).1
  have h : buildAll settings true t found = (t', .ok rs) :=
    Prod.ext_iff.2 ⟨rfl, separate.results_eq files hrs (.refl t) fun _ _ _ _ => rfl⟩
  refine ⟨t', rs, (build_eq_buildAll looks).trans h, ?_, ?_, ?_, ?_, ?_, ?_⟩
  · intro r hr q s output
    obtain ⟨w, writes, hplace⟩ := place_output_of_mem h (.refl t) files hr output
    exact FileTree.at?_eq_some_iff.2 ⟨w, hplace, separate.item?_of_writesTo tree files each (.refl t) h hr writes⟩
  · intro w changed
    by_contra hnone
    refine changed (item?_of_not_writesTo files (.refl t) h fun r hr s writes => hnone ⟨r, hr, s, writes⟩)
  · intro r hr failed q named
    exact separate.at?_of_failed tree files each usable plain h hr failed named
  · refine ((List.forall₂_and_left _ _).2 ⟨files, each⟩).imp fun p r hr => ?_
    obtain ⟨file, hr⟩ := hr
    rw [build_singleton file, hr]
    rfl
  · exact ⟨rs', (build_eq_buildAll looks).trans (Prod.ext_iff.2 ⟨tree_of_not_write settings t found,
      separate.results_eq files hrs' (.refl t) fun _ _ _ _ => rfl⟩), likewise_of_mapM hrs hrs'⟩
  · intro same
    obtain ⟨t'', hagain, hitem⟩ := separate.again tree files hrs h
    refine ⟨t'', ?_, hitem⟩
    have looks' : t'.refuses settings.specExtension paths = false :=
      ((keeps_of_buildAll h).refuses_eq _ _).trans looks
    rw [build_eq_buildAll looks', same]
    exact hagain

/-- a working directory with a spec, one that has no block, and what an earlier build left beside that -/
def staleTree : FileTree :=
  ⟨"/", [(["a.md"], .file (.text (initialText "A"))), (["b.md"], .file (.text "# B")),
    (["b_test.py"], .file (.text "old"))]⟩

def staleResults : List BuildResult :=
  [⟨⟨.relative, ["a.md"]⟩, .written ⟨.relative, ["a_test.py"]⟩ (initialSuite "a.md" "A")⟩,
    ⟨⟨.relative, ["b.md"]⟩, .failed (⟨.unclosedEntry, some 1⟩ : Problem).message⟩]

theorem results_stale : (build .default true staleTree [.here]).2 = .ok staleResults := by decide +kernel

theorem found_stale : ((build .default true staleTree [.here]).1.discover ".md" [.here]).found =
    (staleTree.discover ".md" [.here]).found := by decide +kernel

/-- The spec that fails leaves what is beside it, and building again leaves everything. -/
theorem frame_and_repeat_stale :
    staleTree.IsTree ∧
      (∀ p ∈ (staleTree.discover ".md" [.here]).found, EndsDocumented .default staleTree p) ∧
      Separate .default staleTree (staleTree.discover ".md" [.here]).found ∧
      ∃ t', build .default true staleTree [.here] = (t', .ok staleResults) ∧
        t'.at? ⟨.relative, ["b_test.py"]⟩ = some (.file (.text "old")) ∧
        ∃ t'', build .default true t' [.here] = (t'', .ok staleResults) ∧ ∀ w, t''.item? w = t'.item? w := by
  have tree : staleTree.IsTree := by decide
  have documented : ∀ p ∈ (staleTree.discover ".md" [.here]).found, EndsDocumented .default staleTree p := by
    decide +kernel
  have separate : Separate .default staleTree (staleTree.discover ".md" [.here]).found := by decide
  have plain : ∀ c ∈ Settings.default.generator.outputSuffix, c ≠ '/' ∧ c ≠ Text.zero := by
    have hall : (Settings.default.generator.outputSuffix.all fun c => c ≠ '/' && c ≠ Text.zero) = true := by decide
    simpa using hall
  obtain ⟨-, builds⟩ := frame_and_repeat Settings.ofValue_empty plain tree documented separate
  obtain ⟨t', rs, h, -, -, failed, -, -, again⟩ := builds (by decide)
  have hresults := results_stale
  have hfound := found_stale
  rw [h] at hresults hfound
  obtain rfl : rs = staleResults := Except.ok.inj hresults
  exact ⟨tree, documented, separate, t', h,
    failed _ (List.mem_cons_of_mem _ List.mem_cons_self) rfl _ (by decide), again hfound⟩

end Build

end CursorSpec
