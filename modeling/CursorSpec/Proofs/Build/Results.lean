/-
What a build makes of each spec, and what stops it.

A spec that does not compile gives a failed result and leaves the files alone (`Builds`). Five things stop a build at a
spec (`Stops`): a file that is not text, arguments that the expression reader refuses to look at, and, where modules are
written, a suffix that makes no file name, one with a zero character or one that makes the name of a directory. Then the
specs that come later are not built, and what was written before stays (`buildAll_eq_error_iff`). An extension that
makes no pattern stops it before the first spec, if a directory is named.

A spec reads its own file and nothing else, and the build before it has changed files only. So each spec comes out as
it would alone, unless a module was written over its file before its turn (`alone_congr`, `buildAll_eq_mapM`). The main
theorem is `build_eq_each_alone`; `not_build_always_returns` shows that one file can keep a build from returning.
-/
import CursorSpec.Build.Basic
import CursorSpec.Proofs.Files.Discovery

namespace CursorSpec

namespace Path

/-- Another last name is one name when it is read. -/
theorem plain_of_withName? {p q : Path} {name : Text} (h : p.withName? name = some q) :
    p.parts ≠ [] ∧ ∃ n, Path.partsOf name = [n] ∧ q.plain = ⟨p.anchor, p.parts.dropLast ++ [n]⟩ := by
  unfold withName? at h
  simp only at h
  split at h
  · cases h
  · next hvalid =>
    cases h
    simp only [Bool.or_eq_true, not_or, Bool.not_eq_true, Bool.not_eq_false', Bool.and_eq_true,
      decide_eq_true_eq] at hvalid
    obtain ⟨hparts, -, hlength⟩ := hvalid
    obtain ⟨n, hn⟩ := List.length_eq_one_iff.1 hlength
    exact ⟨by simpa using hparts, n, hn, by simp [plain, Path.name, hn]⟩

end Path

/-- What is written beside a file lands beside it. -/
theorem FileTree.exists_landing?_of_withName? {t : FileTree} {p q : Path} {name : Text} (file : t.isFile p = true)
    (h : p.withName? name = some q) : ∃ w, t.landing? q.plain = some w ∧ t.item? w.dropLast = some .directory := by
  obtain ⟨hparts, n, -, hq⟩ := Path.plain_of_withName? h
  obtain ⟨w, c, hw, -⟩ := isFile_iff_place.1 file
  obtain ⟨d, hd, hdir⟩ := place_dropLast hw hparts
  refine ⟨d ++ [n], landing?_eq_some_iff.2 ⟨n, d, by rw [hq]; simp, ?_, rfl⟩, by simpa using hdir⟩
  rw [hq, List.dropLast_concat]
  exact hd

/-- the place where the module of a result was written, if one was -/
def BuildResult.landing? (t : FileTree) (r : BuildResult) : Option Place :=
  r.outcome.output?.bind fun q => t.landing? q.plain

namespace Build

variable {settings : Settings} {write : Bool} {t t' : FileTree} {p : Path} {r : BuildResult}

/-! ## One spec -/

/-- what comes of a spec file that is built alone -/
def alone (settings : Settings) (write : Bool) (t : FileTree) (p : Path) : Except Abort BuildResult :=
  (buildFile settings write t p).map (·.2)

/-- the module's path, if the suffix makes a file name -/
def target? (settings : Settings) (p : Path) : Option Path :=
  p.withName? (p.stem ++ settings.generator.outputSuffix)

theorem outputPath_eq (settings : Settings) (p : Path) :
    outputPath settings p = match target? settings p with
      | some q => .ok q
      | none => .error (.invalidName (p.stem ++ settings.generator.outputSuffix)) := rfl

def Compiles (settings : Settings) (t : FileTree) (p : Path) (s : Suite) : Prop :=
  ∃ text, t.read p = .ok text ∧ Suite.compile settings p.name text = .ok s

/-- whether something is wrong with the text of a spec file -/
def Refused (settings : Settings) (t : FileTree) (p : Path) (x : Problem) : Prop :=
  ∃ text, t.read p = .ok text ∧ Suite.compile settings p.name text = .error x

/-- the ways in which a spec file is built: what it leaves, and its result -/
inductive Builds (settings : Settings) (write : Bool) (t : FileTree) (p : Path) : FileTree → BuildResult → Prop where
  | failed {x : Problem} (refused : Refused settings t p x) (documented : x.cause.kind ≠ .internal) :
    Builds settings write t p t ⟨p, .failed x.message⟩
  | checked {s : Suite} (compiles : Compiles settings t p s) (writes : write = false) :
    Builds settings write t p t ⟨p, .checked s⟩
  | written {s : Suite} {q : Path} {w : Place} (compiles : Compiles settings t p s) (writes : write = true)
    (named : target? settings p = some q) (takes : t.Takes q.plain w) :
    Builds settings write t p (t.put w (.file (.text s.source))) ⟨p, .written q s⟩

inductive Stops (settings : Settings) (write : Bool) (t : FileTree) (p : Path) : Abort → Prop where
  | undecodable (unread : t.read p = .error .undecodable) : Stops settings write t p (.file .undecodable)
  | undocumented {x : Problem} (refused : Refused settings t p x) (undocumented : x.cause.kind = .internal) :
    Stops settings write t p .refusedArguments
  | unnamed {s : Suite} (compiles : Compiles settings t p s) (writes : write = true)
    (unnamed : target? settings p = none) :
    Stops settings write t p (.invalidName (p.stem ++ settings.generator.outputSuffix))
  | unwritable {s : Suite} {q : Path} (compiles : Compiles settings t p s) (writes : write = true)
    (named : target? settings p = some q) (zero : q.plain.hasZero = true) :
    Stops settings write t p (.file .zeroCharacter)
  | occupied {s : Suite} {q : Path} {w : Place} (compiles : Compiles settings t p s) (writes : write = true)
    (named : target? settings p = some q) (nonzero : q.plain.hasZero = false) (landing : t.landing? q.plain = some w)
    (directory : w.getLast? = some ['.', '.'] ∨ t.item? w = some .directory) :
    Stops settings write t p (.file .isDirectory)

theorem buildFile_of_read_error {f : FileFault} (unread : t.read p = .error f) :
    buildFile settings write t p = .error (.file f) := by
  unfold buildFile compileFile
  rw [unread]
  rfl

theorem buildFile_of_refused {x : Problem} (refused : Refused settings t p x) :
    buildFile settings write t p =
      if x.cause.kind = .internal then .error .refusedArguments else .ok (t, ⟨p, .failed x.message⟩) := by
  obtain ⟨text, read, hx⟩ := refused
  unfold buildFile compileFile
  by_cases internal : x.cause.kind = .internal
  · simp [read, hx, internal, Except.mapError, bind, Except.bind, orReport]
  · simp [read, hx, internal, Except.mapError, bind, Except.bind, pure, Except.pure, orReport]

theorem buildFile_of_compiles {s : Suite} (compiles : Compiles settings t p s) :
    buildFile settings write t p =
      if write = false then .ok (t, ⟨p, .checked s⟩)
      else match target? settings p with
        | none => .error (.invalidName (p.stem ++ settings.generator.outputSuffix))
        | some q => ((t.write q.plain s.source).mapError .file).map fun t' => (t', ⟨p, .written q s⟩) := by
  obtain ⟨text, read, hs⟩ := compiles
  unfold buildFile compileFile
  simp only [read, hs, Except.mapError, bind, Except.bind, orReport, outputPath_eq, pure, Except.pure]
  cases write with
  | false => rfl
  | true =>
    cases target? settings p with
    | none => rfl
    | some q => cases t.write q.plain s.source <;> rfl

/-- Reading fails, or there is something wrong with the text, or it makes a suite. -/
theorem read_cases (settings : Settings) (t : FileTree) (p : Path) :
    (∃ f, t.read p = .error f) ∨ (∃ x, Refused settings t p x) ∨ ∃ s, Compiles settings t p s := by
  cases hread : t.read p with
  | error f => exact Or.inl ⟨f, rfl⟩
  | ok text =>
    cases hcompile : Suite.compile settings p.name text with
    | error x => exact Or.inr (Or.inl ⟨x, text, hread, hcompile⟩)
    | ok s => exact Or.inr (Or.inr ⟨s, text, hread, hcompile⟩)

/-- **What one spec file leaves and results in.** -/
theorem buildFile_eq_ok_iff : buildFile settings write t p = .ok (t', r) ↔ Builds settings write t p t' r := by
  constructor
  · intro h
    rcases read_cases settings t p with ⟨f, unread⟩ | ⟨x, refused⟩ | ⟨s, compiles⟩
    · cases (buildFile_of_read_error unread).symm.trans h
    · rw [buildFile_of_refused refused] at h
      split at h
      · cases h
      · next documented =>
        cases h
        exact .failed refused documented
    · rw [buildFile_of_compiles compiles] at h
      split at h
      · next writes =>
        cases h
        exact .checked compiles writes
      · next writes =>
        split at h
        · cases h
        · next q named =>
          obtain ⟨t'', hwrite, h⟩ := map_eq_ok_iff.1 h
          cases h
          obtain ⟨w, takes, rfl⟩ := FileTree.write_eq_ok_iff.1 (mapError_eq_ok_iff.1 hwrite)
          exact .written compiles (by simpa using writes) named takes
  · intro h
    cases h with
    | failed refused documented => rw [buildFile_of_refused refused, if_neg documented]
    | checked compiles writes => rw [buildFile_of_compiles compiles, if_pos writes]
    | @written s q w compiles writes named takes =>
      have hwrite : t.write q.plain s.source = .ok (t.put w (.file (.text s.source))) :=
        FileTree.write_eq_ok_iff.2 ⟨w, takes, rfl⟩
      rw [buildFile_of_compiles compiles, if_neg (by simp [writes]), named]
      simp only [hwrite]
      rfl

/-- **What stops a build at a spec file.** -/
theorem buildFile_eq_error_iff (file : t.isFile p = true) {a : Abort} :
    buildFile settings write t p = .error a ↔ Stops settings write t p a := by
  constructor
  · intro h
    rcases read_cases settings t p with ⟨f, unread⟩ | ⟨x, refused⟩ | ⟨s, compiles⟩
    · cases (buildFile_of_read_error unread).symm.trans h
      obtain rfl : f = .undecodable := FileTree.read_eq_error_of_isFile file unread
      exact .undecodable unread
    · rw [buildFile_of_refused refused] at h
      split at h
      · next internal =>
        cases h
        exact .undocumented refused internal
      · cases h
    · rw [buildFile_of_compiles compiles] at h
      split at h
      · cases h
      · next writes =>
        have writes : write = true := by simpa using writes
        split at h
        · next unnamed =>
          cases h
          exact .unnamed compiles writes unnamed
        · next q named =>
          obtain ⟨w, landing, parent⟩ := FileTree.exists_landing?_of_withName? file named
          obtain ⟨f, hwrite, rfl⟩ := mapError_eq_error_iff.1 (map_eq_error_iff.1 h)
          rcases (FileTree.write_eq_error_iff landing parent).1 hwrite with ⟨rfl, zero⟩ | ⟨rfl, nonzero, directory⟩
          · exact .unwritable compiles writes named zero
          · exact .occupied compiles writes named nonzero landing directory
  · intro h
    cases h with
    | undecodable unread => exact buildFile_of_read_error unread
    | undocumented refused internal => rw [buildFile_of_refused refused, if_pos internal]
    | unnamed compiles writes unnamed => rw [buildFile_of_compiles compiles, if_neg (by simp [writes]), unnamed]
    | @unwritable s q compiles writes named zero =>
      rw [buildFile_of_compiles compiles, if_neg (by simp [writes]), named]
      simp only [FileTree.write_of_hasZero zero]
      rfl
    | @occupied s q w compiles writes named nonzero landing directory =>
      obtain ⟨w', landing', parent⟩ := FileTree.exists_landing?_of_withName? file named
      obtain rfl : w = w' := Option.some.inj (landing.symm.trans landing')
      have hwrite : t.write q.plain s.source = .error .isDirectory :=
        (FileTree.write_eq_error_iff landing parent).2 (Or.inr ⟨rfl, nonzero, directory⟩)
      rw [buildFile_of_compiles compiles, if_neg (by simp [writes]), named]
      simp only [hwrite]
      rfl

theorem alone_eq_error_iff (file : t.isFile p = true) {a : Abort} :
    alone settings write t p = .error a ↔ Stops settings write t p a :=
  map_eq_error_iff.trans (buildFile_eq_error_iff file)

/-- **A spec with something wrong that is documented gives a failed result.** -/
theorem alone_of_refused {x : Problem} (refused : Refused settings t p x) (documented : x.cause.kind ≠ .internal) :
    alone settings write t p = .ok ⟨p, .failed x.message⟩ :=
  map_eq_ok_iff.2 ⟨_, buildFile_eq_ok_iff.2 (.failed refused documented), rfl⟩

theorem Builds.source_eq (h : Builds settings write t p t' r) : r.source = p := by
  cases h <;> rfl

theorem Builds.keeps (h : Builds settings write t p t' r) : t.Keeps t' := by
  cases h with
  | failed | checked => exact .refl t
  | written compiles writes named takes => exact FileTree.keeps_put takes.free

/-- A spec file that is built changes at most the place where its module lands. -/
theorem Builds.item?_eq (h : Builds settings write t p t' r) {w : Place} (hw : r.landing? t ≠ some w) :
    t'.item? w = t.item? w := by
  cases h with
  | failed | checked => rfl
  | @written s q v compiles writes named takes =>
    refine FileTree.item?_put_of_ne (fun hwv => hw ?_) _
    rw [hwv]
    exact takes.landing

/-! ## The same spec in another tree -/

/-- A spec comes out alike in every tree that keeps the tree and in which its file has the same contents. -/
theorem alone_congr (keeps : t.Keeps t') {w : Place} {c : Content} (hw : t.place p = .ok w)
    (hc : t.item? w = some (.file c)) (same : t'.item? w = t.item? w) :
    alone settings write t' p = alone settings write t p := by
  have file : t.isFile p = true := FileTree.isFile_iff_place.2 ⟨w, c, hw, hc⟩
  have hread : t'.read p = t.read p := by
    rw [FileTree.read_of_place hw hc, FileTree.read_of_place (keeps.place hw) (same.trans hc)]
  have hrefused (x : Problem) : Refused settings t' p x ↔ Refused settings t p x := by
    simp only [Refused, hread]
  have hcompiles (s : Suite) : Compiles settings t' p s ↔ Compiles settings t p s := by
    simp only [Compiles, hread]
  cases h : alone settings write t p with
  | error a =>
    refine (alone_eq_error_iff (keeps.isFile file)).2 ?_
    cases (alone_eq_error_iff file).1 h with
    | undecodable unread => exact .undecodable (hread.trans unread)
    | undocumented refused internal => exact .undocumented ((hrefused _).2 refused) internal
    | unnamed compiles writes unnamed => exact .unnamed ((hcompiles _).2 compiles) writes unnamed
    | unwritable compiles writes named zero => exact .unwritable ((hcompiles _).2 compiles) writes named zero
    | occupied compiles writes named nonzero landing directory =>
      exact .occupied ((hcompiles _).2 compiles) writes named nonzero (keeps.landing? landing)
        (directory.imp id (keeps.directory _).2)
  | ok r =>
    obtain ⟨⟨t₁, r⟩, hbuild, rfl⟩ := map_eq_ok_iff.1 h
    have hbuilds : ∃ t₂, Builds settings write t' p t₂ r := by
      cases buildFile_eq_ok_iff.1 hbuild with
      | failed refused documented => exact ⟨_, .failed ((hrefused _).2 refused) documented⟩
      | checked compiles writes => exact ⟨_, .checked ((hcompiles _).2 compiles) writes⟩
      | written compiles writes named takes =>
        exact ⟨_, .written ((hcompiles _).2 compiles) writes named ((keeps.takes_iff takes.landing).2 takes)⟩
    obtain ⟨t₂, hbuilds⟩ := hbuilds
    exact map_eq_ok_iff.2 ⟨(t₂, r), buildFile_eq_ok_iff.2 hbuilds, rfl⟩

/-- A result's module lands in the same place in every tree that keeps the tree. -/
theorem landing?_alone (keeps : t.Keeps t') (h : alone settings write t p = .ok r) :
    r.landing? t' = r.landing? t := by
  obtain ⟨⟨t₁, r⟩, hbuild, rfl⟩ := map_eq_ok_iff.1 h
  cases buildFile_eq_ok_iff.1 hbuild with
  | failed | checked => rfl
  | written compiles writes named takes => exact (keeps.landing? takes.landing).trans takes.landing.symm

/-! ## All specs -/

theorem buildAll_cons {ps : List Path} :
    buildAll settings write t (p :: ps) = match buildFile settings write t p with
      | .error a => (t, .error a)
      | .ok (t', r) =>
        ((buildAll settings write t' ps).1, (buildAll settings write t' ps).2.map (r :: ·)) := rfl

theorem buildAll_cons_eq_ok_iff {ps : List Path} {rs : List BuildResult} :
    buildAll settings write t (p :: ps) = (t', .ok rs) ↔
      ∃ t₁ r rs', Builds settings write t p t₁ r ∧ buildAll settings write t₁ ps = (t', .ok rs') ∧ rs = r :: rs' := by
  rw [buildAll_cons]
  constructor
  · intro h
    split at h
    · cases h
    · next t₁ r hbuild =>
      obtain ⟨htree, hresults⟩ := Prod.ext_iff.1 h
      obtain ⟨rs', hrs', rfl⟩ := map_eq_ok_iff.1 hresults
      exact ⟨t₁, r, rs', buildFile_eq_ok_iff.1 hbuild, Prod.ext_iff.2 ⟨htree, hrs'⟩, rfl⟩
  · rintro ⟨t₁, r, rs', builds, hrest, rfl⟩
    rw [buildFile_eq_ok_iff.2 builds]
    simp only [hrest]
    rfl

theorem buildAll_cons_eq_error_iff {ps : List Path} {a : Abort} :
    buildAll settings write t (p :: ps) = (t', .error a) ↔
      t' = t ∧ buildFile settings write t p = .error a ∨
        ∃ t₁ r, Builds settings write t p t₁ r ∧ buildAll settings write t₁ ps = (t', .error a) := by
  rw [buildAll_cons]
  constructor
  · intro h
    split at h
    · next hbuild =>
      cases h
      exact Or.inl ⟨rfl, hbuild⟩
    · next t₁ r hbuild =>
      obtain ⟨htree, hresults⟩ := Prod.ext_iff.1 h
      exact Or.inr ⟨t₁, r, buildFile_eq_ok_iff.1 hbuild, Prod.ext_iff.2 ⟨htree, map_eq_error_iff.1 hresults⟩⟩
  · rintro (⟨rfl, hbuild⟩ | ⟨t₁, r, builds, hrest⟩)
    · rw [hbuild]
    · rw [buildFile_eq_ok_iff.2 builds]
      simp only [hrest]
      rfl

/-- Every spec has its result, in the order of the specs. -/
theorem map_source_of_buildAll {ps : List Path} {rs : List BuildResult}
    (h : (buildAll settings write t ps).2 = .ok rs) : rs.map (·.source) = ps := by
  induction ps generalizing t rs with
  | nil =>
    cases h
    rfl
  | cons p ps ih =>
    rw [buildAll_cons] at h
    split at h
    · cases h
    · next t' r hbuild =>
      obtain ⟨rs, hrs, rfl⟩ := map_eq_ok_iff.1 h
      rw [List.map_cons, ih hrs, (buildFile_eq_ok_iff.1 hbuild).source_eq]

/-- A build that is stopped has built the specs before the one that stopped it, and nothing after. -/
theorem buildAll_eq_error_iff {ps : List Path} {a : Abort} :
    buildAll settings write t ps = (t', .error a) ↔
      ∃ before p after rs, ps = before ++ p :: after ∧ buildAll settings write t before = (t', .ok rs) ∧
        buildFile settings write t' p = .error a := by
  induction ps generalizing t with
  | nil => simp [buildAll]
  | cons q ps ih =>
    rw [buildAll_cons_eq_error_iff]
    constructor
    · rintro (⟨rfl, hq⟩ | ⟨t₁, r, builds, hrest⟩)
      · exact ⟨[], q, ps, [], rfl, rfl, hq⟩
      · obtain ⟨before, p, after, rs, rfl, hbefore, hp⟩ := ih.1 hrest
        exact ⟨q :: before, p, after, r :: rs, rfl,
          buildAll_cons_eq_ok_iff.2 ⟨t₁, r, rs, builds, hbefore, rfl⟩, hp⟩
    · rintro ⟨before, p, after, rs, hsplit, hbefore, hp⟩
      cases before with
      | nil =>
        cases hsplit
        cases hbefore
        exact Or.inl ⟨rfl, hp⟩
      | cons _ before =>
        cases hsplit
        obtain ⟨t₁, r, rs', builds, hrest, -⟩ := buildAll_cons_eq_ok_iff.1 hbefore
        exact Or.inr ⟨t₁, r, builds, ih.2 ⟨before, p, after, rs', rfl, hrest, hp⟩⟩

/-- A build keeps the tree, whether it returns or is stopped. -/
theorem keeps_of_buildAll {ps : List Path} {x : Except Abort (List BuildResult)}
    (h : buildAll settings write t ps = (t', x)) : t.Keeps t' := by
  induction ps generalizing t x with
  | nil =>
    cases h
    exact .refl _
  | cons p ps ih =>
    rw [buildAll_cons] at h
    split at h
    · cases h
      exact .refl _
    · next t₁ r hbuild =>
      obtain ⟨rfl, -⟩ := Prod.ext_iff.1 h
      exact (buildFile_eq_ok_iff.1 hbuild).keeps.trans (ih rfl)

/-- No spec's module lands on the file of a spec that comes later. -/
def Apart (settings : Settings) (write : Bool) (t : FileTree) (ps : List Path) : Prop :=
  ps.Pairwise fun p q =>
    ∀ w ∈ (alone settings write t p).toOption.bind (BuildResult.landing? t), t.place q ≠ .ok w

instance (settings : Settings) (write : Bool) (t : FileTree) (ps : List Path) : Decidable (Apart settings write t ps) :=
  inferInstanceAs (Decidable (List.Pairwise _ _))

/-- Specs that are apart come out as each of them does alone, up to the first that stops the build. -/
theorem buildAll_eq_mapM {ps : List Path} (files : ∀ p ∈ ps, t.isFile p = true) (apart : Apart settings write t ps)
    (keeps : t.Keeps t') (same : ∀ p ∈ ps, ∀ w, t.place p = .ok w → t'.item? w = t.item? w) :
    (buildAll settings write t' ps).2 = ps.mapM (alone settings write t) := by
  induction ps generalizing t' with
  | nil => rfl
  | cons p ps ih =>
    obtain ⟨hp, hps⟩ := List.pairwise_cons.1 apart
    have file := files p List.mem_cons_self
    obtain ⟨w, c, hw, hc⟩ := FileTree.isFile_iff_place.1 file
    have halone : alone settings write t' p = alone settings write t p :=
      alone_congr keeps hw hc (same p List.mem_cons_self w hw)
    rw [buildAll_cons, List.mapM_cons]
    cases hbuild : buildFile settings write t' p with
    | error a =>
      rw [← halone, alone, hbuild]
      rfl
    | ok x =>
      obtain ⟨t₁, r⟩ := x
      have hr : alone settings write t' p = .ok r := map_eq_ok_iff.2 ⟨_, hbuild, rfl⟩
      have builds := buildFile_eq_ok_iff.1 hbuild
      have hlanding := landing?_alone keeps (halone.symm.trans hr)
      rw [← halone, hr]
      have hsame : ∀ q ∈ ps, ∀ v, t.place q = .ok v → t₁.item? v = t.item? v := by
        intro q hq v hv
        rw [← same q (List.mem_cons_of_mem p hq) v hv]
        refine builds.item?_eq fun hland => hp q hq v ?_ hv
        rw [← halone, hr]
        exact hlanding.symm.trans hland
      have hrest := ih (fun q hq => files q (List.mem_cons_of_mem p hq)) hps (keeps.trans builds.keeps) hsame
      show (buildAll settings write t₁ ps).2.map (r :: ·) = _
      rw [hrest]
      cases ps.mapM (alone settings write t) <;> rfl

/-! ## A build -/

theorem build_of_refuses {paths : List Path} (refused : t.refuses settings.specExtension paths = true) :
    build settings write t paths = (t, .error .invalidPattern) := if_pos refused

theorem build_eq_buildAll {paths : List Path} (looks : t.refuses settings.specExtension paths = false) :
    build settings write t paths =
      buildAll settings write t (t.discover settings.specExtension paths).found :=
  if_neg (by simp [looks])

/-- A path to a file is looked at without a pattern. -/
theorem build_singleton (file : t.isFile p = true) :
    (build settings write t [p]).2 = (alone settings write t p).map ([·]) := by
  have hfound : (t.discover settings.specExtension [p]).found = [p] := by
    simp [FileTree.discover, FileTree.specsAt, file, FileTree.distinct, sortBy, insertBy]
  have looks : t.refuses settings.specExtension [p] = false := by
    simp [FileTree.refuses, FileTree.isDirectory_of_isFile file]
  rw [build_eq_buildAll looks, hfound, buildAll_cons, alone]
  cases buildFile settings write t p <;> rfl

/-- **What stops a build**: a pattern that is refused, before anything is built, or one spec, after those before it. -/
theorem build_eq_error_iff {paths : List Path} {a : Abort} :
    build settings write t paths = (t', .error a) ↔
      t.refuses settings.specExtension paths = true ∧ t' = t ∧ a = .invalidPattern ∨
        t.refuses settings.specExtension paths = false ∧
          ∃ before p after rs, (t.discover settings.specExtension paths).found = before ++ p :: after ∧
            buildAll settings write t before = (t', .ok rs) ∧ Stops settings write t' p a := by
  cases hlooks : t.refuses settings.specExtension paths with
  | true => simp [build_of_refuses hlooks, eq_comm]
  | false =>
    have hstops : ∀ before p after rs, (t.discover settings.specExtension paths).found = before ++ p :: after →
        buildAll settings write t before = (t', .ok rs) →
        (buildFile settings write t' p = .error a ↔ Stops settings write t' p a) := by
      intro before p after rs hsplit hbefore
      have file : t.isFile p = true := FileTree.isFile_of_mem_found (by rw [hsplit]; simp)
      exact buildFile_eq_error_iff ((keeps_of_buildAll hbefore).isFile file)
    rw [build_eq_buildAll hlooks, buildAll_eq_error_iff]
    simp only [Bool.false_eq_true, false_and, true_and, false_or]
    constructor
    · rintro ⟨before, p, after, rs, hsplit, hbefore, hp⟩
      exact ⟨before, p, after, rs, hsplit, hbefore, (hstops before p after rs hsplit hbefore).1 hp⟩
    · rintro ⟨before, p, after, rs, hsplit, hbefore, hp⟩
      exact ⟨before, p, after, rs, hsplit, hbefore, (hstops before p after rs hsplit hbefore).2 hp⟩

/-- A build that returns has built what it found. -/
theorem buildAll_of_build {paths : List Path} {rs : List BuildResult}
    (h : build settings write t paths = (t', .ok rs)) :
    buildAll settings write t (t.discover settings.specExtension paths).found = (t', .ok rs) := by
  cases hlooks : t.refuses settings.specExtension paths with
  | true => cases (build_of_refuses hlooks).symm.trans h
  | false => exact (build_eq_buildAll hlooks).symm.trans h

/-- **A build returns one result for each spec that it finds, in their order, if nothing stops it.** What is wrong with
a spec's text fails that spec. What stops a build is an extension that makes no pattern, before the first spec, or one of
five things (`Stops`) at the first spec of which it is so. Unless a module is written over the file of a later spec, each
result is the one that the spec would get alone. -/
theorem build_eq_each_alone (settings : Settings) (write : Bool) (t : FileTree) (paths : List Path) :
    let found := (t.discover settings.specExtension paths).found
    (found.Pairwise (fun p q => p.le q = true) ∧ found.Nodup) ∧
      (∀ rs, (build settings write t paths).2 = .ok rs → rs.map (·.source) = found) ∧
      (∀ p ∈ found, (build settings write t [p]).2 = (alone settings write t p).map ([·]) ∧
        (∀ x, Refused settings t p x → x.cause.kind ≠ .internal →
          alone settings write t p = .ok ⟨p, .failed x.message⟩) ∧
        ∀ a, alone settings write t p = .error a ↔ Stops settings write t p a) ∧
      (t.refuses settings.specExtension paths = false → Apart settings write t found →
        (build settings write t paths).2 = found.mapM (alone settings write t)) ∧
      ∀ t' a, build settings write t paths = (t', .error a) ↔
        t.refuses settings.specExtension paths = true ∧ t' = t ∧ a = .invalidPattern ∨
          t.refuses settings.specExtension paths = false ∧
            ∃ before p after rs, found = before ++ p :: after ∧ buildAll settings write t before = (t', .ok rs) ∧
              Stops settings write t' p a := by
  intro found
  have files : ∀ p ∈ found, t.isFile p = true := fun p hp => FileTree.isFile_of_mem_found hp
  refine ⟨⟨FileTree.found_pairwise t _ paths, FileTree.found_nodup t _ paths⟩, fun rs hrs => ?_,
    fun p hp => ⟨build_singleton (files p hp), fun x => alone_of_refused, fun a => alone_eq_error_iff (files p hp)⟩,
    fun looks apart => ?_, fun t' a => build_eq_error_iff⟩
  · have h := buildAll_of_build (Prod.ext_iff.2 ⟨rfl, hrs⟩)
    exact map_source_of_buildAll (congrArg Prod.snd h)
  · rw [build_eq_buildAll looks]
    exact buildAll_eq_mapM files apart (.refl t) fun p _ w _ => rfl

/-- a spec with one initial state -/
def initialText (title : Text) : Text :=
  let fence : Text := "\x60\x60\x60"
  Text.unlines ["# " ++ title, fence, "|", fence, []]

/-- a working directory with two specs, the second of which is not text -/
def unreadableTree : FileTree :=
  ⟨"/", [(["a.md"], .file (.text (initialText "A"))), (["b.md"], .file (.bytes [0xff]))]⟩

/-- settings that make a name which no file can have -/
def zeroSuffix : Settings :=
  { Settings.default with generator := { Settings.default.generator with outputSuffix := Text.zero :: ".py" } }

/-- settings that make a pattern which is refused -/
def starredExtension : Settings := { Settings.default with specExtension := ".**" }

/-- The second spec stops the build, which is that of the first alone until then. With a zero character in the suffix
the first stops it, and with two stars in the extension no spec is read. -/
theorem build_eq_each_alone_unreadable :
    unreadableTree.IsTree ∧
      (build .default true unreadableTree [.here]).2 =
        [⟨.relative, ["a.md"]⟩, ⟨.relative, ["b.md"]⟩].mapM (alone .default true unreadableTree) ∧
      (build .default true unreadableTree [.here]).2 = .error (.file .undecodable) ∧
      build zeroSuffix true unreadableTree [.here] = (unreadableTree, .error (.file .zeroCharacter)) ∧
      build starredExtension true unreadableTree [.here] = (unreadableTree, .error .invalidPattern) := by
  have tree : unreadableTree.IsTree := by decide
  have looks : unreadableTree.refuses Settings.default.specExtension [.here] = false := by decide
  obtain ⟨-, -, -, halone, hstops⟩ := build_eq_each_alone .default true unreadableTree [.here]
  obtain ⟨-, -, -, -, hzero⟩ := build_eq_each_alone zeroSuffix true unreadableTree [.here]
  obtain ⟨-, -, -, -, hstarred⟩ := build_eq_each_alone starredExtension true unreadableTree [.here]
  have hfound : (unreadableTree.discover ".md" [.here]).found =
      [⟨.relative, ["a.md"]⟩, ⟨.relative, ["b.md"]⟩] := by decide
  refine ⟨tree, (halone looks (by decide +kernel)).trans (congrArg _ hfound), ?_, ?_, ?_⟩
  · have hbefore : (buildAll .default true unreadableTree [⟨.relative, ["a.md"]⟩]).2.toOption ≠ none := by
      decide +kernel
    have hunread : (buildAll .default true unreadableTree [⟨.relative, ["a.md"]⟩]).1.read ⟨.relative, ["b.md"]⟩ =
        .error .undecodable := by decide +kernel
    cases hrs : (buildAll .default true unreadableTree [⟨.relative, ["a.md"]⟩]).2 with
    | error a =>
      rw [hrs] at hbefore
      exact absurd rfl hbefore
    | ok rs =>
      exact congrArg Prod.snd ((hstops _ _).2 (Or.inr ⟨looks,
        [⟨.relative, ["a.md"]⟩], ⟨.relative, ["b.md"]⟩, [], rs, hfound, Prod.ext_iff.2 ⟨rfl, hrs⟩,
        .undecodable hunread⟩))
  · have hcompiles : (Suite.compile zeroSuffix "a.md" (initialText "A")).toOption ≠ none := by decide +kernel
    cases hs : Suite.compile zeroSuffix "a.md" (initialText "A") with
    | error x =>
      rw [hs] at hcompiles
      exact absurd rfl hcompiles
    | ok s =>
      exact (hzero _ _).2 (Or.inr ⟨by decide, [], ⟨.relative, ["a.md"]⟩, [⟨.relative, ["b.md"]⟩], [], hfound, rfl,
        .unwritable ⟨_, by decide, hs⟩ rfl rfl (by decide)⟩)
  · exact (hstarred _ _).2 (Or.inl ⟨by decide, rfl, rfl⟩)

/-- A single file can keep a build from returning. -/
theorem not_build_always_returns :
    ¬∀ t : FileTree, t.IsTree → ∀ paths, ∃ rs, (build .default true t paths).2 = .ok rs := by
  intro h
  obtain ⟨rs, hrs⟩ := h unreadableTree (by decide) [.here]
  have hfails : (build .default true unreadableTree [.here]).2.toOption = none := by decide +kernel
  rw [hrs] at hfails
  cases hfails

end Build

end CursorSpec
