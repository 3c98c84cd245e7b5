/-
What a build that returned has left of the modules it wrote, and of the specs.

At every place there is the module of the last result that was written there, and where nothing was written there is
what was there before (`item?_buildAll`). Where modules land is decided by the directory and the stem of each spec and
by the suffix; nothing looks at what else lands there, nor at whether a spec is there. So all modules remain as their
results have them, and no spec changes, if and only if modules that land on one place are the same and a module that
lands on a spec is what that spec is already (`kept_iff`). `not_always_kept` has two specs with one stem.
-/
import CursorSpec.Proofs.Build.Results

namespace CursorSpec

/-- whether two contents are the same: the text of one may be given as the bytes of the other -/
def Content.Same (c d : Content) : Prop := c = d ∨ ∃ t, c.decode? = some t ∧ d.decode? = some t

/-- whether a result says that its suite was written, and at which place -/
def BuildResult.WritesTo (t : FileTree) (r : BuildResult) (w : Place) (s : Suite) : Prop :=
  ∃ q, r.outcome = .written q s ∧ t.landing? q.plain = some w

theorem BuildResult.WritesTo.landing? {t : FileTree} {r : BuildResult} {w : Place} {s : Suite}
    (h : r.WritesTo t w s) : r.landing? t = some w := by
  obtain ⟨q, houtcome, hw⟩ := h
  rw [BuildResult.landing?, houtcome]
  exact hw

namespace Build

variable {settings : Settings} {write : Bool} {t t₀ t' : FileTree} {p : Path} {r : BuildResult} {rs : List BuildResult}

/-! ## One spec -/

/-- In the tree that is left, a place holds the module if it was written there, and else what it held. -/
theorem Builds.item?_cases (h : Builds settings write t p t' r) (keeps : t₀.Keeps t) (file : t₀.isFile p = true)
    (w : Place) :
    r.landing? t₀ ≠ some w ∧ t'.item? w = t.item? w ∨
      ∃ s, r.WritesTo t₀ w s ∧ t'.item? w = some (.file (.text s.source)) := by
  cases h with
  | failed | checked => exact Or.inl ⟨nofun, rfl⟩
  | @written s q v compiles writes named takes =>
    obtain ⟨v', landing, -⟩ := FileTree.exists_landing?_of_withName? file named
    obtain rfl : v = v' := Option.some.inj (takes.landing.symm.trans (keeps.landing? landing))
    by_cases hwv : w = v
    · rw [hwv]
      exact Or.inr ⟨s, ⟨q, rfl, landing⟩, FileTree.item?_put_self takes.ne_nil _⟩
    · refine Or.inl ⟨fun h => hwv ?_, FileTree.item?_put_of_ne hwv _⟩
      exact Option.some.inj (h.symm.trans landing)

/-- Where a module was written, its path leads. -/
theorem Builds.place_output (h : Builds settings write t p t' r) (keeps : t₀.Keeps t) (file : t₀.isFile p = true)
    {q : Path} {s : Suite} (output : r.outcome = .written q s) :
    ∃ w, r.WritesTo t₀ w s ∧ t'.place q.plain = .ok w := by
  cases h with
  | failed | checked => cases output
  | @written s q v compiles writes named takes =>
    cases output
    obtain ⟨v', landing, -⟩ := FileTree.exists_landing?_of_withName? file named
    obtain rfl : v = v' := Option.some.inj (takes.landing.symm.trans (keeps.landing? landing))
    exact ⟨v, ⟨q, rfl, landing⟩, takes.place_put⟩

/-! ## All specs -/

/-- **The last module written at a place is there in the end**, and where none was written nothing has changed. -/
theorem item?_buildAll {ps : List Path} (h : buildAll settings write t ps = (t', .ok rs)) (keeps : t₀.Keeps t)
    (files : ∀ p ∈ ps, t₀.isFile p = true) (w : Place) :
    (∀ r ∈ rs, r.landing? t₀ ≠ some w) ∧ t'.item? w = t.item? w ∨
      ∃ before r after s, rs = before ++ r :: after ∧ r.WritesTo t₀ w s ∧ (∀ r' ∈ after, r'.landing? t₀ ≠ some w) ∧
        t'.item? w = some (.file (.text s.source)) := by
  induction ps generalizing t rs with
  | nil =>
    cases h
    exact Or.inl ⟨nofun, rfl⟩
  | cons p ps ih =>
    obtain ⟨t₁, r, rs', builds, hrest, rfl⟩ := buildAll_cons_eq_ok_iff.1 h
    rcases ih hrest (keeps.trans builds.keeps) fun q hq => files q (List.mem_cons_of_mem p hq) with
      ⟨hnone, hitem⟩ | ⟨before, r', after, s, rfl, hwrites, hafter, hitem⟩
    · rcases builds.item?_cases keeps (files p List.mem_cons_self) w with ⟨hr, hsame⟩ | ⟨s, hwrites, hhas⟩
      · refine Or.inl ⟨fun r' hr' => ?_, hitem.trans hsame⟩
        rcases List.mem_cons.1 hr' with rfl | hr'
        · exact hr
        · exact hnone r' hr'
      · exact Or.inr ⟨[], r, rs', s, rfl, hwrites, hnone, hitem.trans hhas⟩
    · exact Or.inr ⟨r :: before, r', after, s, rfl, hwrites, hafter, hitem⟩

theorem place_output_of_mem {ps : List Path} (h : buildAll settings write t ps = (t', .ok rs)) (keeps : t₀.Keeps t)
    (files : ∀ p ∈ ps, t₀.isFile p = true) (hr : r ∈ rs) {q : Path} {s : Suite} (output : r.outcome = .written q s) :
    ∃ w, r.WritesTo t₀ w s ∧ t'.place q.plain = .ok w := by
  induction ps generalizing t rs with
  | nil =>
    cases h
    cases hr
  | cons p ps ih =>
    obtain ⟨t₁, r₁, rs', builds, hrest, rfl⟩ := buildAll_cons_eq_ok_iff.1 h
    rcases List.mem_cons.1 hr with rfl | hr
    · obtain ⟨w, hw, hplace⟩ := builds.place_output keeps (files p List.mem_cons_self) output
      exact ⟨w, hw, (keeps_of_buildAll hrest).place hplace⟩
    · exact ih hrest (keeps.trans builds.keeps) (fun q hq => files q (List.mem_cons_of_mem p hq)) hr

/-! ## What is kept -/

/-- whether every module that was written is still what its result has -/
def ModulesKept (t' : FileTree) (rs : List BuildResult) : Prop :=
  ∀ r ∈ rs, ∀ q s, r.outcome = .written q s → t'.at? q.plain = some (.file (.text s.source))

/-- whether spec files have the contents that they had -/
def SpecsKept (t t' : FileTree) (ps : List Path) : Prop :=
  ∀ p ∈ ps, ∃ c c', t.at? p = some (.file c) ∧ t'.at? p = some (.file c') ∧ c.Same c'

/-- **What is written remains, and what is read stays**, if and only if modules that land on one place are the same and
each that lands on a spec is the text of that spec. -/
theorem kept_iff (settings : Settings) {t t' : FileTree} {paths : List Path} {rs : List BuildResult}
    (h : build settings true t paths = (t', .ok rs)) :
    ModulesKept t' rs ∧ SpecsKept t t' (t.discover settings.specExtension paths).found ↔
      (∀ r ∈ rs, ∀ r' ∈ rs, ∀ w s s', r.WritesTo t w s → r'.WritesTo t w s' → s.source = s'.source) ∧
        ∀ r ∈ rs, ∀ w s, r.WritesTo t w s → ∀ p ∈ (t.discover settings.specExtension paths).found,
          t.place p = .ok w → ∃ c, t.item? w = some (.file c) ∧ c.decode? = some s.source := by
  have files : ∀ p ∈ (t.discover settings.specExtension paths).found, t.isFile p = true :=
    fun p hp => FileTree.isFile_of_mem_found hp
  have h := buildAll_of_build h
  have keeps : t.Keeps t' := keeps_of_buildAll h
  constructor
  · rintro ⟨modules, specs⟩
    -- both sides of a clash are the one item that is at its place in the end
    have hitem : ∀ r ∈ rs, ∀ w s, r.WritesTo t w s → t'.item? w = some (.file (.text s.source)) := by
      rintro r hr w s ⟨q, output, landing⟩
      obtain ⟨w', ⟨q', output', landing'⟩, hplace⟩ := place_output_of_mem h (.refl t) files hr output
      cases output.symm.trans output'
      obtain rfl : w = w' := Option.some.inj (landing.symm.trans landing')
      obtain ⟨v, hv, hitem⟩ := FileTree.at?_eq_some_iff.1 (modules r hr q s output)
      cases hplace.symm.trans hv
      exact hitem
    refine ⟨fun r hr r' hr' w s s' hw hw' => ?_, fun r hr w s hw p hp hplace => ?_⟩
    · have hsame := (hitem r hr w s hw).symm.trans (hitem r' hr' w s' hw')
      simpa using hsame
    · obtain ⟨c, c', hc, hc', hsame⟩ := specs p hp
      obtain ⟨v, hv, hc⟩ := FileTree.at?_eq_some_iff.1 hc
      cases hplace.symm.trans hv
      obtain ⟨v, hv, hc'⟩ := FileTree.at?_eq_some_iff.1 hc'
      cases (keeps.place hplace).symm.trans hv
      cases (hitem r hr w s hw).symm.trans hc'
      refine ⟨c, hc, ?_⟩
      rcases hsame with rfl | ⟨text, hdecode, hdecode'⟩
      · rfl
      · exact hdecode.trans hdecode'.symm
  · rintro ⟨modules, specs⟩
    refine ⟨fun r hr q s output => ?_, fun p hp => ?_⟩
    · obtain ⟨w, hw, hplace⟩ := place_output_of_mem h (.refl t) files hr output
      refine FileTree.at?_eq_some_iff.2 ⟨w, hplace, ?_⟩
      rcases item?_buildAll h (.refl t) files w with ⟨hnone, -⟩ | ⟨before, r', after, s', rfl, hw', -, hitem⟩
      · exact absurd hw.landing? (hnone r hr)
      · rw [hitem, modules r hr r' (by simp) w s s' hw hw']
    · obtain ⟨w, c, hplace, hc⟩ := FileTree.isFile_iff_place.1 (files p hp)
      have hbefore : t.at? p = some (.file c) := FileTree.at?_eq_some_iff.2 ⟨w, hplace, hc⟩
      rcases item?_buildAll h (.refl t) files w with ⟨-, hitem⟩ | ⟨before, r, after, s, rfl, hw, -, hitem⟩
      · exact ⟨c, c, hbefore, FileTree.at?_eq_some_iff.2 ⟨w, keeps.place hplace, hitem.trans hc⟩, Or.inl rfl⟩
      · obtain ⟨c', hc', hdecode⟩ := specs r (by simp) w s hw p hp hplace
        cases hc.symm.trans hc'
        exact ⟨c, _, hbefore, FileTree.at?_eq_some_iff.2 ⟨w, keeps.place hplace, hitem⟩,
          Or.inr ⟨s.source, hdecode, rfl⟩⟩

def initialSuite (name title : Text) : Suite := ⟨name, [⟨title, .make [] [.caret ⟨0, 0⟩]⟩], [], .default⟩

/-- a working directory with two specs of one stem -/
def clashTree : FileTree :=
  ⟨"/", [(["b.md"], .file (.text (initialText "A"))), (["b.txt"], .file (.text (initialText "C")))]⟩

def clashPaths : List Path := [⟨.relative, ["b.md"]⟩, ⟨.relative, ["b.txt"]⟩]

/-- each of the two specs makes a module of one name -/
def clashResults : List BuildResult :=
  [⟨⟨.relative, ["b.md"]⟩, .written ⟨.relative, ["b_test.py"]⟩ (initialSuite "b.md" "A")⟩,
    ⟨⟨.relative, ["b.txt"]⟩, .written ⟨.relative, ["b_test.py"]⟩ (initialSuite "b.txt" "C")⟩]

/-- only the second module is there in the end -/
def clashLeft : FileTree := clashTree.put ["b_test.py"] (.file (.text (initialSuite "b.txt" "C").source))

theorem build_clash : build .default true clashTree clashPaths = (clashLeft, .ok clashResults) := by decide +kernel

/-- Of these two specs one module is lost, as they land on one place and differ. -/
theorem kept_iff_clash :
    clashTree.IsTree ∧ build .default true clashTree clashPaths = (clashLeft, .ok clashResults) ∧
      ¬(ModulesKept clashLeft clashResults ∧
        SpecsKept clashTree clashLeft (clashTree.discover ".md" clashPaths).found) := by
  have tree : clashTree.IsTree := by decide
  refine ⟨tree, build_clash, fun kept => ?_⟩
  obtain ⟨same, -⟩ := (kept_iff .default build_clash).1 kept
  have hsource : (initialSuite "b.md" "A").source = (initialSuite "b.txt" "C").source :=
    same _ List.mem_cons_self _ (List.mem_cons_of_mem _ List.mem_cons_self) ["b_test.py"] _ _
      ⟨_, rfl, by decide⟩ ⟨_, rfl, by decide⟩
  exact absurd hsource (by decide +kernel)

/-- Not every build that returns keeps the modules that it wrote. -/
theorem not_always_kept :
    ¬∀ t t' : FileTree, t.IsTree → ∀ paths rs, build .default true t paths = (t', .ok rs) → ModulesKept t' rs := by
  intro h
  have hkept := h clashTree clashLeft (by decide) clashPaths clashResults build_clash _ List.mem_cons_self _ _ rfl
  exact absurd hkept (by decide +kernel)

end Build

end CursorSpec
