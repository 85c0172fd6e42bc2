import CrossBuild.Proofs.Backend.ToolPath
import CrossBuild.Proofs.Scenario.LastOutput
import CrossBuild.Proofs.Scenario.Preparation

/-!
# Which generator a scenario runs

The name of the generator is that of the plan, or else of the environment, or else of the
settings, or else the default one (`ScenarioPlan.NamesGenerator`).  The name leads to a path
(`ScenarioPlan.LeadsTo`): an absolute one to itself, one of a single part to the first program
of that name on the search path, and whatever is not found to the name below the directory that
the plan starts from.

The generator is run from the working directory, so its path should start at the root.  On the
first way it does, on the second it does if the search looks in absolute directories, and on the
third if the directory is absolute.  The current directory is; a planned one is taken as it was
given (`ScenarioPlan.StaysRelative`, `ScenarioPlan.TakenRelative`).
-/
namespace CrossBuild

/-! ## 1. Where a search starts -/

theorem Place.isAbsolute_path (place : Place) : place.path.isAbsolute = true := by
  simp [path, Path.isAbsolute, Path.separator, String.toList_append]

theorem Machine.isAbsolute_of_currentDirectory {m : Machine} {directory : Path}
    (h : m.currentDirectory = .ok directory) : directory.isAbsolute = true := by
  unfold currentDirectory at h
  split at h
  · cases h
    exact m.directory.isAbsolute_path
  · cases h

namespace Locator

variable {l : Locator} {m : Machine} {named path : Path}

theorem base_ofEnvironment {directory : Path} (h : m.currentDirectory = .ok directory) :
    (ofEnvironment m).base = directory := by
  simp only [ofEnvironment, ofSearchPath, h]

/-- A name of one part is found: its path is the first program among those that the
directories of the search path have under the name. -/
inductive Finds (l : Locator) (m : Machine) (named path : Path) : Prop where
  | intro (bare : named.components.length = 1) (searchPath : String)
    (known : l.searchPath = some searchPath)
    (first : IsFirst (fun p => m.isProgram p = true)
      ((Text.splitOn ':' searchPath).map fun listed => (l.directory m listed).join named) path)

theorem finds_iff :
    (if named.components.length = 1 then l.find? m named.text else none) = some path ↔
      l.Finds m named path := by
  by_cases hbare : named.components.length = 1
  · have hne : named.text ≠ "" := by
      intro h
      have hempty : named = ⟨""⟩ := congrArg Path.mk h
      rw [hempty] at hbare
      exact absurd hbare (by decide)
    have hplaces (searchPath : String) : l.places m searchPath named.text =
        (Text.splitOn ':' searchPath).map fun listed => (l.directory m listed).join named := by
      have hfew : ¬(Path.mk named.text).components.length > 1 := Nat.not_lt.mpr hbare.le
      rw [places, if_neg hfew]
    simp only [if_pos hbare, find?, if_neg hne, Option.bind_eq_some_iff,
      find?_eq_some_iff_isFirst, hplaces]
    constructor
    · rintro ⟨searchPath, hknown, hfirst⟩
      exact .intro hbare searchPath hknown hfirst
    · rintro ⟨-, searchPath, hknown, hfirst⟩
      exact ⟨searchPath, hknown, hfirst⟩
  · rw [if_neg hbare]
    constructor
    · rintro ⟨⟩
    · rintro ⟨h, -, -, -⟩
      exact absurd h hbare

theorem Finds.find?_eq (h : l.Finds m named path) : l.find? m named.text = some path := by
  have hfound := finds_iff.mpr h
  split at hfound
  · exact hfound
  · cases hfound

end Locator

namespace ScenarioPlan

/-! ## 2. The name of the generator -/

/-- The name of the generator: the planned one, else that of the variable if it is not empty,
else that of the settings, else the default one. -/
inductive NamesGenerator (planned : Option Path) (env : Environment) (settings : Settings) :
    Path → Prop where
  | planned {named : Path} (given : planned = some named) :
    NamesGenerator planned env settings named
  | variable (unplanned : planned = none) {text : String}
    (given : env.get? Settings.generatorVariable = some text) (nonempty : text ≠ "") :
    NamesGenerator planned env settings ⟨text⟩
  | settings (unplanned : planned = none)
    (unset : env.get? Settings.generatorVariable = none ∨
      env.get? Settings.generatorVariable = some "")
    {named : Path} (given : settings.generator = some named) :
    NamesGenerator planned env settings named
  | default (unplanned : planned = none)
    (unset : env.get? Settings.generatorVariable = none ∨
      env.get? Settings.generatorVariable = some "")
    (ungiven : settings.generator = none) :
    NamesGenerator planned env settings defaultGenerator

variable {planned : Option Path} {env : Environment} {settings : Settings}

theorem namesGenerator_iff {named : Path} :
    NamesGenerator planned env settings named ↔ namedGenerator planned env settings = named := by
  constructor
  · rintro (given | ⟨unplanned, given, nonempty⟩ | ⟨unplanned, unset, given⟩ |
      ⟨unplanned, unset, ungiven⟩)
    · simp [namedGenerator, given]
    · simp [namedGenerator, unplanned, Environment.nonempty?_eq_some_iff.mpr ⟨given, nonempty⟩]
    · simp [namedGenerator, unplanned, Environment.nonempty?_eq_none_iff.mpr unset, given]
    · simp [namedGenerator, unplanned, Environment.nonempty?_eq_none_iff.mpr unset, ungiven]
  · rintro rfl
    cases hplanned : planned with
    | some named => exact .planned rfl
    | none =>
      cases hvariable : env.nonempty? Settings.generatorVariable with
      | some text =>
        obtain ⟨given, nonempty⟩ := Environment.nonempty?_eq_some_iff.mp hvariable
        simpa [namedGenerator, hvariable] using NamesGenerator.variable rfl given nonempty
      | none =>
        have unset := Environment.nonempty?_eq_none_iff.mp hvariable
        cases hsettings : settings.generator with
        | some named =>
          simpa [namedGenerator, hvariable, hsettings] using
            NamesGenerator.settings rfl unset hsettings
        | none =>
          simpa [namedGenerator, hvariable, hsettings] using
            NamesGenerator.default rfl unset hsettings

/-! ## 3. The path that the name leads to -/

/-- The path of the generator, by its name: the name if it is absolute, else the program that
is found, else the name below a directory. -/
inductive LeadsTo (l : Locator) (m : Machine) (directory named : Path) : Path → Prop where
  | absolute (given : named.isAbsolute = true) : LeadsTo l m directory named named
  | searched (relative : named.isAbsolute = false) {path : Path}
    (found : l.Finds m named path) : LeadsTo l m directory named path
  | below (relative : named.isAbsolute = false) (missing : ¬∃ path, l.Finds m named path) :
    LeadsTo l m directory named (directory.join named)

theorem leadsTo_chooseGenerator (l : Locator) (m : Machine) (directory named : Path) :
    LeadsTo l m directory named (chooseGenerator m named l directory) := by
  unfold chooseGenerator
  split
  · rename_i given
    exact .absolute given
  · rename_i hrelative
    have relative : named.isAbsolute = false := by simpa using hrelative
    cases hfound : (if named.components.length = 1 then l.find? m named.text else none) with
    | some path => exact .searched relative (Locator.finds_iff.mp hfound)
    | none =>
      refine .below relative fun ⟨path, hfinds⟩ => ?_
      rw [← Locator.finds_iff, hfound] at hfinds
      cases hfinds

/-- A path that is led to starts at the root, unless it was found in a relative directory, or a
relative name that is not found is taken from one. -/
theorem LeadsTo.isAbsolute_iff {l : Locator} {m : Machine} {directory named path : Path}
    (hbase : l.base.isAbsolute = true) (h : LeadsTo l m directory named path) :
    path.isAbsolute = true ↔
      ¬((∃ path, l.Finds m named path ∧ l.FindsRelative m named.text path) ∨
        named.isAbsolute = false ∧ directory.isAbsolute = false ∧ ¬∃ path, l.Finds m named path) := by
  cases h with
  | absolute given =>
    refine iff_of_true given ?_
    rintro (⟨_, -, hrelative⟩ | ⟨relative, -, -⟩)
    · cases given.symm.trans hrelative.relative
    · cases given.symm.trans relative
  | searched relative found =>
    rcases Locator.isAbsolute_or_findsRelative hbase relative found.find?_eq with
      habsolute | hrelative
    · refine iff_of_true habsolute ?_
      rintro (⟨_, found', hrelative⟩ | ⟨-, -, missing⟩)
      · cases found.find?_eq.symm.trans found'.find?_eq
        cases habsolute.symm.trans hrelative.isAbsolute_eq
      · exact missing ⟨path, found⟩
    · refine iff_of_false ?_ (not_not_intro (.inl ⟨path, found, hrelative⟩))
      simp [hrelative.isAbsolute_eq]
  | below relative missing =>
    have hnone : ¬∃ path, l.Finds m named path ∧ l.FindsRelative m named.text path :=
      fun ⟨path, found, _⟩ => missing ⟨path, found⟩
    simp [Path.isAbsolute_join, relative, missing, hnone]

/-! ## 4. The generator of a plan -/

variable (plan : ScenarioPlan) (m : Machine)

/-- Where the generator of a plan is searched. -/
def usedLocator : Locator :=
  plan.locator.getD (.ofEnvironment m)

/-- A relative name that is not found, and so is taken from a planned directory that is relative
as well. -/
structure TakenRelative (named : Path) : Prop where
  name : named.isAbsolute = false
  missing : ¬∃ path, (plan.usedLocator m).Finds m named path
  directory : ∃ directory, plan.directory = some directory ∧ directory.isAbsolute = false

/-- A generator that is left relative. -/
inductive StaysRelative (named : Path) : Prop where
  /-- It is found in a directory that the search has not made absolute. -/
  | searched {path : Path} (found : (plan.usedLocator m).Finds m named path)
    (relative : (plan.usedLocator m).FindsRelative m named.text path) : StaysRelative named
  /-- It is taken from a directory of the plan. -/
  | below (taken : plan.TakenRelative m named) : StaysRelative named

variable {plan m}

theorem isAbsolute_base_usedLocator {process : Path} (hprocess : m.currentDirectory = .ok process)
    (hlocator : ∀ l, plan.locator = some l → l.base.isAbsolute = true) :
    (plan.usedLocator m).base.isAbsolute = true := by
  rw [usedLocator]
  cases hplanned : plan.locator with
  | some l => exact hlocator l hplanned
  | none =>
    rw [Option.getD_none, Locator.base_ofEnvironment hprocess]
    exact Machine.isAbsolute_of_currentDirectory hprocess

/-- Only a planned directory can be relative. -/
theorem StartsFrom.isAbsolute_eq_false_iff {directory : Path} (h : plan.StartsFrom m directory) :
    directory.isAbsolute = false ↔
      ∃ planned, plan.directory = some planned ∧ planned.isAbsolute = false := by
  cases h with
  | planned given => simp [given]
  | current unplanned there => simp [unplanned, Machine.isAbsolute_of_currentDirectory there]

/-- The two ways in which the path of a generator does not start at the root. -/
theorem LeadsTo.isAbsolute_iff_not_stays {directory named path : Path}
    (hbase : (plan.usedLocator m).base.isAbsolute = true) (hfrom : plan.StartsFrom m directory)
    (h : LeadsTo (plan.usedLocator m) m directory named path) :
    path.isAbsolute = true ↔ ¬plan.StaysRelative m named := by
  rw [h.isAbsolute_iff hbase, hfrom.isAbsolute_eq_false_iff, not_iff_not]
  constructor
  · rintro (⟨path, found, relative⟩ | ⟨name, directory, missing⟩)
    · exact .searched found relative
    · exact .below ⟨name, missing, directory⟩
  · rintro (⟨found, relative⟩ | ⟨name, missing, directory⟩)
    · exact .inl ⟨_, found, relative⟩
    · exact .inr ⟨name, directory, missing⟩

/-- Where the search looks in absolute directories only, a generator that it finds is not left
relative. -/
theorem staysRelative_iff_of_looksInAbsolute (h : (plan.usedLocator m).LooksInAbsolute m)
    {named : Path} : plan.StaysRelative m named ↔ plan.TakenRelative m named := by
  constructor
  · rintro (⟨-, relative⟩ | taken)
    · exact absurd relative h.not_findsRelative
    · exact taken
  · exact .below

/-- What is settled about the generator goes by the machine as it was at first: on the way there
only the log has grown. -/
theorem generator_of_prepare {p : Preparation} {m' : Machine}
    (h : m.perform plan.prepare = (.ok p, m')) :
    ∃ directory, plan.StartsFrom m directory ∧ plan.SettingsIn m directory p.settings ∧
      p.generator = chooseGenerator m (namedGenerator plan.generator m.environment p.settings)
        (plan.usedLocator m) directory := by
  obtain ⟨⟨directory, settings⟩, m₁, hsettle, h⟩ := Machine.perform_bind_ok h
  obtain ⟨_, _, hstart, hsettle⟩ := Machine.perform_bind_ok hsettle
  cases congrArg Prod.snd (hstart.symm.trans (perform_startDirectory plan m))
  obtain ⟨_, _, hchosen, hsettle⟩ := Machine.perform_bind_ok hsettle
  cases hsettle
  obtain ⟨r, es, hchoose, -, hsettings⟩ := plan.perform_chooseSettings m directory
  cases hchosen.symm.trans hchoose
  refine ⟨directory, startsFrom_iff.mpr (congrArg Prod.fst hstart), ?_⟩
  obtain ⟨_, _, hread, h⟩ := Machine.perform_bind_ok h
  cases hread
  obtain ⟨format, _, hformat, h⟩ := Machine.perform_bind_ok h
  cases congrArg Prod.snd (hformat.symm.trans (Machine.perform_liftExcept _ _))
  obtain ⟨_, _, hadmitted, h⟩ := Machine.perform_bind_ok h
  rw [perform_requireAdmitted] at hadmitted
  split at hadmitted
  · cases hadmitted
    obtain ⟨_, _, hread, h⟩ := Machine.perform_bind_ok h
    cases hread
    obtain ⟨backend, _, -, h⟩ := Machine.perform_bind_ok h
    cases h
    exact ⟨(hsettings settings).mp rfl, rfl⟩
  · cases hadmitted

/-- **Which generator a scenario runs.**  The generator of a scenario is what its name leads to,
by the plan, the environment and the settings.  Its path starts at the root unless it is found in
a relative directory of the search path, or the name is relative, is not found, and is taken from
a planned directory that is relative.  Only the latter can happen where the search looks in
absolute directories. -/
theorem start_generator {process : Path} {s : Scenario} {m' : Machine}
    (hprocess : m.currentDirectory = .ok process)
    (hlocator : ∀ l, plan.locator = some l → l.base.isAbsolute = true)
    (hstart : m.perform plan.start = (.ok s, m')) :
    ∃ directory settings named, plan.StartsFrom m directory ∧
      plan.SettingsIn m directory settings ∧
      NamesGenerator plan.generator m.environment settings named ∧
      LeadsTo (plan.usedLocator m) m directory named s.generator ∧
      (s.generator.isAbsolute = true ↔ ¬plan.StaysRelative m named) ∧
      ((plan.usedLocator m).LooksInAbsolute m →
        (s.generator.isAbsolute = true ↔ ¬plan.TakenRelative m named)) := by
  rw [start_eq_prepare_bind] at hstart
  obtain ⟨p, m₁, hprepare, hestablish⟩ := Machine.perform_bind_ok hstart
  obtain ⟨directory, hfrom, hsettings, hgenerator⟩ := generator_of_prepare hprepare
  have hnames := namesGenerator_iff.mpr
    (Eq.refl (namedGenerator plan.generator m.environment p.settings))
  have hleads := leadsTo_chooseGenerator (plan.usedLocator m) m directory
    (namedGenerator plan.generator m.environment p.settings)
  obtain ⟨_, rfl⟩ := eq_of_establish hestablish
  rw [← hgenerator] at hleads
  have hiff := hleads.isAbsolute_iff_not_stays
    (isAbsolute_base_usedLocator hprocess hlocator) hfrom
  refine ⟨directory, p.settings, _, hfrom, hsettings, hnames, hleads, hiff, fun habsolute => ?_⟩
  rw [hiff, staysRelative_iff_of_looksInAbsolute habsolute]

/-- A plan without a search that builds nothing, in the root. -/
theorem perform_start_toolless (directory : Path) :
    let plan : ScenarioPlan :=
      { format := some .gypd, generator := some ⟨"tools/gyp"⟩, workdir := some ⟨"/"⟩
        directory := some directory, settings := some {}, locator := some ⟨none, ⟨"/"⟩⟩ }
    let m : Machine := { files := .empty }
    ∃ s m', m.perform plan.start = (.ok s, m') ∧ s.generator = directory.join ⟨"tools/gyp"⟩ := by
  intro plan m
  have hgenerator : chooseGenerator m (namedGenerator plan.generator m.environment {})
      (plan.usedLocator m) directory = directory.join ⟨"tools/gyp"⟩ := by
    have hnamed : namedGenerator plan.generator m.environment {} = ⟨"tools/gyp"⟩ := rfl
    rw [hnamed, chooseGenerator, if_neg (by decide), if_neg (by decide)]
    rfl
  simp only [start, Machine.perform_bind, plan, perform_makeWorkdir_root]
  exact ⟨_, _, rfl, hgenerator⟩

/-- A generator of two parts, below an absolute directory. -/
theorem start_generator_of_absolute :
    let plan : ScenarioPlan :=
      { format := some .gypd, generator := some ⟨"tools/gyp"⟩, workdir := some ⟨"/"⟩
        directory := some ⟨"/src/project"⟩, settings := some {}, locator := some ⟨none, ⟨"/"⟩⟩ }
    let m : Machine := { files := .empty }
    ∃ s m', m.perform plan.start = (.ok s, m') ∧ s.generator = ⟨"/src/project/tools/gyp"⟩ ∧
      s.generator.isAbsolute = true ∧ ¬plan.StaysRelative m ⟨"tools/gyp"⟩ ∧
      ¬plan.TakenRelative m ⟨"tools/gyp"⟩ := by
  intro plan m
  obtain ⟨s, m', hstart, hgenerator⟩ := perform_start_toolless ⟨"/src/project"⟩
  have hprocess : m.currentDirectory = .ok ⟨"/"⟩ := rfl
  have hlocator : ∀ l, plan.locator = some l → l.base.isAbsolute = true := by
    rintro l ⟨⟩
    decide
  obtain ⟨directory, settings, named, -, -, hnames, -, hstays, htaken⟩ :=
    start_generator hprocess hlocator hstart
  cases namesGenerator_iff.mp hnames
  have hjoin : (Path.mk "/src/project").join ⟨"tools/gyp"⟩ = ⟨"/src/project/tools/gyp"⟩ := by
    decide
  have habsolute : s.generator.isAbsolute = true := by
    rw [hgenerator, hjoin]
    decide
  have hlooks : (plan.usedLocator m).LooksInAbsolute m :=
    Locator.looksInAbsolute_of_fromBase rfl (by decide)
  exact ⟨s, m', hstart, hgenerator.trans hjoin, habsolute, hstays.mp habsolute,
    (htaken hlooks).mp habsolute⟩

/-- **A relative directory is taken as it stands.**  Not every generator has an absolute path: one
of two parts that is taken from `proj` has `proj/tools/gyp`. -/
theorem not_forall_generator_isAbsolute :
    ¬ ∀ (plan : ScenarioPlan) (m m' : Machine) (s : Scenario) (process : Path),
        m.currentDirectory = .ok process →
        (∀ l, plan.locator = some l → l.base.isAbsolute = true) →
        m.perform plan.start = (.ok s, m') → s.generator.isAbsolute = true := by
  intro h
  obtain ⟨s, m', hstart, hgenerator⟩ := perform_start_toolless ⟨"proj"⟩
  have hlocator (l : Locator) (hl : some (Locator.mk none ⟨"/"⟩) = some l) :
      l.base.isAbsolute = true := by
    cases hl
    decide
  have habsolute := h _ { files := .empty } m' s ⟨"/"⟩ rfl hlocator hstart
  rw [hgenerator] at habsolute
  exact absurd habsolute (by decide)

end ScenarioPlan

end CrossBuild
