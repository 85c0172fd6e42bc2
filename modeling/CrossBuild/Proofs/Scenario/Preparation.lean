import CrossBuild.Proofs.Backend.Selection
import CrossBuild.Proofs.Settings.Layers
import CrossBuild.Scenario

/-!
# What keeps a scenario from starting

Before a scenario has a working directory, everything else about it is settled:
its settings, its format, whether it applies to that format, and its build tool
(`ScenarioPlan.prepare`).  Any of the four can be an obstacle.
`ScenarioPlan.Obstacle` tells which error each of them is, and its cases stand
in the order in which they count: every case but the first requires what
the cases before it would spoil, and none asks for anything that comes later.

Until all is settled, nothing but the log changes.
-/
namespace CrossBuild

/-! ## 1. Formats by name -/

/-- The text that names the format of a scenario without a planned one: that of the
variable, and where there is none or an empty one, that of the settings. -/
inductive NamesFormat (env : Environment) (settings : Settings) (name : String) : Prop where
  | variable (given : env.get? Settings.formatVariable = some name) (nonempty : name ≠ "")
  | settings (unset : env.get? Settings.formatVariable = none ∨
      env.get? Settings.formatVariable = some "") (given : settings.format = some name)

theorem Environment.nonempty?_eq_some_iff {env : Environment} {key value : String} :
    env.nonempty? key = some value ↔ env.get? key = some value ∧ value ≠ "" := by
  simp [nonempty?, Option.filter_eq_some_iff]

theorem Environment.nonempty?_eq_none_iff {env : Environment} {key : String} :
    env.nonempty? key = none ↔ env.get? key = none ∨ env.get? key = some "" := by
  rw [nonempty?]
  cases env.get? key with
  | none => simp
  | some value => simp [Option.filter_some]

theorem namesFormat_iff {env : Environment} {settings : Settings} {name : String} :
    NamesFormat env settings name ↔
      (env.nonempty? Settings.formatVariable <|> settings.format) = some name := by
  cases henv : env.nonempty? Settings.formatVariable with
  | some value =>
    obtain ⟨hget, hne⟩ := Environment.nonempty?_eq_some_iff.mp henv
    constructor
    · rintro (⟨h, -⟩ | ⟨h | h, -⟩) <;> simp_all
    · rintro h
      cases h
      exact .variable hget hne
  | none =>
    have hunset := Environment.nonempty?_eq_none_iff.mp henv
    constructor
    · rintro (⟨h, hne⟩ | ⟨-, h⟩)
      · simp_all
      · exact h
    · exact .settings hunset

namespace ScenarioPlan

/-- A plan has a format, or the text that names it does. -/
inductive HasFormat (planned : Option Format) (env : Environment) (settings : Settings)
    (format : Format) : Prop where
  | planned (given : planned = some format)
  | named (unplanned : planned = none) {name : String} (first : NamesFormat env settings name)
    (parsed : Format.parse? name = some format)

/-- A plan has no format, because nothing names one or because the first text that should
does not. -/
inductive LacksFormat (planned : Option Format) (env : Environment) (settings : Settings) :
    VerifyError → Prop where
  | none (unplanned : planned = none) (unnamed : ∀ name, ¬NamesFormat env settings name) :
    LacksFormat planned env settings .noFormat
  | unknown (unplanned : planned = none) {name : String}
    (first : NamesFormat env settings name) (unparsed : Format.parse? name = none) :
    LacksFormat planned env settings (.unknownFormat name)

variable {planned : Option Format} {env : Environment} {settings : Settings}

theorem chooseFormat_eq_ok_iff {format : Format} :
    chooseFormat planned env settings = .ok format ↔ HasFormat planned env settings format := by
  cases planned with
  | some planned =>
    constructor
    · intro h
      cases h
      exact .planned rfl
    · rintro (h | h)
      · cases h
        rfl
      · cases h
  | none =>
    simp only [chooseFormat]
    constructor
    · intro h
      split at h
      · cases h
      · rename_i name hname
        split at h
        · rename_i hparse
          cases h
          exact .named rfl (namesFormat_iff.mpr hname) hparse
        · cases h
    · rintro (h | ⟨-, hname, hparse⟩)
      · cases h
      · simp only [namesFormat_iff.mp hname, hparse]

theorem chooseFormat_eq_error_iff {e : VerifyError} :
    chooseFormat planned env settings = .error e ↔ LacksFormat planned env settings e := by
  cases planned with
  | some planned =>
    constructor
    · intro h
      cases h
    · rintro (⟨h, -⟩ | ⟨h, -, -⟩) <;> cases h
  | none =>
    simp only [chooseFormat]
    constructor
    · intro h
      split at h
      · rename_i hnone
        cases h
        refine .none rfl fun name hname => ?_
        rw [namesFormat_iff, hnone] at hname
        cases hname
      · rename_i name hname
        split at h
        · cases h
        · rename_i hparse
          cases h
          exact .unknown rfl (namesFormat_iff.mpr hname) hparse
    · rintro (⟨-, hunnamed⟩ | ⟨-, hname, hparse⟩)
      · have hnone : (env.nonempty? Settings.formatVariable <|> settings.format) = none :=
          Option.eq_none_iff_forall_ne_some.mpr fun name hname =>
            hunnamed name (namesFormat_iff.mpr hname)
        simp only [hnone]
      · simp only [namesFormat_iff.mp hname, hparse]

/-! ## 2. Settings -/

variable (plan : ScenarioPlan) (m : Machine)

/-- The directory that a plan's relative paths start from: the planned one, else the
current one. -/
inductive StartsFrom (directory : Path) : Prop where
  | planned (given : plan.directory = some directory)
  | current (unplanned : plan.directory = none) (there : m.currentDirectory = .ok directory)

/-- The settings of a plan that starts from a directory: the planned ones, else those that
hold in a project there. -/
inductive SettingsIn (directory : Path) (settings : Settings) : Prop where
  | planned (given : plan.settings = some settings)
  | discovered (unplanned : plan.settings = none)
    (sound : ¬(Settings.fileState m (Settings.projectPath directory)).Faulty)
    (layers : Settings.Layered m.environment
      (Settings.fileState m (Settings.projectPath directory)).settings
      (Settings.globalState m (some (Settings.globalPath m))).settings settings)

/-- Why a plan that starts from a directory has no settings: the project's file is faulty. -/
inductive FaultIn (directory : Path) : VerifyError → Prop where
  | unreadable (unplanned : plan.settings = none) {cause : FileError}
    (file : Settings.fileState m (Settings.projectPath directory) = .unreadable cause) :
    FaultIn directory (.io cause)
  | broken (unplanned : plan.settings = none) {text : String} {fault : Settings.ReadFault}
    (file : Settings.fileState m (Settings.projectPath directory) = .broken text fault) :
    FaultIn directory (.config (Settings.projectPath directory) fault.fault)

/-- A plan has settings. -/
def HasSettings (settings : Settings) : Prop :=
  ∃ directory, plan.StartsFrom m directory ∧ plan.SettingsIn m directory settings

/-- A plan has no settings: the current directory, which it starts from, is gone, or there is
a fault in the one it starts from. -/
inductive LacksSettings : VerifyError → Prop where
  | directory (unplanned : plan.directory = none) {cause : FileError}
    (gone : m.currentDirectory = .error cause) : LacksSettings (.io cause)
  | file {directory : Path} {e : VerifyError} (start : plan.StartsFrom m directory)
    (fault : plan.FaultIn m directory e) : LacksSettings e

/-! ## 3. The obstacles in their order -/

/-- The search for Visual Studio that a plan leads to. -/
def search (settings : Settings) : VisualStudio.Discovery :=
  Backend.discovery (plan.locator.getD (.ofEnvironment m)) settings

/-- No driver of Visual Studio is found: the release asked for is not installed or none is,
no driver is configured or on the search path, and no known release is installed. -/
def LacksTool (settings : Settings) : Prop :=
  let d := plan.search m settings
  (¬∃ r, d.Requests r ∧ d.Installed m r) ∧ (¬∃ path, d.Generic m path) ∧
    ∀ r ∈ VisualStudio.Release.known, ¬d.Installed m r

/-- What keeps a scenario from starting, with the error that it is. -/
inductive Obstacle : VerifyError → Prop where
  /-- There are no settings. -/
  | settings {e : VerifyError} (fault : plan.LacksSettings m e) : Obstacle e
  /-- There is no format. -/
  | format {s : Settings} {e : VerifyError} (settled : plan.HasSettings m s)
    (fault : LacksFormat plan.format m.environment s e) : Obstacle e
  /-- The scenario does not apply to its format. -/
  | filter {s : Settings} {f : Format} (settled : plan.HasSettings m s)
    (chosen : HasFormat plan.format m.environment s f)
    (rejected : (FormatFilter.ofEntries plan.formats).admits f = false) : Obstacle (.skipped f)
  /-- There is no Visual Studio; every other build tool has a name to fall back to. -/
  | tool {s : Settings} (settled : plan.HasSettings m s)
    (chosen : HasFormat plan.format m.environment s .msvs)
    (admitted : (FormatFilter.ofEntries plan.formats).admits .msvs = true)
    (missing : plan.LacksTool m s) :
    Obstacle (.toolNotFound .msvs "devenv.com" (plan.search m s).searched)

/-! ## 4. Preparation -/

/-- What is settled about a scenario before anything is changed for it. -/
structure Preparation where
  /-- The settings. -/
  settings : Settings
  /-- The format. -/
  format : Format
  /-- The generator. -/
  generator : Path
  /-- What builds. -/
  backend : Backend

/-- The directory that a plan starts from, and its settings. -/
def settle (plan : ScenarioPlan) : Verify (Path × Settings) := do
  let directory ← plan.startDirectory
  let settings ← plan.chooseSettings directory
  return (directory, settings)

/-- Settles everything but the working directory. -/
def prepare (plan : ScenarioPlan) : Verify Preparation := do
  let (directory, settings) ← plan.settle
  let env := (← getThe Machine).environment
  let format ← chooseFormat plan.format env settings
  requireAdmitted plan.formats format
  let m ← getThe Machine
  let locator := plan.locator.getD (.ofEnvironment m)
  let generator := chooseGenerator m (namedGenerator plan.generator env settings) locator directory
  let backend ← Backend.select format locator settings
  return { settings, format, generator, backend }

/-- Makes the working directory of a prepared scenario, and stages its fixture. -/
def establish (plan : ScenarioPlan) (p : Preparation) : Verify Scenario := do
  let workdir ← makeWorkdir plan.workdir
  log (.workingIn workdir.path)
  stageFixture plan.fixture workdir
  return { format := p.format, generator := p.generator, backend := p.backend, workdir
           configuration := .ofName? p.settings.configuration
           affixes := plan.affixes }

/-- A scenario is prepared, and then established. -/
theorem start_eq_prepare_bind : plan.start = plan.prepare >>= plan.establish := by
  simp only [start, prepare, settle, establish, bind_assoc, pure_bind]

theorem perform_startDirectory :
    m.perform plan.startDirectory =
      (match plan.directory with
        | some directory => .ok directory
        | none => m.currentDirectory.mapError .io, m) := by
  simp only [startDirectory, Machine.perform_bind, Machine.perform_get]
  cases plan.directory with
  | some directory => rfl
  | none =>
    simp only
    cases m.currentDirectory <;> rfl

variable {plan m}

theorem startsFrom_iff {directory : Path} :
    plan.StartsFrom m directory ↔ (m.perform plan.startDirectory).1 = .ok directory := by
  rw [perform_startDirectory]
  constructor
  · rintro (h | ⟨h, hcurrent⟩)
    · rw [h]
    · simp only [h, hcurrent]
      rfl
  · intro h
    cases hd : plan.directory with
    | some planned =>
      simp only [hd] at h
      cases h
      exact .planned hd
    | none =>
      cases hc : m.currentDirectory with
      | ok current =>
        simp only [hd, hc] at h
        cases h
        exact .current hd hc
      | error cause =>
        simp only [hd, hc] at h
        cases h

theorem startDirectory_eq_error_iff {e : VerifyError} :
    (m.perform plan.startDirectory).1 = .error e ↔
      plan.directory = none ∧ ∃ cause, m.currentDirectory = .error cause ∧ e = .io cause := by
  rw [perform_startDirectory]
  cases plan.directory with
  | some directory => simp
  | none =>
    cases m.currentDirectory with
    | ok directory =>
      constructor
      · rintro ⟨⟩
      · rintro ⟨-, _, ⟨⟩, -⟩
    | error cause =>
      constructor
      · rintro ⟨⟩
        exact ⟨rfl, cause, rfl, rfl⟩
      · rintro ⟨-, _, ⟨⟩, rfl⟩
        rfl

theorem StartsFrom.unique {directory other : Path} (h : plan.StartsFrom m directory)
    (h' : plan.StartsFrom m other) : other = directory := by
  cases (startsFrom_iff.mp h').symm.trans (startsFrom_iff.mp h)
  rfl

theorem StartsFrom.hasSettings_iff {directory : Path} (h : plan.StartsFrom m directory)
    {s : Settings} : plan.HasSettings m s ↔ plan.SettingsIn m directory s := by
  constructor
  · rintro ⟨other, h', hs⟩
    exact h.unique h' ▸ hs
  · exact fun hs => ⟨directory, h, hs⟩

theorem StartsFrom.lacksSettings_iff {directory : Path} (h : plan.StartsFrom m directory)
    {e : VerifyError} : plan.LacksSettings m e ↔ plan.FaultIn m directory e := by
  constructor
  · rintro (⟨hunplanned, hgone⟩ | ⟨h', hfault⟩)
    · cases (startDirectory_eq_error_iff.mpr ⟨hunplanned, _, hgone, rfl⟩).symm.trans
        (startsFrom_iff.mp h)
    · exact h.unique h' ▸ hfault
  · exact .file h

/-- In a directory a plan has settings, or there is a fault, and only the log tells that
they were looked for. -/
theorem perform_chooseSettings (plan : ScenarioPlan) (m : Machine) (directory : Path) :
    ∃ r es, m.perform (plan.chooseSettings directory) = (r, m.logged es) ∧
      (∀ e, r = .error e ↔ plan.FaultIn m directory e) ∧
      ∀ s, r = .ok s ↔ plan.SettingsIn m directory s := by
  rw [chooseSettings]
  cases hs : plan.settings with
  | some settings =>
    refine ⟨.ok settings, [], by rw [Machine.perform_pure, Machine.logged_nil], fun e => ?_,
      fun s => ?_⟩
    · constructor
      · intro h
        cases h
      · rintro (⟨h, -⟩ | ⟨h, -⟩) <;> simp [hs] at h
    · constructor
      · intro h
        cases h
        exact .planned hs
      · rintro (h | ⟨h, -, -⟩)
        · exact congrArg Except.ok (Option.some.inj (hs.symm.trans h))
        · simp [hs] at h
  | none =>
    have hdiscover : m.perform (Settings.discover directory) =
        m.perform (Settings.discoverWith (some (Settings.globalPath m)) directory) := by
      rw [Settings.discover, Machine.perform_bind, Machine.perform_get]
    have hd := Settings.discovers_discoverWith m (some (Settings.globalPath m)) directory
    rw [Settings.perform_discoverWith] at hd hdiscover
    refine ⟨_, _, hdiscover, fun e => ?_, fun s => ?_⟩
    · constructor
      · intro h
        cases hfile : Settings.fileState m (Settings.projectPath directory) with
        | absent | wellFormed _ => simp [hfile, Settings.FileState.error?] at h
        | unreadable cause =>
          cases (hd.unreadable cause hfile).symm.trans h
          exact .unreadable hs hfile
        | broken text fault =>
          cases (hd.broken text fault hfile).symm.trans h
          exact .broken hs hfile
      · rintro (⟨-, hfile⟩ | ⟨-, hfile⟩)
        · exact hd.unreadable _ hfile
        · exact hd.broken _ _ hfile
    · refine (hd.layered s).trans ⟨fun h => .discovered hs h.1 h.2, ?_⟩
      rintro (h | ⟨-, hsound, hlayers⟩)
      · simp [hs] at h
      · exact ⟨hsound, hlayers⟩

/-- A plan has settings or lacks them, and only the log tells that they were looked for. -/
theorem perform_settle (plan : ScenarioPlan) (m : Machine) :
    ∃ r es, m.perform plan.settle = (r, m.logged es) ∧
      (∀ e, r = .error e ↔ plan.LacksSettings m e) ∧
      ∀ s, (∃ directory, r = .ok (directory, s)) ↔ plan.HasSettings m s := by
  rcases hstart : m.perform plan.startDirectory with ⟨start, m'⟩
  have hresult : (m.perform plan.startDirectory).1 = start := congrArg Prod.fst hstart
  cases congrArg Prod.snd (hstart.symm.trans (perform_startDirectory plan m))
  rw [settle, Machine.perform_bind, hstart]
  cases start with
  | error e =>
    obtain ⟨hunplanned, cause, hgone, rfl⟩ := startDirectory_eq_error_iff.mp hresult
    have hnowhere (directory : Path) : ¬plan.StartsFrom m directory := by
      rw [startsFrom_iff, hresult]
      intro h
      cases h
    refine ⟨.error (.io cause), [], by rw [Machine.logged_nil], fun e => ?_, fun s => ?_⟩
    · constructor
      · intro h
        cases h
        exact .directory hunplanned hgone
      · rintro (⟨-, hgone'⟩ | ⟨hfrom, -⟩)
        · cases hgone.symm.trans hgone'
          rfl
        · exact absurd hfrom (hnowhere _)
    · constructor
      · rintro ⟨directory, h⟩
        cases h
      · rintro ⟨directory, hfrom, -⟩
        exact absurd hfrom (hnowhere directory)
  | ok directory =>
    have hfrom : plan.StartsFrom m directory := startsFrom_iff.mpr hresult
    obtain ⟨r, es, hchoose, herror, hok⟩ := plan.perform_chooseSettings m directory
    simp only [Machine.perform_bind, hchoose, hfrom.hasSettings_iff, hfrom.lacksSettings_iff,
      ← herror, ← hok]
    cases r with
    | error e => exact ⟨.error e, es, rfl, by simp, by simp⟩
    | ok settings => exact ⟨.ok (directory, settings), es, rfl, by simp, by simp⟩

/-! ## 5. The outcome of a preparation -/

theorem lacksTool_iff {settings : Settings} :
    plan.LacksTool m settings ↔
      ((plan.search m settings).outcome m).1.resolution = .notFound :=
  (VisualStudio.Discovery.chosen_outcome (plan.search m settings) m).finds.notFound.symm

/-- What a preparation settles is as the plan and the machine have it. -/
structure Preparation.Fits (p : Preparation) (plan : ScenarioPlan) (m : Machine) : Prop where
  settings : plan.HasSettings m p.settings
  format : HasFormat plan.format m.environment p.settings p.format
  admitted : (FormatFilter.ofEntries plan.formats).admits p.format = true
  backend : p.backend.format = p.format
  tool : p.format = .msvs → ¬plan.LacksTool m p.settings

theorem HasSettings.unique {s t : Settings} (h : plan.HasSettings m s)
    (h' : plan.HasSettings m t) : t = s := by
  obtain ⟨r, -, -, -, hhas⟩ := plan.perform_settle m
  obtain ⟨_, hs⟩ := (hhas s).mpr h
  obtain ⟨_, ht⟩ := (hhas t).mpr h'
  cases hs.symm.trans ht
  rfl

theorem HasSettings.not_lacks {s : Settings} (h : plan.HasSettings m s) (e : VerifyError) :
    ¬plan.LacksSettings m e := by
  obtain ⟨r, -, -, hlacks, hhas⟩ := plan.perform_settle m
  obtain ⟨_, hs⟩ := (hhas s).mpr h
  rw [← hlacks, hs]
  rintro ⟨⟩

/-- Obstacles to a plan with settings are those on the way from its format to its tool. -/
theorem HasSettings.obstacle_iff {s : Settings} (h : plan.HasSettings m s) {e : VerifyError} :
    plan.Obstacle m e ↔ LacksFormat plan.format m.environment s e ∨
      ∃ f, HasFormat plan.format m.environment s f ∧
        match (FormatFilter.ofEntries plan.formats).admits f with
        | false => e = .skipped f
        | true => f = .msvs ∧ plan.LacksTool m s ∧
          e = .toolNotFound .msvs "devenv.com" (plan.search m s).searched := by
  constructor
  · rintro (hfault | ⟨hs, hfault⟩ | ⟨hs, hf, hrejected⟩ | ⟨hs, hf, hadmitted, hmissing⟩)
    · exact absurd hfault (h.not_lacks e)
    · exact .inl (h.unique hs ▸ hfault)
    · cases h.unique hs
      exact .inr ⟨_, hf, by rw [hrejected]⟩
    · cases h.unique hs
      exact .inr ⟨_, hf, by rw [hadmitted]; exact ⟨rfl, hmissing, rfl⟩⟩
  · rintro (hfault | ⟨f, hf, hlater⟩)
    · exact .format h hfault
    · split at hlater
      · rename_i hrejected
        exact hlater ▸ .filter h hf hrejected
      · rename_i hadmitted
        obtain ⟨rfl, hmissing, rfl⟩ := hlater
        exact .tool h hf hadmitted hmissing

theorem HasFormat.unique {s : Settings} {f g : Format}
    (h : HasFormat plan.format m.environment s f)
    (h' : HasFormat plan.format m.environment s g) : g = f := by
  cases (chooseFormat_eq_ok_iff.mpr h).symm.trans (chooseFormat_eq_ok_iff.mpr h')
  rfl

theorem perform_requireAdmitted (formats : List String) (f : Format) (m : Machine) :
    m.perform (requireAdmitted formats f) =
      match (FormatFilter.ofEntries formats).admits f with
      | true => (.ok (), m)
      | false => (.error (.skipped f), m.logged [.skipping f]) := by
  rw [requireAdmitted]
  cases (FormatFilter.ofEntries formats).admits f <;> rfl

/-- A preparation fails exactly if there is an obstacle, with the error that it is; and
whatever comes of it, nothing changes but the log. -/
theorem perform_prepare (plan : ScenarioPlan) (m : Machine) :
    ∃ r es, m.perform plan.prepare = (r, m.logged es) ∧
      (∀ e, r = .error e ↔ plan.Obstacle m e) ∧ ∀ p, r = .ok p → p.Fits plan m := by
  obtain ⟨settled, es, hsettle, hlacks, hhas⟩ := plan.perform_settle m
  rw [prepare, Machine.perform_bind, hsettle]
  cases settled with
  | error e₀ =>
    have hfault : plan.LacksSettings m e₀ := (hlacks e₀).mp rfl
    refine ⟨.error e₀, es, rfl, fun e => ⟨fun h => ?_, ?_⟩, fun p h => by cases h⟩
    · cases h
      exact .settings hfault
    · rintro (h | ⟨hs, -⟩ | ⟨hs, -, -⟩ | ⟨hs, -, -, -⟩)
      · cases (hlacks _).mpr h
        rfl
      all_goals exact absurd hfault (hs.not_lacks e₀)
  | ok x =>
    obtain ⟨directory, s⟩ := x
    have hs : plan.HasSettings m s := (hhas s).mp ⟨directory, rfl⟩
    have henv : (m.logged es).environment = m.environment := rfl
    simp only [Machine.perform_bind, Machine.perform_get, Machine.perform_liftExcept,
      perform_requireAdmitted, henv, hs.obstacle_iff, ← chooseFormat_eq_error_iff,
      ← chooseFormat_eq_ok_iff, lacksTool_iff]
    cases hformat : chooseFormat plan.format m.environment s with
    | error e₀ => exact ⟨.error e₀, es, rfl, by simp, by simp⟩
    | ok f =>
      have hf : HasFormat plan.format m.environment s f := chooseFormat_eq_ok_iff.mp hformat
      simp only
      cases hadmits : (FormatFilter.ofEntries plan.formats).admits f with
      | false =>
        refine ⟨.error (.skipped f), es ++ [.skipping f], ?_, ?_, by simp⟩
        · rw [← m.logged_logged]
        · simp [hadmits, eq_comm]
      | true =>
        let locator := plan.locator.getD (.ofEnvironment m)
        have hlocator : Locator.ofEnvironment (m.logged es) = Locator.ofEnvironment m := rfl
        obtain ⟨es', hselect⟩ := Backend.perform_select f locator s (m.logged es)
        have hselects := Backend.selects_selected f locator s m
        have hmissing (e : VerifyError) : Backend.selected f locator s m = .error e ↔ f = .msvs ∧
            ((plan.search m s).outcome m).1.resolution = .notFound ∧
            e = .toolNotFound .msvs "devenv.com" (plan.search m s).searched :=
          hselects.error_iff e
        rw [Backend.selected_logged] at hselect
        simp only [hlocator, hselect, locator, Machine.logged_logged]
        cases hselected : Backend.selected f locator s m with
        | error e₀ =>
          refine ⟨.error e₀, _, rfl, fun e => ?_, by simp⟩
          simpa [hadmits, hselected] using hmissing e
        | ok b =>
          refine ⟨.ok _, _, rfl, fun e => ?_, fun p h => ?_⟩
          · simpa [hadmits, hselected] using hmissing e
          · cases h
            refine ⟨hs, hf, hadmits, hselects.format_eq b hselected, fun hmsvs hlacks => ?_⟩
            cases hselected.symm.trans ((hmissing _).mpr ⟨hmsvs, lacksTool_iff.mp hlacks, rfl⟩)

/-! ## 6. What a scenario needs -/

/-- A scenario is what was settled for it, in some working directory. -/
theorem eq_of_establish {plan : ScenarioPlan} {p : Preparation} {s : Scenario} {m m' : Machine}
    (h : m.perform (plan.establish p) = (.ok s, m')) :
    ∃ workdir, s = { format := p.format, generator := p.generator, backend := p.backend, workdir
                     configuration := .ofName? p.settings.configuration
                     affixes := plan.affixes } := by
  obtain ⟨workdir, _, -, h⟩ := Machine.perform_bind_ok h
  obtain ⟨_, _, -, h⟩ := Machine.perform_bind_ok h
  obtain ⟨_, _, -, h⟩ := Machine.perform_bind_ok h
  cases h
  exact ⟨workdir, rfl⟩

theorem format_of_establish {plan : ScenarioPlan} {p : Preparation} {s : Scenario}
    {m m' : Machine} (h : m.perform (plan.establish p) = (.ok s, m')) : s.format = p.format := by
  obtain ⟨_, rfl⟩ := eq_of_establish h
  rfl

/-- An obstacle ends the start with its error, and only the log tells of it. -/
theorem perform_start_of_obstacle {plan : ScenarioPlan} {m : Machine} {e : VerifyError}
    (h : plan.Obstacle m e) : ∃ es, m.perform plan.start = (.error e, m.logged es) := by
  obtain ⟨r, es, hprepare, herror, -⟩ := plan.perform_prepare m
  cases (herror e).mpr h
  exact ⟨es, by rw [start_eq_prepare_bind, Machine.perform_bind, hprepare]⟩

/-- A scenario that was set up has the format of its plan and its settings. -/
theorem hasFormat_of_start {plan : ScenarioPlan} {m m' : Machine} {s : Scenario}
    (h : m.perform plan.start = (.ok s, m')) :
    ∃ settings, plan.HasSettings m settings ∧
      HasFormat plan.format m.environment settings s.format := by
  rw [start_eq_prepare_bind] at h
  obtain ⟨p, m₁, hprepare, h⟩ := Machine.perform_bind_ok h
  obtain ⟨r, es, hlogged, -, hfits⟩ := plan.perform_prepare m
  cases hprepare.symm.trans hlogged
  refine ⟨p.settings, (hfits p rfl).settings, ?_⟩
  rw [format_of_establish h]
  exact (hfits p rfl).format

/-- A plan whose format comes from elsewhere starts as if it were planned. -/
theorem perform_start_of_hasFormat {plan : ScenarioPlan} {m : Machine} {f : Format}
    (h : ∀ s, plan.HasSettings m s → HasFormat plan.format m.environment s f) :
    m.perform plan.start = m.perform (start { plan with format := some f }) := by
  have hprepare : m.perform plan.prepare = m.perform (prepare { plan with format := some f }) := by
    obtain ⟨settled, es, hsettle, -, hhas⟩ := plan.perform_settle m
    have hsettle' : m.perform (settle { plan with format := some f }) = _ := hsettle
    rw [prepare, prepare, Machine.perform_bind, Machine.perform_bind, hsettle, hsettle']
    -- Both plans are settled alike, and what follows asks for the format alone.
    cases settled with
    | error e => rfl
    | ok x =>
      obtain ⟨directory, s⟩ := x
      have hformat := chooseFormat_eq_ok_iff.mpr (h s ((hhas s).mp ⟨directory, rfl⟩))
      have henv : (m.logged es).environment = m.environment := rfl
      simp only [Machine.perform_bind, Machine.perform_get, Machine.perform_liftExcept, henv,
        hformat]
      rfl
  rw [start_eq_prepare_bind, start_eq_prepare_bind, Machine.perform_bind, Machine.perform_bind,
    hprepare]
  rfl

/-- **What keeps a scenario from starting.**  An obstacle ends the start with its error, and
everything but the log is as it was: nothing is made and nothing staged.  Without
one, the working directory is made for what the plan and the machine settle, and
a scenario that comes of it has the format that was settled. -/
theorem start_obstacle (plan : ScenarioPlan) (m : Machine) :
    (∀ e, plan.Obstacle m e → ∃ es, m.perform plan.start = (.error e, m.logged es) ∧
      (m.logged es).files = m.files) ∧
    ((¬∃ e, plan.Obstacle m e) → ∃ p es, p.Fits plan m ∧
      m.perform plan.start = (m.logged es).perform (plan.establish p) ∧
      ∀ s m', m.perform plan.start = (.ok s, m') → s.format = p.format) := by
  constructor
  · intro e he
    obtain ⟨es, hstart⟩ := perform_start_of_obstacle he
    exact ⟨es, hstart, rfl⟩
  · intro hclear
    obtain ⟨r, es, hprepare, herror, hok⟩ := plan.perform_prepare m
    have hstart : m.perform plan.start = m.perform (plan.prepare >>= plan.establish) := by
      rw [start_eq_prepare_bind]
    rw [Machine.perform_bind, hprepare] at hstart
    cases r with
    | error e => exact absurd ⟨e, (herror e).mp rfl⟩ hclear
    | ok p =>
      exact ⟨p, es, hok p rfl, hstart, fun s m' h => format_of_establish (hstart.symm.trans h)⟩

/-- A scenario that does not apply to its format is skipped, though its working directory and
its fixture are not there and neither is its tool. -/
theorem start_obstacle_of_filter :
    let plan : ScenarioPlan :=
      { format := some .msvs, formats := ["!msvs"], directory := some ⟨"/"⟩
        workdir := some ⟨"/new"⟩, fixture := some ⟨"/fixture"⟩, settings := some {} }
    let m : Machine := { files := .empty }
    plan.Obstacle m (.skipped .msvs) ∧
      ∃ es, m.perform plan.start = (.error (.skipped .msvs), m.logged es) ∧
        (m.logged es).files = m.files := by
  intro plan m
  have h : plan.Obstacle m (.skipped .msvs) :=
    .filter ⟨⟨"/"⟩, .planned rfl, .planned rfl⟩ (.planned rfl) (by decide)
  exact ⟨h, (start_obstacle plan m).1 _ h⟩

end ScenarioPlan

end CrossBuild
