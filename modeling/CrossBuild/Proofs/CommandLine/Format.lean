import CrossBuild.CommandLine.Run
import CrossBuild.Proofs.Files.Way
import CrossBuild.Proofs.Scenario.Preparation

/-!
# The format that a command line runs

The format of a scenario comes from the first of four sources that has a text
for it: the option, the environment, the settings of the project and the global
ones (`CommandLine.formatText?`).  The environment is read twice, by the reader
of arguments and by the settings, and only the latter take an empty text for
none.  So the four sources count in their order unless there is no option and the
variable is empty, which then counts as a text like any other.

Whatever the source, the program runs as if its format had been given by the
option (`CommandLine.Runs`).
-/
namespace CrossBuild

namespace CommandLine

/-! ## 1. The option -/

/-- The parts of what succeeds succeed. -/
theorem bind_eq_ok_iff {ε α β : Type} {r : Except ε α} {f : α → Except ε β} {b : β} :
    r >>= f = .ok b ↔ ∃ a, r = .ok a ∧ f a = .ok b := by
  constructor
  · intro h
    cases r with
    | error e => cases h
    | ok a => exact ⟨a, rfl, h⟩
  · rintro ⟨a, rfl, h⟩
    exact h

/-- Arguments are read as a task, with what is given before its name and after it. -/
inductive Reads (arguments : List String) : Given → Given → Task → Prop where
  | task {r settled : Reading} {command : String} {rest : List String} {g : Grammar}
    {after : Given} {task : Task}
    (split : Reading.takeAll rootGrammar {} arguments = .ok (r, some (command, rest)))
    (noHelp : command ≠ helpCommand) (grammar : grammar? command = some g)
    (given : Reading.readAll g rest = .ok after) (before : r.settle = .ok settled)
    (named : taskOf? command after = some task) : Reads arguments settled.given after task

/-- The environment has no part in what is read but for the format. -/
theorem parse_eq_ok_iff {env : Environment} {arguments : List String} {c : CommandLine} :
    parse env arguments = .ok c ↔
      ∃ before after task, Reads arguments before after task ∧
        c = ofGiven env before after task := by
  rw [parse]
  constructor
  · intro h
    obtain ⟨⟨r, next⟩, hsplit, h⟩ := bind_eq_ok_iff.mp h
    cases next with
    | none =>
      obtain ⟨settled, -, h⟩ := bind_eq_ok_iff.mp h
      cases h
    | some next =>
      obtain ⟨command, rest⟩ := next
      simp only at h
      split at h
      · cases h
      rename_i hhelp
      split at h
      · cases h
      rename_i g hgrammar
      obtain ⟨after, hgiven, h⟩ := bind_eq_ok_iff.mp h
      obtain ⟨settled, hbefore, h⟩ := bind_eq_ok_iff.mp h
      split at h
      · cases h
      rename_i task hnamed
      cases h
      exact ⟨_, _, _, .task hsplit hhelp hgrammar hgiven hbefore hnamed, rfl⟩
  · rintro ⟨_, _, _, ⟨hsplit, hhelp, hgrammar, hgiven, hbefore, hnamed⟩, rfl⟩
    refine bind_eq_ok_iff.mpr ⟨_, hsplit, ?_⟩
    simp only [if_neg hhelp, hgrammar]
    refine bind_eq_ok_iff.mpr ⟨_, hgiven, bind_eq_ok_iff.mpr ⟨_, hbefore, ?_⟩⟩
    rw [hnamed]
    rfl

/-- The value of the format option among some arguments, which no variable stands in for. -/
def flag? (arguments : List String) : Option String :=
  match parse [] arguments with
  | .ok c => c.format
  | .error _ => none

/-- The variable stands in for the option. -/
theorem format_of_parse {env : Environment} {arguments : List String} {c : CommandLine}
    (h : parse env arguments = .ok c) :
    c.format = (flag? arguments <|> env.get? Settings.formatVariable) := by
  obtain ⟨before, after, task, hreads, rfl⟩ := parse_eq_ok_iff.mp h
  rw [flag?, parse_eq_ok_iff.mpr ⟨before, after, task, hreads, rfl⟩]
  simp only [ofGiven]
  cases after.value? "format" <;> cases before.value? "format" <;> rfl

end CommandLine

/-! ## 2. Texts that name formats -/

namespace CommandLine

/-- What comes of a text that should name a format: the format, or an error. -/
inductive Settles (text? : Option String) : Except VerifyError Format → Prop where
  /-- The text is the name of a format, but for case and blanks around it. -/
  | named {text : String} {f : Format} (given : text? = some text)
    (names : Format.normalized text = f.name) : Settles text? (.ok f)
  /-- There is no text. -/
  | absent (missing : text? = none) : Settles text? (.error .noFormat)
  /-- The text is the name of nothing. -/
  | unknown {text : String} (given : text? = some text)
    (unnamed : ∀ f : Format, Format.normalized text ≠ f.name) :
    Settles text? (.error (.unknownFormat text))

theorem settles_of_parse? {text : String} {f : Format} (h : Format.parse? text = some f) :
    Settles (some text) (.ok f) :=
  .named rfl (Format.parse?_eq_some_iff.mp h)

theorem settles_of_not_parse? {text : String} (h : Format.parse? text = none) :
    Settles (some text) (.error (.unknownFormat text)) := by
  refine .unknown rfl fun f hname => ?_
  rw [Format.parse?_eq_some_iff.mpr hname] at h
  cases h

theorem settles_readFormat (text : String) : Settles (some text) (readFormat text) := by
  rw [readFormat]
  cases h : Format.parse? text with
  | some f => exact settles_of_parse? h
  | none => exact settles_of_not_parse? h

theorem readFormat_empty : readFormat "" = .error (.unknownFormat "") := by
  have h : Format.parse? "" = none := by decide
  rw [readFormat, h]

/-- Without a planned format, that of a scenario is settled by the variable or the settings. -/
theorem settles_chooseFormat (env : Environment) (s : Settings) :
    Settles (env.nonempty? Settings.formatVariable <|> s.format)
      (ScenarioPlan.chooseFormat none env s) := by
  rw [ScenarioPlan.chooseFormat]
  cases (env.nonempty? Settings.formatVariable <|> s.format) with
  | none => exact .absent rfl
  | some text =>
    simp only
    cases h : Format.parse? text with
    | some f => exact settles_of_parse? h
    | none => exact settles_of_not_parse? h

/-- The text that names the format of a command line: that of the option, else of the
variable unless it is empty, else of the project's settings, else of the global ones. -/
def formatText? (arguments : List String) (env : Environment) (own shared : Settings) :
    Option String :=
  flag? arguments <|> env.nonempty? Settings.formatVariable <|> own.format <|> shared.format

end CommandLine

/-! ## 3. Programs that open a scenario -/

/-- What a program ends with on a machine, what has been printed by then, and the machine
that it leaves. -/
def Machine.performProgram {α : Type} (m : Machine) (t : Terminal) (p : Program α) :
    (Except ProgramError α × Terminal) × Machine :=
  Id.run (StateT.run (StateT.run p.run t) m)

/-- The variant that a task opens a scenario for, if it opens one. -/
def Task.opens? : Task → Option (Option String)
  | build task | upToDate task => some task.configuration
  | path task => some task.configuration
  | run task => some task.configuration
  | formats _ | check _ | completions _ => none

namespace CommandLine

variable {α β : Type} {m : Machine} {t : Terminal}

/-- A program that begins on the machine goes on where that ends, unless it fails. -/
theorem performProgram_onMachine_bind (m : Machine) (t : Terminal) (v : Verify α)
    (k : α → Program β) :
    m.performProgram t (onMachine v >>= k) =
      match m.perform v with
      | (.ok a, m') => m'.performProgram t (k a)
      | (.error e, m') => ((.error (.verification e), t), m') := by
  have hrun : Id.run (StateT.run (StateT.run (onMachine v).run t) m) =
      (((m.perform v).1.mapError .verification, t), (m.perform v).2) := rfl
  rw [Machine.performProgram, ExceptT.run_bind, StateT.run_bind, StateT.run_bind, Id.run_bind,
    hrun]
  rcases m.perform v with ⟨r, m'⟩
  cases r <;> rfl

theorem onMachine_bind (v : Verify α) (f : α → Verify β) :
    onMachine (v >>= f) = onMachine v >>= fun a => onMachine (f a) := by
  refine ExceptT.ext (funext fun t => funext fun m => ?_)
  have hrun (u : Verify β) (m : Machine) :
      m.performProgram t (onMachine u) =
        (((m.perform u).1.mapError .verification, t), (m.perform u).2) := rfl
  have hperform : m.performProgram t (onMachine (v >>= f)) =
      m.performProgram t (onMachine v >>= fun a => onMachine (f a)) := by
    rw [performProgram_onMachine_bind, hrun, Machine.perform_bind]
    rcases m.perform v with ⟨r, m'⟩
    cases r <;> rfl
  exact hperform

/-- What a task does once its scenario is open depends on the scenario alone. -/
theorem perform_eq_bind {task : Task} {configuration : Option String} (executor : Executor)
    (h : task.opens? = some configuration) :
    ∃ k : Scenario → Program Int, ∀ c : CommandLine, c.task = task →
      c.perform executor = onMachine (c.openScenario configuration) >>= k := by
  -- What follows the opening is found by splitting it off, and must not depend on `c`.
  cases task with
  | build task | run task =>
    cases h
    apply Exists.intro
    intro c hc
    rw [perform, hc]
    simp only [build, runBuilt, onMachine_bind, bind_assoc]
    rfl
  | upToDate task =>
    cases h
    apply Exists.intro
    intro c hc
    rw [perform, hc]
    simp only [verifyUpToDate, onMachine_bind]
    rfl
  | path task =>
    cases h
    apply Exists.intro
    intro c hc
    rw [perform, hc]
    simp only [locate]
    rfl
  | formats | check | completions => cases h

/-- The plan of a command line's scenario in a directory. -/
def plan (c : CommandLine) (directory : Path) (format : Option Format) : ScenarioPlan :=
  { format, formats := c.validFormats, directory := some directory, workdir := some directory }

/-- A scenario in the variant that is given, if one is. -/
def inVariant (configuration : Option String) (s : Scenario) : Scenario :=
  match configuration with
  | none => s
  | some _ => { s with configuration := .ofName? configuration }

variable {c : CommandLine} {directory : Path} {configuration : Option String}

/-- A scenario is opened in the current directory. -/
theorem perform_openScenario (hd : m.currentDirectory = .ok directory) :
    m.perform (c.openScenario configuration) =
      match c.plannedFormat with
      | .error e => (.error e, m)
      | .ok format =>
        ((m.perform (c.plan directory format).start).1.map (inVariant configuration),
          (m.perform (c.plan directory format).start).2) := by
  have hcurrent : m.perform currentDirectory = (.ok directory, m) := by
    simp only [currentDirectory, Machine.perform_bind, Machine.perform_get, hd,
      Machine.perform_pure]
  rw [openScenario, Machine.perform_bind, hcurrent]
  simp only [Machine.perform_bind, Machine.perform_liftExcept]
  cases c.plannedFormat with
  | error e => rfl
  | ok format =>
    simp only
    rcases hstart : m.perform (c.plan directory format).start with ⟨r, m'⟩
    rw [plan] at hstart
    rw [hstart]
    cases r with
    | error e => rfl
    | ok s => cases configuration <;> rfl

/-! ## 4. The format that is run -/

/-- What a command line does in a directory with the format that is settled for it, or with
the error. -/
inductive Runs (executor : Executor) (c : CommandLine) (directory : Path) (m : Machine) :
    Except VerifyError Format → Prop where
  /-- It runs as if the option had given the format: its scenario is that of a plan with the
  format, and has it. -/
  | format {f : Format}
    (same : ∀ t, m.performProgram t (c.perform executor) =
      m.performProgram t (perform executor { c with format := some f.name }))
    (starts : ∀ configuration, m.perform (c.openScenario configuration) =
      ((m.perform (c.plan directory (some f)).start).1.map (inVariant configuration),
        (m.perform (c.plan directory (some f)).start).2))
    (opened : ∀ configuration s m', m.perform (c.openScenario configuration) = (.ok s, m') →
      s.format = f) : Runs executor c directory m (.ok f)
  /-- It ends with the error, before it has printed or changed anything. -/
  | error {e : VerifyError}
    (ends : ∀ t, ∃ es, m.performProgram t (c.perform executor) =
      ((.error (.verification e), t), m.logged es)) :
    Runs executor c directory m (.error e)

theorem plannedFormat_name (c : CommandLine) (f : Format) :
    plannedFormat { c with format := some f.name } = .ok (some f) := by
  simp only [plannedFormat, readFormat, Format.parse?_name]
  rfl

/-- What opens the same scenario as a format by option, runs that format. -/
theorem runs_of_start {executor : Executor} {f : Format} {planned : Option Format}
    (hopens : c.task.opens? = some configuration) (hd : m.currentDirectory = .ok directory)
    (hplanned : c.plannedFormat = .ok planned)
    (hstart : m.perform (c.plan directory planned).start =
      m.perform (c.plan directory (some f)).start) : Runs executor c directory m (.ok f) := by
  have hstarts (configuration : Option String) : m.perform (c.openScenario configuration) =
      ((m.perform (c.plan directory (some f)).start).1.map (inVariant configuration),
        (m.perform (c.plan directory (some f)).start).2) := by
    rw [perform_openScenario hd, hplanned]
    simp only [hstart]
  refine .format (fun t => ?_) hstarts fun configuration s m' h => ?_
  · have hopen : m.perform (openScenario { c with format := some f.name } configuration) =
        m.perform (c.openScenario configuration) := by
      rw [perform_openScenario hd, plannedFormat_name, hstarts]
      rfl
    obtain ⟨k, hk⟩ := perform_eq_bind executor hopens
    rw [hk c rfl, hk { c with format := some f.name } rfl, performProgram_onMachine_bind,
      performProgram_onMachine_bind, hopen]
  · rw [hstarts] at h
    rcases hperform : m.perform (c.plan directory (some f)).start with ⟨r, m₁⟩
    rw [hperform] at h
    cases r with
    | error e => cases h
    | ok s₁ =>
      obtain ⟨_, -, hformat⟩ := ScenarioPlan.hasFormat_of_start hperform
      have hs : s.format = s₁.format := by
        cases h
        cases configuration <;> rfl
      rw [hs]
      rcases hformat with hgiven | ⟨hunplanned, -, -⟩
      · exact (Option.some.inj hgiven).symm
      · cases hunplanned

/-- What fails to open a scenario ends with that error. -/
theorem runs_of_error {executor : Executor} {e : VerifyError}
    (hopens : c.task.opens? = some configuration)
    (h : ∃ es, m.perform (c.openScenario configuration) = (.error e, m.logged es)) :
    Runs executor c directory m (.error e) := by
  obtain ⟨es, h⟩ := h
  refine .error fun t => ⟨es, ?_⟩
  obtain ⟨k, hk⟩ := perform_eq_bind executor hopens
  rw [hk c rfl, performProgram_onMachine_bind, h]

/-- A text that the option or the variable gives is read, whatever it is. -/
theorem runs_readFormat (executor : Executor) {text : String}
    (hopens : c.task.opens? = some configuration) (hd : m.currentDirectory = .ok directory)
    (htext : c.format = some text) : Runs executor c directory m (readFormat text) := by
  have hplanned : c.plannedFormat = some <$> readFormat text := by
    rw [plannedFormat, htext]
  cases hread : readFormat text with
  | error e =>
    rw [hread] at hplanned
    refine runs_of_error hopens ⟨[], ?_⟩
    rw [perform_openScenario hd, hplanned, Machine.logged_nil]
    rfl
  | ok f =>
    rw [hread] at hplanned
    exact runs_of_start hopens hd hplanned rfl

/-- Where neither gives one, the settings are asked. -/
theorem runs_chooseFormat (executor : Executor) {s : Settings}
    (hopens : c.task.opens? = some configuration) (hd : m.currentDirectory = .ok directory)
    (htext : c.format = none) (hs : (c.plan directory none).HasSettings m s) :
    Runs executor c directory m (ScenarioPlan.chooseFormat none m.environment s) := by
  have hplanned : c.plannedFormat = .ok none := by
    rw [plannedFormat, htext]
  cases hchoose : ScenarioPlan.chooseFormat none m.environment s with
  | error e =>
    have hfault : (c.plan directory none).Obstacle m e :=
      .format hs (ScenarioPlan.chooseFormat_eq_error_iff.mp hchoose)
    obtain ⟨es, hstart⟩ := ScenarioPlan.perform_start_of_obstacle hfault
    refine runs_of_error hopens ⟨es, ?_⟩
    rw [perform_openScenario hd, hplanned]
    simp only [hstart]
    rfl
  | ok f =>
    refine runs_of_start hopens hd hplanned
      (ScenarioPlan.perform_start_of_hasFormat fun s' hs' => ?_)
    cases hs.unique hs'
    exact ScenarioPlan.chooseFormat_eq_ok_iff.mp hchoose

/-- The settings that a command line's scenario has. -/
theorem hasSettings_plan (c : CommandLine)
    (hsound : ¬(Settings.fileState m (Settings.projectPath directory)).Faulty) :
    (c.plan directory none).HasSettings m (Settings.layered m.environment
      (Settings.fileState m (Settings.projectPath directory)).settings
      (Settings.globalState m (some (Settings.globalPath m))).settings) :=
  ⟨directory, .planned rfl, .discovered rfl hsound (Settings.layered_spec _ _ _)⟩

theorem format_layered (env : Environment) (own shared : Settings) :
    (Settings.layered env own shared).format =
      (env.nonempty? Settings.formatVariable <|> own.format <|> shared.format) :=
  (Settings.layered_spec env own shared).value? .format

/-- There are no settings where there are no files. -/
theorem fileState_of_empty {path : Path} {name : String} {rest : List String}
    (habsolute : path.isAbsolute = true) (hsegments : path.segments = "" :: name :: rest)
    (hname : FileTree.IsName name) (h : m.files = .empty) :
    Settings.fileState m path = .absent := by
  refine Settings.fileState_of_not_exists ?_
  rw [Machine.pathExists, h]
  exact FileTree.pathExists_of_missing habsolute hsegments hname rfl

theorem fileState_projectPath_root (h : m.files = .empty) :
    Settings.fileState m (Settings.projectPath ⟨"/"⟩) = .absent := by
  have hsegments : (Settings.projectPath ⟨"/"⟩).segments = ["", ".gyptest", "config.toml"] := by
    decide
  exact fileState_of_empty (by decide) hsegments (by constructor <;> decide) h

/-- **The format that a command line runs** is named by the first of the option, the variable,
the project's settings and the global ones that has a text for it; no text at all, or
one that names no format, is an error.  An empty variable is passed over by the
settings, but not in place of the option: there it is a text that names no format. -/
theorem runs_first_format (executor : Executor) {arguments : List String}
    (hparse : parse m.environment arguments = .ok c)
    (hopens : c.task.opens? = some configuration) (hd : m.currentDirectory = .ok directory)
    (hsound : ¬(Settings.fileState m (Settings.projectPath directory)).Faulty) :
    let own := (Settings.fileState m (Settings.projectPath directory)).settings
    let shared := (Settings.globalState m (some (Settings.globalPath m))).settings
    let unheard :=
      flag? arguments = none ∧ m.environment.get? Settings.formatVariable = some ""
    (¬unheard → ∃ r, Settles (formatText? arguments m.environment own shared) r ∧
      Runs executor c directory m r) ∧
    (unheard → Runs executor c directory m (.error (.unknownFormat ""))) := by
  intro own shared unheard
  have hformat := format_of_parse hparse
  constructor
  · intro hheard
    cases hflag : flag? arguments with
    | some text =>
      rw [hflag] at hformat
      refine ⟨_, ?_, runs_readFormat executor hopens hd hformat⟩
      rw [formatText?, hflag]
      exact settles_readFormat text
    | none =>
      rw [hflag] at hformat
      cases hvariable : m.environment.get? Settings.formatVariable with
      | some text =>
        rw [hvariable] at hformat
        have hne : text ≠ "" := fun h => hheard ⟨hflag, h ▸ hvariable⟩
        have hnonempty := Environment.nonempty?_eq_some_iff.mpr ⟨hvariable, hne⟩
        refine ⟨_, ?_, runs_readFormat executor hopens hd hformat⟩
        rw [formatText?, hflag, hnonempty]
        exact settles_readFormat text
      | none =>
        -- The settings read the variable once more, and find it unset as well.
        rw [hvariable] at hformat
        have hnonempty := Environment.nonempty?_eq_none_iff.mpr (.inl hvariable)
        refine ⟨_, ?_, runs_chooseFormat executor hopens hd hformat (c.hasSettings_plan hsound)⟩
        have hsettles := settles_chooseFormat m.environment
          (Settings.layered m.environment own shared)
        rw [format_layered, hnonempty] at hsettles
        rw [formatText?, hflag, hnonempty]
        exact hsettles
  · rintro ⟨hflag, hvariable⟩
    rw [hflag, hvariable] at hformat
    rw [← readFormat_empty]
    exact runs_readFormat executor hopens hd hformat

/-- A format that the variable names, and neither the option nor a file. -/
theorem runs_first_format_of_variable :
    let m : Machine := { files := .empty, environment := [("TESTGYP_FORMAT", " SCons ")] }
    let executor : Executor := fun m _ => { files := m.files, outcome := .ok {} }
    ∃ c, parse m.environment ["path", "hello"] = .ok c ∧ flag? ["path", "hello"] = none ∧
      Runs executor c ⟨"/"⟩ m (.ok .scons) := by
  intro m executor
  have hsound : ¬(Settings.fileState m (Settings.projectPath ⟨"/"⟩)).Faulty := by
    rw [fileState_projectPath_root rfl]
    rintro ⟨⟩
  let c : CommandLine :=
    { format := some " SCons "
      task := .path { artifact := { name := "hello", kind := .executable } } }
  have hparse : parse m.environment ["path", "hello"] = .ok c := by rfl
  have hflag : flag? ["path", "hello"] = none := by rfl
  have hd : m.currentDirectory = .ok ⟨"/"⟩ := rfl
  have hheard : ¬(flag? ["path", "hello"] = none ∧
      m.environment.get? Settings.formatVariable = some "") := fun h =>
    absurd h.2 (by decide)
  obtain ⟨r, hsettles, hruns⟩ := (runs_first_format executor hparse rfl hd hsound).1 hheard
  have htext : formatText? ["path", "hello"] m.environment
      (Settings.fileState m (Settings.projectPath ⟨"/"⟩)).settings
      (Settings.globalState m (some (Settings.globalPath m))).settings = some " SCons " := by
    rw [formatText?, hflag]
    rfl
  have hname : Format.normalized " SCons " = Format.scons.name := by decide
  rw [htext] at hsettles
  refine ⟨c, hparse, hflag, ?_⟩
  cases hsettles with
  | named given names =>
    cases given
    cases Format.name_injective (names.symm.trans hname)
    exact hruns
  | unknown given unnamed =>
    cases given
    exact absurd hname (unnamed .scons)
  | absent missing => cases missing

/-- An empty variable is not passed over where there is no option: without any other text the
program does not miss one. -/
theorem not_forall_runs_first_format :
    ¬∀ (executor : Executor) (arguments : List String) (c : CommandLine) (m : Machine)
      (directory : Path) (configuration : Option String),
      parse m.environment arguments = .ok c → c.task.opens? = some configuration →
      m.currentDirectory = .ok directory →
      ¬(Settings.fileState m (Settings.projectPath directory)).Faulty →
      ∃ r, Settles (formatText? arguments m.environment
          (Settings.fileState m (Settings.projectPath directory)).settings
          (Settings.globalState m (some (Settings.globalPath m))).settings) r ∧
        Runs executor c directory m r := by
  intro hall
  let m : Machine := { files := .empty, environment := [("TESTGYP_FORMAT", "")] }
  let executor : Executor := fun m _ => { files := m.files, outcome := .ok {} }
  have hown : Settings.fileState m (Settings.projectPath ⟨"/"⟩) = .absent :=
    fileState_projectPath_root rfl
  have hshared : Settings.globalState m (some (Settings.globalPath m)) = .absent := by
    have hpath : Settings.globalPath m = ⟨"/root/.config/gyptest/config.toml"⟩ := by decide
    have hsegments : (Path.mk "/root/.config/gyptest/config.toml").segments =
        ["", "root", ".config", "gyptest", "config.toml"] := by decide
    rw [hpath]
    exact fileState_of_empty (by decide) hsegments (by constructor <;> decide) rfl
  let c : CommandLine :=
    { format := some "", task := .path { artifact := { name := "hello", kind := .executable } } }
  have hparse : parse m.environment ["path", "hello"] = .ok c := by rfl
  have hd : m.currentDirectory = .ok ⟨"/"⟩ := rfl
  obtain ⟨r, hsettles, hruns⟩ := hall executor ["path", "hello"] c m ⟨"/"⟩ none hparse rfl hd
    (by rw [hown]; rintro ⟨⟩)
  have hflag : flag? ["path", "hello"] = none := by rfl
  have htext : formatText? ["path", "hello"] m.environment
      (Settings.fileState m (Settings.projectPath ⟨"/"⟩)).settings
      (Settings.globalState m (some (Settings.globalPath m))).settings = none := by
    rw [formatText?, hflag, hown, hshared]
    rfl
  have hunknown : Runs executor c ⟨"/"⟩ m (readFormat "") := runs_readFormat executor rfl hd rfl
  rw [readFormat_empty] at hunknown
  rw [htext] at hsettles
  cases hsettles with
  | absent missing =>
    cases hruns with
    | error ends =>
      cases hunknown with
      | error ends' =>
        obtain ⟨_, hends⟩ := ends {}
        obtain ⟨_, hends'⟩ := ends' {}
        cases hends.symm.trans hends'
  | named given names | unknown given unnamed => cases given

end CommandLine

end CrossBuild
