import CrossBuild.Proofs.CommandLine.Result

/-!
# Exit statuses

Three places decide what a command line ends with: the body of its task, the
exit status of the error that it ends in, and the conclusion that prints the
diagnostic.  A task that opens a scenario hands over at most one command, so all of
it comes down to whether that command has left an output (`Leaves`).

A build and a run pass the output on, and its status with it, where a signal counts
as 1.  A verification passes nothing on: whatever the status of its command was, it
ends with 0 or in an error (`CommandLine.exit_status`).

An error that is not one of a verification has no diagnostic: it is told in a line.
-/
namespace CrossBuild

namespace CommandLine

/-! ## 1. Outputs that are left -/

/-- The one command of a command line has left an output. -/
inductive Leaves (executor : Executor) (color : Bool) (c : CommandLine) (m : Machine) :
    Scenario → Command → Output → Prop where
  | intro {configuration : Option String} {j : Job} {s : Scenario} {m₁ : Machine}
    {command : Command} {o : Output} (opens : c.task.opens? = some configuration)
    (job : c.task.job? = some j)
    (opened : m.perform (c.openScenario configuration) = (.ok s, m₁))
    (given : j.command? s m₁ = .ok command)
    (handed : (run executor color c m).2.history = m.history ++ [⟨command, .ok o⟩]) :
    Leaves executor color c m s command o

variable {executor : Executor} {color : Bool} {c : CommandLine} {m : Machine}

/-- There is one scenario, and one output on record. -/
theorem Leaves.unique {s s' : Scenario} {command command' : Command} {o o' : Output}
    (h : Leaves executor color c m s command o) (h' : Leaves executor color c m s' command' o') :
    s' = s ∧ o' = o := by
  obtain ⟨opens, -, opened, -, handed⟩ := h
  obtain ⟨opens', -, opened', -, handed'⟩ := h'
  cases opens.symm.trans opens'
  cases opened.symm.trans opened'
  cases List.append_cancel_left (handed.symm.trans handed')
  exact ⟨rfl, rfl⟩

/-- What has left an output is the command of the job, in the scenario that was opened. -/
theorem Leaves.eq_of_opened {configuration : Option String} {j : Job} {s s' : Scenario}
    {m₁ : Machine} {command command' : Command} {o : Output}
    (h : Leaves executor color c m s' command' o) (hopens : c.task.opens? = some configuration)
    (hjob : c.task.job? = some j)
    (hopened : m.perform (c.openScenario configuration) = (.ok s, m₁))
    (hgiven : j.command? s m₁ = .ok command) : s' = s ∧ command' = command := by
  obtain ⟨opens, job, opened, given, -⟩ := h
  cases opens.symm.trans hopens
  cases job.symm.trans hjob
  cases opened.symm.trans hopened
  cases given.symm.trans hgiven
  exact ⟨rfl, rfl⟩

/-- The command of an opened scenario leaves what the executor answers to it. -/
theorem leaves_iff_answers {configuration : Option String} {j : Job} {s : Scenario}
    {m₁ : Machine} {command : Command} (hopens : c.task.opens? = some configuration)
    (hjob : c.task.job? = some j)
    (hopened : m.perform (c.openScenario configuration) = (.ok s, m₁))
    (hgiven : j.command? s m₁ = .ok command) :
    ∃ es, ∀ o, Leaves executor color c m s command o ↔
      (executor (m₁.logged es) command).outcome = .ok o := by
  obtain ⟨es, hhistory⟩ := history_attempt executor hopened hgiven
  have hrun := history_run executor color m hopens hjob
  rw [hhistory] at hrun
  refine ⟨es, fun o => ⟨?_, fun houtcome => ?_⟩⟩
  · rintro ⟨-, -, -, -, handed⟩
    have hlast := List.append_cancel_left (hrun.symm.trans handed)
    simpa using hlast
  · exact .intro hopens hjob hopened hgiven (by rw [hrun, houtcome])

/-- An opened scenario that has a tool hands a build over to it, to verify as well as to build. -/
theorem exists_command_of_tool {s : Scenario} {program : Path}
    (htool : s.backend.tool.path? = some program) (m₁ : Machine) {j : Job}
    (hbuilds : ∃ request, j = .build request ∨ j = .verify request) :
    ∃ command, j.command? s m₁ = .ok command ∧ command.program = program := by
  have hgypd : s.backend ≠ .gypd := by
    intro hb
    rw [hb] at htool
    cases htool
  have hgiven (request : BuildRequest) : Job.buildCommand? s m₁ request =
      .ok (s.backend.buildCommand s.workspace m₁ request program) := by
    rw [Job.buildCommand?, if_neg hgypd, htool]
  obtain ⟨request, rfl | rfl⟩ := hbuilds
  · exact ⟨_, hgiven request, rfl⟩
  · exact ⟨_, hgiven (s.backend.verificationRequest request), rfl⟩

/-! ## 2. Endings -/

/-- What a command line ends with that tells of an error: the exit status and a text for the user,
and nothing else is printed but the log. -/
structure Tells (executor : Executor) (color : Bool) (c : CommandLine) (m : Machine)
    (status : Int) (text : String) : Prop where
  exit : (run executor color c m).1.exit = status
  stdout : (run executor color c m).1.stdout = ""
  stderr : (run executor color c m).1.stderr =
    Terminal.logText c.verbose ((run executor color c m).2.events.drop m.events.length) ++ text

theorem tells_of_result (color : Bool) {e : ProgramError}
    (h : result executor c m = .error e) :
    Tells executor color c m e.exitStatus (e.text (color && !c.noColor)) := by
  have hsilent := failsSilently_perform executor c m _ e h
  rw [result] at h
  have hrun := run_eq executor color c m
  rcases hp : m.performProgram { verbose := c.verbose, shown := m.events.length }
    (c.perform executor) with ⟨⟨r, t⟩, m'⟩
  rw [hp] at h hsilent hrun
  simp only at h hsilent
  subst h hsilent
  simp only at hrun
  constructor
  · rw [hrun]
  · rw [hrun]
  · simp only [hrun, Terminal.caughtUp, String.empty_append]

/-- What is printed where a command's output is passed on, and the status at the end. -/
structure PassesOn (executor : Executor) (color : Bool) (c : CommandLine) (m : Machine)
    (o : Output) : Prop where
  exit : (run executor color c m).1.exit = o.status.getD 1
  stdout : (run executor color c m).1.stdout = o.stdout
  stderr : ∃ before after, (run executor color c m).2.events = m.events ++ (before ++ after) ∧
    (run executor color c m).1.stderr =
      Terminal.logText c.verbose before ++ o.stderr ++ Terminal.logText c.verbose after

/-- A job that fails before its command has left an output ends the command line in its error. -/
theorem ends_of_failed {configuration : Option String} {j : Job} {k : Invocation → Program Int}
    {e : VerifyError} {m' : Machine}
    (hperform : c.perform executor = onMachine (c.attempt executor configuration j) >>= k)
    (hattempt : m.perform (c.attempt executor configuration j) = (.error e, m'))
    (unanswered : ∀ command o, m'.history ≠ m.history ++ [⟨command, .ok o⟩]) :
    result executor c m = .error (.verification e) ∧
      ∀ s command o, ¬Leaves executor color c m s command o := by
  constructor
  · rw [result, hperform, performProgram_onMachine_bind, hattempt]
  · rintro s command o ⟨-, -, -, -, handed⟩
    rw [run_eq, hperform, performProgram_onMachine_bind, hattempt] at handed
    exact unanswered command o handed

/-- A task that passes on an output does so, or there is none and it ends in an error. -/
theorem echoes_ends (h : c.task.echoes = true) :
    (∃ s command o, Leaves executor color c m s command o ∧ PassesOn executor color c m o) ∨
      (∃ e, result executor c m = .error (.verification e)) ∧
        ∀ s command o, ¬Leaves executor color c m s command o := by
  obtain ⟨configuration, j, k, hopens, hjob, hperform, hconclude, hk⟩ :=
    perform_eq_echo executor h
  obtain ⟨hattempts, hevents⟩ := attempts_attempt executor c configuration j m
  rcases hattempt : m.perform (c.attempt executor configuration j) with ⟨r, m'⟩
  rw [hattempt] at hattempts hevents
  simp only at hattempts hevents
  cases hattempts with
  | failed unanswered =>
    obtain ⟨hresult, hnone⟩ := ends_of_failed hperform hattempt unanswered
    exact .inr ⟨⟨_, hresult⟩, hnone⟩
  | @answered s m₁ _ command o opened given handed =>
    rw [hconclude] at hattempt
    obtain ⟨es, hecho⟩ :=
      hk m' { verbose := c.verbose, shown := m.events.length } (.ofOutput command o)
    have hrun := run_eq executor color c m
    rw [hperform, performProgram_onMachine_bind, hattempt] at hrun
    simp only [hecho] at hrun
    obtain ⟨before, hbefore⟩ := hevents
    refine .inl ⟨s, command, o, .intro hopens hjob opened given ?_, ?_, ?_, before, es, ?_, ?_⟩
    · rw [hrun]
      exact handed
    · rw [hrun]
      rfl
    · rw [hrun]
      exact String.empty_append
    · rw [hrun]
      simp [Machine.logged, ← hbefore]
    · rw [hrun]
      simp [Terminal.caughtUp, Terminal.echoed, Machine.logged, ← hbefore, Invocation.ofOutput]

/-- A verification has nothing to say but its verdict. -/
theorem upToDate_ends {task : BuildTask} (h : c.task = .upToDate task) :
    ((∃ s command o, Leaves executor color c m s command o ∧ o.status = some 0 ∧
        NoOpOutput s.backend task.request.target o.stdout) ∧
      (run executor color c m).1.exit = 0) ∨
    (∃ e, result executor c m = .error (.verification e)) ∧
      ∀ s command o, Leaves executor color c m s command o →
        ¬(o.status = some 0 ∧ NoOpOutput s.backend task.request.target o.stdout) := by
  have hopens : c.task.opens? = some task.configuration := by rw [h]; rfl
  have hjob : c.task.job? = some (.verify task.request) := by rw [h]; rfl
  have hperform := perform_upToDate_eq executor h
  obtain ⟨hattempts, -⟩ :=
    attempts_attempt executor c task.configuration (.verify task.request) m
  rcases hattempt : m.perform (c.attempt executor task.configuration (.verify task.request))
    with ⟨r, m'⟩
  rw [hattempt] at hattempts
  simp only at hattempts
  cases hattempts with
  | failed unanswered =>
    obtain ⟨hresult, hnone⟩ := ends_of_failed hperform hattempt unanswered
    exact .inr ⟨⟨_, hresult⟩, fun s command o hleaves => absurd hleaves (hnone s command o)⟩
  | @answered s m₁ _ command o opened given handed =>
    have hrun := run_eq executor color c m
    rw [hperform, performProgram_onMachine_bind, hattempt] at hrun
    have hleaves : Leaves executor color c m s command o := by
      refine .intro hopens hjob opened given ?_
      rw [hrun]
      cases (Job.verify task.request).conclude s (.ofOutput command o) <;> exact handed
    have hdecides : Decides s.backend task.request.target (.ofOutput command o)
        ((Job.verify task.request).conclude s (.ofOutput command o)) :=
      s.backend.decides_conclude task.request.target (.ofOutput command o)
    by_cases hnoOp : o.status = some 0 ∧ NoOpOutput s.backend task.request.target o.stdout
    · refine .inl ⟨⟨s, command, o, hleaves, hnoOp⟩, ?_⟩
      rw [hrun, hdecides.ok_iff.mpr hnoOp]
      rfl
    · refine .inr ⟨?_, fun s' command' o' h' => ?_⟩
      · rw [result, hperform, performProgram_onMachine_bind, hattempt]
        by_cases hstatus : o.status = some 0
        · rw [hdecides.didWork_iff.mpr ⟨hstatus, fun h => hnoOp ⟨hstatus, h⟩⟩]
          exact ⟨_, rfl⟩
        · rw [hdecides.failed_iff.mpr hstatus]
          exact ⟨_, rfl⟩
      · obtain ⟨rfl, rfl⟩ := hleaves.unique h'
        exact hnoOp

theorem upToDate_exit_iff {task : BuildTask} (h : c.task = .upToDate task) :
    (run executor color c m).1.exit = 0 ↔
      ∃ s command o, Leaves executor color c m s command o ∧ o.status = some 0 ∧
        NoOpOutput s.backend task.request.target o.stdout := by
  rcases upToDate_ends h with ⟨hleaves, hexit⟩ | ⟨⟨e, he⟩, hnone⟩
  · exact iff_of_true hexit hleaves
  · have hne : (run executor color c m).1.exit ≠ 0 := by
      rw [(tells_of_result color he).exit]
      exact ProgramError.exitStatus_ne_zero _
    refine iff_of_false hne ?_
    rintro ⟨s, command, o, hleaves, hnoOp⟩
    exact hnone s command o hleaves hnoOp

/-- Where the scenario of a verification has been opened and has a tool, all comes down to what
the tool answers to the one command that it is handed. -/
theorem upToDate_exit_iff_of_tool {task : BuildTask} {s : Scenario} {m₁ : Machine}
    {program : Path} (h : c.task = .upToDate task)
    (hopened : m.perform (c.openScenario task.configuration) = (.ok s, m₁))
    (htool : s.backend.tool.path? = some program) :
    ∃ command es, command.program = program ∧
      ((run executor color c m).1.exit = 0 ↔ ∃ o,
        (executor (m₁.logged es) command).outcome = .ok o ∧ o.status = some 0 ∧
          NoOpOutput s.backend task.request.target o.stdout) := by
  have hopens : c.task.opens? = some task.configuration := by rw [h]; rfl
  have hjob : c.task.job? = some (.verify task.request) := by rw [h]; rfl
  obtain ⟨command, hgiven, hprogram⟩ :=
    exists_command_of_tool (j := .verify task.request) htool m₁ ⟨task.request, .inr rfl⟩
  have hanswers : ∃ es, ∀ o, Leaves executor color c m s command o ↔
      (executor (m₁.logged es) command).outcome = .ok o :=
    leaves_iff_answers hopens hjob hopened hgiven
  obtain ⟨es, hanswers⟩ := hanswers
  refine ⟨command, es, hprogram, ?_⟩
  simp only [upToDate_exit_iff h, ← hanswers]
  constructor
  · rintro ⟨s', command', o, hleaves, hnoOp⟩
    obtain ⟨rfl, rfl⟩ := hleaves.eq_of_opened hopens hjob hopened hgiven
    exact ⟨o, hleaves, hnoOp⟩
  · rintro ⟨o, hleaves, hnoOp⟩
    exact ⟨s, command, o, hleaves, hnoOp⟩

/-- **What a command line ends with.**  A build and a run print what their command has printed,
and end with its status, or with 1 if a signal ended it; if there was no such command, they
end in an error.  A verification ends with 0 exactly if its build was run, succeeded and
printed what one prints that has nothing to do, and in an error otherwise.  The command is that
of the scenario that was opened, and its output what the executor answers.

Any command line that ends in the error of a verification prints its diagnostic, and ends with
2 if the scenario was skipped and with 1 otherwise.  Any other error is that there is no current
directory for a listing or a check: it is told in a line without colours. -/
theorem exit_status (executor : Executor) (color : Bool) (c : CommandLine) (m : Machine) :
    (c.task.echoes = true →
      (∀ s command o, Leaves executor color c m s command o →
        PassesOn executor color c m o) ∧
      ((∀ s command o, ¬Leaves executor color c m s command o) →
        ∃ e, result executor c m = .error (.verification e))) ∧
    (∀ task, c.task = .upToDate task →
      ((run executor color c m).1.exit = 0 ↔
        ∃ s command o, Leaves executor color c m s command o ∧ o.status = some 0 ∧
          NoOpOutput s.backend task.request.target o.stdout) ∧
      ((run executor color c m).1.exit ≠ 0 →
        ∃ e, result executor c m = .error (.verification e))) ∧
    (∀ configuration j s m₁ command, c.task.opens? = some configuration → c.task.job? = some j →
      m.perform (c.openScenario configuration) = (.ok s, m₁) → j.command? s m₁ = .ok command →
      ∃ es, ∀ o, Leaves executor color c m s command o ↔
        (executor (m₁.logged es) command).outcome = .ok o) ∧
    (∀ e, result executor c m = .error (.verification e) →
      Tells executor color c m (match e with | .skipped _ => 2 | _ => 1)
        (e.diagnostic.format (color && !c.noColor))) ∧
    ∀ cause, (result executor c m = .error (.system cause) ↔
        c.task.NeedsDirectory ∧ m.currentDirectory = .error cause) ∧
      (result executor c m = .error (.system cause) →
        Tells executor color c m 1 ("error: " ++ cause.message ++ "\n")) := by
  refine ⟨fun hechoes => ?_, fun task htask => ?_, fun _ _ _ _ _ hopens hjob hopened hgiven => ?_,
    fun e he => ?_, fun cause => ⟨result_eq_system_iff executor c m cause, fun he => ?_⟩⟩
  · rcases echoes_ends hechoes with ⟨s, command, o, hleaves, hpasses⟩ | ⟨hfails, hnone⟩
    · refine ⟨fun s' command' o' h' => ?_, fun hnone => absurd hleaves (hnone s command o)⟩
      obtain ⟨-, rfl⟩ := hleaves.unique h'
      exact hpasses
    · exact ⟨fun s command o h => absurd h (hnone s command o), fun _ => hfails⟩
  · refine ⟨upToDate_exit_iff htask, fun hne => ?_⟩
    rcases upToDate_ends htask with ⟨-, hexit⟩ | ⟨he, -⟩
    · exact absurd hexit hne
    · exact he
  · exact leaves_iff_answers hopens hjob hopened hgiven
  · have htells := tells_of_result color he
    cases e <;> exact htells
  · exact tells_of_result color he

/-- On a machine without files the tool is the last resort of its format. -/
theorem openScenario_scons :
    let m : Machine := { files := .empty }
    let c : CommandLine :=
      { format := some "scons", task := .build { request := { project := ⟨"p.gyp"⟩ } } }
    ∃ es, m.perform (c.openScenario none) = (.ok
      { format := .scons, generator := ⟨"/gyp"⟩, backend := .scons (.fallback ⟨"scons"⟩)
        configuration := .unset, workdir := .fixed ⟨"/"⟩, affixes := .host }, m.logged es) := by
  intro m c
  let plan := c.plan ⟨"/"⟩ (some .scons)
  have hplanned : c.plannedFormat = .ok (some .scons) := by rfl
  have hdirectory : m.perform plan.startDirectory = (.ok ⟨"/"⟩, m) := rfl
  have hsettings : m.perform (plan.chooseSettings ⟨"/"⟩) = (.ok {}, m) := by
    have hown : Settings.fileState m (Settings.projectPath ⟨"/"⟩) = .absent :=
      fileState_projectPath_root rfl
    have hshared : Settings.globalState m (some (Settings.globalPath m)) = .absent := by
      have hpath : Settings.globalPath m = ⟨"/root/.config/gyptest/config.toml"⟩ := by decide
      have hsegments : (Path.mk "/root/.config/gyptest/config.toml").segments =
          ["", "root", ".config", "gyptest", "config.toml"] := by decide
      rw [hpath]
      exact fileState_of_empty (by decide) hsegments (by constructor <;> decide) rfl
    have hnone : Settings.warnings m (some (Settings.globalPath m)) = [] :=
      Settings.warnings_of_not_faulty (by rw [hshared]; rintro ⟨⟩)
    have hdiscover : m.perform (Settings.discover ⟨"/"⟩) = (.ok {}, m) := by
      rw [Settings.discover, Machine.perform_bind, Machine.perform_get]
      simp only [Settings.perform_discoverWith, hown, hshared, hnone, Machine.logged_nil]
      rfl
    exact hdiscover
  have hformat : ScenarioPlan.chooseFormat plan.format m.environment {} = .ok .scons := rfl
  have hadmitted :
      m.perform (ScenarioPlan.requireAdmitted plan.formats .scons) = (.ok (), m) := rfl
  have hselect : m.perform (Backend.select .scons ⟨none, ⟨"/"⟩⟩ {}) =
      (.ok (.scons (.fallback ⟨"scons"⟩)), m.logged [.noCandidate ["scons", "scons.py"] ⟨"scons"⟩,
        .selected .scons "scons" (.fallback ⟨"scons"⟩)]) := by rfl
  have hlocator : plan.locator.getD (.ofEnvironment m) = ⟨none, ⟨"/"⟩⟩ := rfl
  have hgenerator : ScenarioPlan.chooseGenerator m
      (ScenarioPlan.namedGenerator plan.generator m.environment {}) ⟨none, ⟨"/"⟩⟩ ⟨"/"⟩ =
        ⟨"/gyp"⟩ := by decide
  have hmake (m : Machine) :
      m.perform (ScenarioPlan.makeWorkdir plan.workdir) = (.ok (.fixed ⟨"/"⟩), m) :=
    ScenarioPlan.perform_makeWorkdir_root m
  refine ⟨[.noCandidate ["scons", "scons.py"] ⟨"scons"⟩,
    .selected .scons "scons" (.fallback ⟨"scons"⟩), .workingIn ⟨"/"⟩], ?_⟩
  rw [perform_openScenario (show m.currentDirectory = .ok ⟨"/"⟩ from rfl), hplanned]
  show Prod.mk (Except.map _ (m.perform plan.start).1) (m.perform plan.start).2 = _
  simp only [ScenarioPlan.start, Machine.perform_bind, hdirectory, hsettings,
    Machine.perform_get, Machine.perform_liftExcept, hformat, hadmitted, hlocator, hselect,
    hgenerator, hmake, Machine.perform_log, Machine.logged_logged]
  exact Prod.ext rfl rfl

/-- A build whose command is ended by a signal. -/
theorem exit_status_of_signal :
    let m : Machine := { files := .empty }
    let o : Output := { status := none, stdout := "cc a.c\n", stderr := "killed\n" }
    let executor : Executor := fun m _ => { files := m.files, outcome := .ok o }
    let c : CommandLine :=
      { format := some "scons", task := .build { request := { project := ⟨"p.gyp"⟩ } } }
    (∃ s command, Leaves executor false c m s command o) ∧
      PassesOn executor false c m o ∧ (run executor false c m).1.exit = 1 := by
  intro m o executor c
  obtain ⟨es, hopened⟩ := openScenario_scons
  have hleaves : ∃ s command, Leaves executor false c m s command o := by
    refine ⟨_, _, .intro rfl rfl hopened rfl ?_⟩
    have hbuild :
        c.perform executor = c.build executor { request := { project := ⟨"p.gyp"⟩ } } := rfl
    rw [run_eq, hbuild, build, performProgram_onMachine_bind, Machine.perform_bind, hopened]
    rfl
  obtain ⟨s, command, h⟩ := hleaves
  have hpasses := ((exit_status executor false c m).1 rfl).1 s command o h
  exact ⟨⟨s, command, h⟩, hpasses, hpasses.exit⟩

end CommandLine

end CrossBuild
