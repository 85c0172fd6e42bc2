import CrossBuild.Proofs.Backend.Command

/-!
# The verdict of a verification

Building again ends with a verdict on the one command that it runs: the
build had nothing to do, it failed, or it did work.  The status decides
first, and the output only on a status of zero; what the tool wrote to its
error stream shows in reports and decides nothing.

`Backend.upToDate_verdict` says so for every backend, from two facts about
its parts: which command a build hands over (`Backend.perform_build`) and
what is concluded from the invocation (`Backend.conclude`).
-/
namespace CrossBuild

/-! ## 1. Outputs of a build with nothing to do -/

/-- The outputs of a build with nothing to do, in the words of each tool. -/
inductive NoOpOutput : Backend → Target → String → Prop where
  /-- Make names the target. -/
  | make (tool : ToolResolution) (target : Target) :
    NoOpOutput (.make tool) target (Make.noOpOutput target)
  /-- SCons names every word of the target. -/
  | scons (tool : ToolResolution) (target : Target) :
    NoOpOutput (.scons tool) target (Scons.noOpOutput target)
  /-- Visual Studio counts one project as up to date. -/
  | msvs (tool : ToolResolution) (generation : VisualStudio.Generation) (target : Target)
    {stdout : String} (count : Msvs.upToDateCount? stdout = some 1) :
    NoOpOutput (.msvs tool generation) target stdout
  /-- Xcode, its noise apart, ends in one of two ways. -/
  | xcode (tool : ToolResolution) (target : Target) {stdout before ending : String}
    (known : ending ∈ Xcode.noOpEndings) (ends : Xcode.stripNoise stdout = before ++ ending) :
    NoOpOutput (.xcode tool) target stdout

theorem Text.endsWith_iff (text pattern : String) :
    endsWith text pattern = true ↔ ∃ before : String, text = before ++ pattern := by
  rw [endsWith, List.isSuffixOf_iff_suffix]
  constructor
  · rintro ⟨before, h⟩
    refine ⟨String.ofList before, ?_⟩
    rw [← String.toList_inj, String.toList_append, String.toList_ofList, h]
  · rintro ⟨before, rfl⟩
    exact ⟨before.toList, String.toList_append.symm⟩

namespace Backend

/-- The test on an output tells exactly the outputs of a build with nothing to do. -/
theorem isNoOp_iff (b : Backend) (target : Target) (stdout : String) :
    b.isNoOp target stdout = true ↔ NoOpOutput b target stdout := by
  cases b with
  | gypd => exact ⟨fun h => by simp [isNoOp] at h, fun h => by cases h⟩
  | make tool =>
    simp only [isNoOp, beq_iff_eq]
    exact ⟨fun h => h ▸ .make tool target, fun h => by cases h; rfl⟩
  | msvs tool generation =>
    simp only [isNoOp, beq_iff_eq]
    exact ⟨fun h => .msvs tool generation target h, fun h => by cases h; assumption⟩
  | scons tool =>
    simp only [isNoOp, beq_iff_eq]
    exact ⟨fun h => h ▸ .scons tool target, fun h => by cases h; rfl⟩
  | xcode tool =>
    simp only [isNoOp, Xcode.isNoOpOutput, List.any_eq_true, Text.endsWith_iff]
    constructor
    · rintro ⟨ending, known, before, ends⟩
      exact .xcode tool target known ends
    · rintro (_ | _ | _ | ⟨_, _, known, ends⟩)
      exact ⟨_, known, _, ends⟩

/-! ## 2. What is concluded from an invocation -/

/-- What the invocation of a build leads to, when the build should have had
nothing to do. -/
def conclude (b : Backend) (target : Target) (i : Invocation) : Except VerifyError Invocation :=
  if i.output.status = some 0 then
    if b.isNoOp target i.output.stdout then .ok i
    else .error (.notUpToDate b.format i.command i.report)
  else .error (.commandFailed i.command i.output.status i.report)

/-- The two checks on an invocation, in the order in which they are made. -/
def check (b : Backend) (target : Target) (i : Invocation) : Verify Invocation := do
  let i ← i.ensureSuccess
  b.checkUpToDate target i

/-- A verification is a build and a check. -/
theorem upToDate_eq (b : Backend) (w : Workspace) (executor : Executor)
    (request : BuildRequest) :
    b.upToDate w executor request =
      b.build w executor (b.verificationRequest request) >>= b.check request.target := rfl

theorem ensureSuccess_eq (i : Invocation) :
    i.ensureSuccess =
      if i.output.status = some 0 then .ok i
      else .error (.commandFailed i.command i.output.status i.report) := by
  simp only [Invocation.ensureSuccess, Invocation.success, Output.success, beq_iff_eq]

variable (b : Backend) (m : Machine)

/-- The check of an output logs and concludes, and does nothing else. -/
theorem perform_checkUpToDate (hb : b ≠ gypd) (target : Target) (i : Invocation) :
    ∃ es, m.perform (b.checkUpToDate target i) =
      (if b.isNoOp target i.output.stdout then .ok i
        else .error (.notUpToDate b.format i.command i.report), m.logged es) := by
  rw [checkUpToDate, if_neg hb]
  cases h : b.isNoOp target i.output.stdout with
  | true => exact ⟨[], by simp⟩
  | false =>
    refine ⟨b.mismatch target i.output.stdout ++ [.notUpToDate i.report], ?_⟩
    simp only [Bool.false_eq_true, if_false, List.forM_eq_forM, Machine.perform_bind,
      Machine.perform_forM_log, Invocation.rejectAsWork, Machine.perform_log,
      Machine.perform_throw, Machine.logged_logged, List.map_id']

/-- It accepts the outputs of a build with nothing to do, and rejects all others as work. -/
theorem checkUpToDate_eq_ok_iff (hb : b ≠ gypd) (target : Target) (i : Invocation) :
    (m.perform (b.checkUpToDate target i)).1 = .ok i ↔ NoOpOutput b target i.output.stdout := by
  obtain ⟨es, h⟩ := b.perform_checkUpToDate m hb target i
  rw [h, ← isNoOp_iff]
  cases b.isNoOp target i.output.stdout <;> simp

theorem checkUpToDate_eq_error_iff (hb : b ≠ gypd) (target : Target) (i : Invocation) :
    (m.perform (b.checkUpToDate target i)).1 =
        .error (.notUpToDate b.format i.command i.report) ↔
      ¬NoOpOutput b target i.output.stdout := by
  obtain ⟨es, h⟩ := b.perform_checkUpToDate m hb target i
  rw [h, ← isNoOp_iff]
  cases b.isNoOp target i.output.stdout <;> simp

theorem perform_check (hb : b ≠ gypd) (target : Target) (i : Invocation) :
    ∃ es, m.perform (b.check target i) = (b.conclude target i, m.logged es) := by
  rw [check, Machine.perform_bind, Machine.perform_liftExcept, ensureSuccess_eq, conclude]
  by_cases hs : i.output.status = some 0
  · simp only [hs, if_true]
    exact b.perform_checkUpToDate m hb target i
  · simp only [hs, if_false]
    exact ⟨[], by rw [Machine.logged_nil]⟩

theorem ne_gypd_of_path {b : Backend} {program : Path} (h : b.tool.path? = some program) :
    b ≠ gypd := by
  rintro rfl
  simp [tool, ToolResolution.path?] at h

/-- A verification runs its one command and concludes from the answer. -/
theorem perform_upToDate (w : Workspace) (executor : Executor) {program : Path}
    (h : b.tool.path? = some program) (request : BuildRequest) :
    let r := b.verificationRequest request
    let c := b.buildCommand w m r program
    let m' := m.logged (b.buildEvents w m r program)
    ∃ es, m.perform (b.upToDate w executor request) =
      (((executor m' c).invocation c).bind (b.conclude request.target),
        (m'.answered c (executor m' c)).logged es) := by
  intro r c m'
  have hb := ne_gypd_of_path h
  rw [upToDate_eq, Machine.perform_bind, b.perform_build w executor m h r, Machine.submit]
  cases hi : (executor m' c).invocation c with
  | error e => exact ⟨[], by rw [Machine.logged_nil]; rfl⟩
  | ok i =>
    obtain ⟨es, he⟩ := b.perform_check (m'.answered c (executor m' c)) hb request.target i
    exact ⟨es, he⟩

end Backend

/-! ## 3. Verdicts -/

/-- What a verification finds out about a build. -/
inductive Verdict where
  /-- It had nothing to do. -/
  | upToDate
  /-- It ended with a status other than zero, or by a signal. -/
  | failed (status : Option Int)
  /-- It did work. -/
  | didWork
  deriving DecidableEq, Repr

/-- The verdict that a verification ends with, if it ends with one. -/
def Verdict.ofResult? : Except VerifyError Invocation → Option Verdict
  | .ok _ => some .upToDate
  | .error (.commandFailed _ status _) => some (.failed status)
  | .error (.notUpToDate _ _ _) => some .didWork
  | .error _ => none

/-- What a process leaves, but for its error stream. -/
def Output.withoutStderr (o : Output) : Output :=
  { o with stderr := "" }

/-- When a verification ends in which way, for the invocation of its build:
the status decides, then the output. -/
structure Decides (b : Backend) (target : Target) (i : Invocation)
    (result : Except VerifyError Invocation) : Prop where
  /-- The invocation is returned unchanged, exactly on success with nothing to do. -/
  ok_iff : result = .ok i ↔ i.output.status = some 0 ∧ NoOpOutput b target i.output.stdout
  /-- A status other than zero is a failure whatever was printed. -/
  failed_iff : result = .error (.commandFailed i.command i.output.status i.report) ↔
    i.output.status ≠ some 0
  /-- Success with any other output is work. -/
  didWork_iff : result = .error (.notUpToDate b.format i.command i.report) ↔
    i.output.status = some 0 ∧ ¬NoOpOutput b target i.output.stdout

namespace Backend

theorem decides_conclude (b : Backend) (target : Target) (i : Invocation) :
    Decides b target i (b.conclude target i) := by
  rw [conclude]
  by_cases hs : i.output.status = some 0
  · by_cases hn : b.isNoOp target i.output.stdout = true
    · have hn' := (b.isNoOp_iff target i.output.stdout).mp hn
      constructor <;> simp [hs, hn, hn']
    · have hn' := mt (b.isNoOp_iff target i.output.stdout).mpr hn
      constructor <;> simp [hs, hn, hn']
  · constructor <;> simp [hs]

/-- The error stream does not show in a verdict. -/
theorem ofResult?_conclude_congr (b : Backend) (target : Target) {i j : Invocation}
    (h : i.output.withoutStderr = j.output.withoutStderr) :
    Verdict.ofResult? (b.conclude target i) = Verdict.ofResult? (b.conclude target j) := by
  simp only [Output.withoutStderr, Output.mk.injEq] at h
  obtain ⟨hs, ho, -⟩ := h
  simp only [conclude, hs, ho]
  split
  · split <;> rfl
  · rfl

theorem ofResult?_answer_congr (b : Backend) (target : Target) (c : Command) {a a' : Answer}
    (h : a'.outcome.map Output.withoutStderr = a.outcome.map Output.withoutStderr) :
    Verdict.ofResult? ((a'.invocation c).bind (b.conclude target)) =
      Verdict.ofResult? ((a.invocation c).bind (b.conclude target)) := by
  unfold Answer.invocation
  cases ha : a.outcome with
  | error f =>
    cases ha' : a'.outcome with
    | error f' =>
      rw [ha, ha'] at h
      cases h
      rfl
    | ok o' => rw [ha, ha'] at h; cases h
  | ok o =>
    cases ha' : a'.outcome with
    | error f' => rw [ha, ha'] at h; cases h
    | ok o' =>
      rw [ha, ha'] at h
      exact b.ofResult?_conclude_congr target (Except.ok.inj h)

/-- **The verdict of a verification.**  With a tool, a verification runs one
command and no other; its status and then its output decide how it ends, its
error stream does not, and a command that could not be run leaves no verdict.
Where nothing is built, nothing is run. -/
theorem upToDate_verdict (w : Workspace) (executor : Executor) (request : BuildRequest)
    (m : Machine) :
    (∀ (b : Backend) (program : Path), b.tool.path? = some program →
      let r := b.verificationRequest request
      let c := b.buildCommand w m r program
      let m' := m.logged (b.buildEvents w m r program)
      let outcome := (executor m' c).outcome
      let result := m.perform (b.upToDate w executor request)
      result.2.history = m.history ++ [⟨c, outcome⟩] ∧
      (∀ o, outcome = .ok o → Decides b request.target (.ofOutput c o) result.1) ∧
      (∀ failure, outcome = .error failure → result.1 = .error (.other failure)) ∧
      (∀ executor' : Executor,
        (executor' m' c).outcome.map Output.withoutStderr = outcome.map Output.withoutStderr →
          Verdict.ofResult? (m.perform (b.upToDate w executor' request)).1 =
            Verdict.ofResult? result.1)) ∧
    m.perform (gypd.upToDate w executor request) = (.error (.unsupported .gypd "build"), m) := by
  refine ⟨?_, rfl⟩
  intro b program h r c m' outcome result
  obtain ⟨es, hr⟩ := b.perform_upToDate m w executor h request
  have hresult : result.1 = ((executor m' c).invocation c).bind (b.conclude request.target) :=
    congrArg Prod.fst hr
  refine ⟨?_, ?_, ?_, ?_⟩
  · exact congrArg (fun r => r.2.history) hr
  · intro o ho
    have hi : (executor m' c).invocation c = .ok (.ofOutput c o) := by
      rw [Answer.invocation, show (executor m' c).outcome = .ok o from ho]
    rw [hresult, hi]
    exact b.decides_conclude request.target (.ofOutput c o)
  · intro failure hf
    rw [hresult, Answer.invocation, show (executor m' c).outcome = .error failure from hf]
    rfl
  · intro executor' ho
    obtain ⟨es', hr'⟩ := b.perform_upToDate m w executor' h request
    rw [hr', hresult]
    exact b.ofResult?_answer_congr request.target c ho

/-- A build that a signal ended has failed, though it printed what a build with
nothing to do prints. -/
theorem upToDate_verdict_of_signal :
    let b : Backend := .make (.found ⟨"/usr/bin/make"⟩)
    let w : Workspace := { workdir := ⟨"/work"⟩ }
    let executor : Executor := fun m _ =>
      { files := m.files
        outcome := .ok { status := none, stdout := Make.noOpOutput .all } }
    let m : Machine := { files := ⟨[]⟩ }
    b.tool.path? = some ⟨"/usr/bin/make"⟩ ∧
      ∃ command report,
        (m.perform (b.upToDate w executor { project := ⟨"p.gyp"⟩, target := .all })).1 =
          .error (.commandFailed command none report) := by
  intro b w executor m
  have h := (upToDate_verdict w executor { project := ⟨"p.gyp"⟩, target := .all } m).1 b
    ⟨"/usr/bin/make"⟩ rfl
  exact ⟨rfl, _, _, (h.2.1 _ rfl).failed_iff.mpr (by decide)⟩

end Backend

end CrossBuild
