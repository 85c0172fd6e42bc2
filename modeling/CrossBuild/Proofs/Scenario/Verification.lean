import CrossBuild.Proofs.Scenario.Situation

/-!
# Verification by a scenario and by its backend

A scenario verifies a build in steps of its own, because it records the
invocation before anything is concluded from it.  Its backend does the same
without a record.  The record is all that tells the two apart
(`Scenario.upToDate_agrees`): commands, log, files and outcome are the same.

Recording between the two parts of an operation commutes with the operation
(`Situation.perform_recording`), and whether there is something to record
can be read off the commands that were handed over (`Backend.build_ok_iff`).
-/
namespace CrossBuild

/-! ## 1. Recording -/

/-- A scenario after an operation that it records: an invocation that came back is the
last one, an error is not recorded. -/
def Scenario.recording (s : Scenario) (result : Except VerifyError Invocation) : Scenario :=
  { s with last := result.toOption <|> s.last }

/-- A record between the two parts of an operation changes what is recorded and
nothing else. -/
theorem Situation.perform_recording (x : Situation) (v : Verify Invocation)
    (k : Invocation → Verify Invocation) :
    x.perform (do
      let i ← Scenario.onMachine v
      Scenario.record i
      Scenario.onMachine (k i)) =
      ((x.machine.perform (v >>= k)).1,
        { scenario := x.scenario.recording (x.machine.perform v).1
          machine := (x.machine.perform (v >>= k)).2 }) := by
  simp only [perform_bind, perform_onMachine, Machine.perform_bind]
  rcases x.machine.perform v with ⟨result, m⟩
  cases result with
  | ok i =>
    simp only [perform_record]
    rfl
  | error e => rfl

/-! ## 2. What a build hands over -/

namespace Backend

variable (b : Backend) (w : Workspace) (executor : Executor) (m : Machine)

/-- A conclusion from an invocation hands over no command. -/
theorem runsNothing_check (target : Target) (i : Invocation) :
    RunsNothing (b.check target i) := by
  intro m
  by_cases hb : b = gypd
  · subst hb
    rw [check, Machine.perform_bind, Machine.perform_liftExcept]
    cases i.ensureSuccess <;> rfl
  · obtain ⟨es, he⟩ := b.perform_check m hb target i
    rw [he, Machine.logged_history]

/-- A verification hands over what its build hands over. -/
theorem history_upToDate (request : BuildRequest) :
    (m.perform (b.upToDate w executor request)).2.history =
      (m.perform (b.build w executor (b.verificationRequest request))).2.history := by
  rw [upToDate_eq, Machine.perform_bind]
  rcases m.perform (b.build w executor (b.verificationRequest request)) with ⟨result, m'⟩
  cases result with
  | ok i => exact b.runsNothing_check request.target i m'
  | error e => rfl

/-- A build returns an invocation exactly when it has handed over a command that left
an output, and then it is the invocation of that command. -/
theorem build_ok_iff (request : BuildRequest) (i : Invocation) :
    (m.perform (b.build w executor request)).1 = .ok i ↔
      ∃ c o, (m.perform (b.build w executor request)).2.history = m.history ++ [⟨c, .ok o⟩] ∧
        i = .ofOutput c o := by
  -- An operation that ends in an error of its own has handed over nothing.
  have hrefused {e : VerifyError} {es : List Event}
      (h : m.perform (b.build w executor request) = (.error e, m.logged es)) :
      (m.perform (b.build w executor request)).1 = .ok i ↔
        ∃ c o, (m.perform (b.build w executor request)).2.history =
          m.history ++ [⟨c, .ok o⟩] ∧ i = .ofOutput c o := by
    simp [h]
  by_cases hb : b = gypd
  · subst hb
    have h : m.perform (gypd.build w executor request) =
        (.error (.unsupported .gypd "build"), m.logged []) := by
      rw [perform_build_gypd, Machine.logged_nil]
    exact hrefused h
  · cases hp : b.tool.path? with
    | none => exact hrefused (b.perform_build_of_no_tool w executor m hb hp request)
    | some program =>
      rw [b.perform_build w executor m hp request, Machine.submit_history, Machine.submit,
        Answer.invocation, Machine.logged_history]
      cases (executor (m.logged (b.buildEvents w m request program))
          (b.buildCommand w m request program)).outcome with
      | ok o =>
        constructor
        · intro h
          exact ⟨_, o, rfl, (Except.ok.inj h).symm⟩
        · rintro ⟨c, o', hhistory, rfl⟩
          cases List.append_cancel_left hhistory
          rfl
      | error failure => simp

end Backend

/-! ## 3. The two verifications -/

/-- **A scenario verifies as its backend does.**  The outcome is the same, and so is the
machine that is left, its commands, log and files included.  The last invocation
becomes that of the build exactly when the build returned one, which it does
when its command left an output; nothing else of the scenario changes. -/
theorem Scenario.upToDate_agrees (x : Situation) (executor : Executor)
    (request : BuildRequest) :
    let s := x.scenario
    let built := x.machine.perform
      (s.backend.build s.workspace executor (s.backend.verificationRequest request))
    let verified := x.machine.perform (s.backend.upToDate s.workspace executor request)
    let result := x.perform (Scenario.upToDate executor request)
    result.1 = verified.1 ∧ result.2.machine = verified.2 ∧
      result.2.scenario = { s with last := built.1.toOption <|> s.last } ∧
      ∀ i, built.1 = .ok i ↔
        ∃ c o, verified.2.history = x.machine.history ++ [⟨c, .ok o⟩] ∧ i = .ofOutput c o := by
  intro s built verified result
  have hresult : result = (verified.1, ⟨s.recording built.1, verified.2⟩) :=
    (x.perform_upToDate request).trans (x.perform_recording _ (s.backend.check request.target))
  refine ⟨by rw [hresult], by rw [hresult], by rw [hresult]; rfl, fun i => ?_⟩
  have hhistory : verified.2.history = built.2.history :=
    s.backend.history_upToDate s.workspace executor x.machine request
  rw [hhistory]
  exact s.backend.build_ok_iff s.workspace executor x.machine
    (s.backend.verificationRequest request) i

end CrossBuild
