import CrossBuild.Proofs.Files.Way
import CrossBuild.Proofs.Scenario.LastOutput

/-!
# Assertions on artifacts

Four assertions look at the path of an artifact: it exists or it does not, and it has
certain contents or it has not.  Each is a check of its own, and each ends according to
what the path denotes: nothing, a file, or something that is no file.

So no artifact passes an assertion together with its negation, none that can be read
fails both, and what passes an assertion on its contents exists
(`Scenario.assertions_coherent`).  Looking changes nothing.
-/
namespace CrossBuild

/-! ## 1. Reading -/

namespace FileTree

variable {t : FileTree} {directory : Place} {p : Path}

/-- A path can be read exactly if it denotes a file. -/
theorem read_eq_ok_iff {data : ByteArray} :
    t.read directory p = .ok data ↔
      ∃ executable, t.entryAt directory p = .ok (.file data executable) := by
  rw [read]
  constructor
  · intro h
    split at h
    · rename_i data' executable hentry
      cases h
      exact ⟨executable, hentry⟩
    · cases h
    · cases h
  · rintro ⟨executable, hentry⟩
    rw [hentry]

theorem pathExists_of_read {data : ByteArray} (h : t.read directory p = .ok data) :
    t.pathExists directory p = true := by
  obtain ⟨executable, hentry⟩ := read_eq_ok_iff.mp h
  exact pathExists_iff.mpr ⟨_, hentry⟩

end FileTree

namespace Machine

theorem perform_readBytes (m : Machine) (p : Path) :
    m.perform (readBytes p) = ((m.read p).mapError (.readFile p), m) := by
  simp only [readBytes, perform_bind, perform_get]
  cases m.read p <;> rfl

end Machine

/-! ## 2. The four assertions -/

/-- What an assertion replies that has a finding, or none. -/
def AssertionFault.reply (finding : Option AssertionFault) : Except VerifyError Reply :=
  match finding with
  | none => .ok .done
  | some fault => .error (.assertionFailed fault)

theorem AssertionFault.reply_eq_ok_iff {finding : Option AssertionFault} :
    reply finding = .ok .done ↔ finding = none := by
  cases finding <;> simp [reply]

theorem Scenario.perform_assertNone (m : Machine) (finding : Option AssertionFault) :
    m.perform (do
      assertNone finding
      return Reply.done) = (AssertionFault.reply finding, m) := by
  cases finding <;> rfl

/-- What an assertion replies that reads a file before it looks for a finding. -/
def Machine.replyOnContents (m : Machine) (path : Path)
    (finding : ByteArray → Option AssertionFault) : Except VerifyError Reply :=
  match m.read path with
  | .ok data => AssertionFault.reply (finding data)
  | .error e => .error (.other (.readFile path e))

theorem Scenario.perform_assertContents (m : Machine) (path : Path)
    (finding : ByteArray → Option AssertionFault) :
    m.perform (do
      let data ← (readBytes path).verify
      assertNone (finding data)
      return Reply.done) = (m.replyOnContents path finding, m) := by
  simp only [Machine.perform_bind m (readBytes path).verify, Machine.perform_verify,
    Machine.perform_readBytes, Machine.replyOnContents]
  cases m.read path with
  | ok data => exact perform_assertNone m (finding data)
  | error e => rfl

namespace Situation

open AssertionFault (reply)

variable (x : Situation) (executor : Executor) (artifact : Artifact) (contents : ByteArray)

theorem step_inquire (q : Inquiry) :
    x.step executor (.inquire q) = ((x.machine.perform (q.perform x.scenario)).1,
      { x with machine := (x.machine.perform (q.perform x.scenario)).2 }) := by
  simp only [step, Step.perform, perform_getScenario_bind, perform_onMachine]

/-- The artifact is there, or it is reported as missing. -/
theorem step_mustExist :
    x.step executor (.inquire (.mustExist artifact)) =
      (reply (if x.machine.pathExists (x.scenario.artifactPath artifact) then none
        else some (.missing (x.scenario.artifactPath artifact))), x) := by
  rw [step_inquire, Inquiry.perform, Scenario.mustExist]
  simp only [bind_assoc, Machine.perform_bind x.machine (getThe Machine), Machine.perform_get,
    Scenario.perform_assertNone]

/-- The artifact is not there, or it is reported as unexpected. -/
theorem step_mustNotExist :
    x.step executor (.inquire (.mustNotExist artifact)) =
      (reply (if x.machine.pathExists (x.scenario.artifactPath artifact) then
        some (.unexpected (x.scenario.artifactPath artifact)) else none), x) := by
  rw [step_inquire, Inquiry.perform, Scenario.mustNotExist]
  simp only [bind_assoc, Machine.perform_bind x.machine (getThe Machine), Machine.perform_get,
    Scenario.perform_assertNone]

/-- The artifact has the contents, or it is reported to differ. -/
theorem step_mustMatch :
    x.step executor (.inquire (.mustMatch artifact contents)) =
      (x.machine.replyOnContents (x.scenario.artifactPath artifact) fun data =>
        if data = contents then none
        else some (.differs (x.scenario.artifactPath artifact)), x) := by
  rw [step_inquire, Inquiry.perform, Scenario.mustMatch]
  simp only [bind_assoc, Scenario.perform_assertContents]

/-- The artifact has other contents, or it is reported to agree. -/
theorem step_mustNotMatch :
    x.step executor (.inquire (.mustNotMatch artifact contents)) =
      (x.machine.replyOnContents (x.scenario.artifactPath artifact) fun data =>
        if data = contents then some (.agrees (x.scenario.artifactPath artifact))
        else none, x) := by
  rw [step_inquire, Inquiry.perform, Scenario.mustNotMatch]
  simp only [bind_assoc, Scenario.perform_assertContents]

end Situation

/-! ## 3. Coherence -/

section Contents

variable {m : Machine} {path : Path} (finding : ByteArray → Option AssertionFault)

theorem Machine.replyOnContents_of_file {data : ByteArray} {executable : Bool}
    (h : m.files.entryAt m.directory path = .ok (.file data executable)) :
    m.replyOnContents path finding = AssertionFault.reply (finding data) := by
  have hread : m.read path = .ok data := FileTree.read_eq_ok_iff.mpr ⟨executable, h⟩
  rw [replyOnContents, hread]

/-- What is no file cannot be read, whatever is looked for. -/
theorem Machine.replyOnContents_of_no_file
    (h : ∀ data executable, m.files.entryAt m.directory path ≠ .ok (.file data executable)) :
    ∃ e, ∀ finding, m.replyOnContents path finding = .error (.other (.readFile path e)) := by
  cases hread : m.read path with
  | error e => exact ⟨e, fun finding => by rw [replyOnContents, hread]⟩
  | ok data =>
    obtain ⟨executable, hentry⟩ := FileTree.read_eq_ok_iff.mp hread
    exact absurd hentry (h data executable)

theorem Machine.pathExists_of_replyOnContents (h : m.replyOnContents path finding = .ok .done) :
    m.pathExists path = true := by
  rw [replyOnContents] at h
  split at h
  · rename_i data hread
    exact FileTree.pathExists_of_read hread
  · cases h

end Contents

/-- What the four assertions on an artifact have to do with what its path denotes, and with each
other. -/
structure CoherentAssertions (x : Situation) (path : Path) (contents : ByteArray)
    (exist absent same other : Except VerifyError Reply × Situation) : Prop where
  /-- It exists or it does not. -/
  existence : exist.1 = .ok .done ↔ absent.1 ≠ .ok .done
  /-- A file has the contents, or it has not. -/
  matching : ∀ data executable,
    x.machine.files.entryAt x.machine.directory path = .ok (.file data executable) →
      (same.1 = .ok .done ↔ data = contents) ∧ (other.1 = .ok .done ↔ data ≠ contents)
  /-- What is no file cannot be read, for either of the two. -/
  unreadable : (∀ data executable,
    x.machine.files.entryAt x.machine.directory path ≠ .ok (.file data executable)) →
      ∃ e, same.1 = .error (.other (.readFile path e)) ∧
        other.1 = .error (.other (.readFile path e))
  /-- What can be looked into exists. -/
  exists_of_match : same.1 = .ok .done ∨ other.1 = .ok .done → exist.1 = .ok .done
  /-- Looking changes neither the machine nor the scenario. -/
  unchanged : exist.2 = x ∧ absent.2 = x ∧ same.2 = x ∧ other.2 = x

/-- **The assertions on an artifact are coherent.**  No artifact passes one together with its
negation, whatever its path denotes; both fail only where there is nothing to read, and then for
the same reason. -/
theorem Scenario.assertions_coherent (x : Situation) (executor : Executor) (artifact : Artifact)
    (contents : ByteArray) :
    CoherentAssertions x (x.scenario.artifactPath artifact) contents
      (x.step executor (.inquire (.mustExist artifact)))
      (x.step executor (.inquire (.mustNotExist artifact)))
      (x.step executor (.inquire (.mustMatch artifact contents)))
      (x.step executor (.inquire (.mustNotMatch artifact contents))) := by
  rw [x.step_mustExist, x.step_mustNotExist, x.step_mustMatch, x.step_mustNotMatch]
  constructor
  case existence =>
    cases x.machine.pathExists (x.scenario.artifactPath artifact) <;>
      simp [AssertionFault.reply]
  case matching =>
    intro data executable hfile
    rw [Machine.replyOnContents_of_file _ hfile, Machine.replyOnContents_of_file _ hfile,
      AssertionFault.reply_eq_ok_iff, AssertionFault.reply_eq_ok_iff]
    by_cases h : data = contents <;> simp [h]
  case unreadable =>
    intro hnone
    obtain ⟨e, hread⟩ := Machine.replyOnContents_of_no_file hnone
    exact ⟨e, hread _, hread _⟩
  case exists_of_match =>
    rintro (hsame | hother)
    · exact AssertionFault.reply_eq_ok_iff.mpr
        (if_pos (Machine.pathExists_of_replyOnContents _ hsame))
    · exact AssertionFault.reply_eq_ok_iff.mpr
        (if_pos (Machine.pathExists_of_replyOnContents _ hother))
  case unchanged => exact ⟨rfl, rfl, rfl, rfl⟩

end CrossBuild
