import CrossBuild.Programs
import CrossBuild.Proofs.Backend.LibrarySearch

/-!
# Which program a run starts

The path of a built program is made from the working directory, and so is the
directory that the program is run in.  The system takes a relative program
path from the directory of the run, so the two computations meet: what is
started is the artifact exactly when the path does not depend on where it is
seen from, or the run does not change the place (`ProgramPathHolds`).

A relative working directory with a name in it is neither.  The program is
then looked for below that name twice.
-/
namespace CrossBuild

/-! ## 1. Paths that start at the root -/

/-- A path means the same below a directory as where that one is seen from, if it
starts at the root or the directory names no other place. -/
theorem Path.components_seen_from_iff {base d p : Path} (hbase : base.isAbsolute = true)
    (hd : p.isAbsolute = false → d.isAbsolute = false) :
    ((base.join d).join p).components = (base.join p).components ↔
      p.isAbsolute = true ∨ ∀ c ∈ d.components, c = .here := by
  cases hp : p.isAbsolute with
  | true =>
    rw [join_of_isAbsolute _ hp, join_of_isAbsolute _ hp]
    exact iff_of_true rfl (.inl rfl)
  | false =>
    have hne : base.text ≠ "" := text_ne_empty_of_isAbsolute hbase
    have hrel := hd hp
    rw [components_join (text_join_ne_empty (.inl hne)) hp, components_join hne hrel,
      components_join hne hp, List.append_assoc, List.append_cancel_left_eq,
      List.append_left_eq_self, below_eq_nil_iff hrel]
    simp only [Bool.false_eq_true, false_or]

theorem Workspace.isAbsolute_runDirectory (w : Workspace) (chdir : Option Path) :
    (w.runDirectory chdir).isAbsolute = (w.workdir.isAbsolute || chdir.any Path.isAbsolute) := by
  cases chdir with
  | none => simp [runDirectory]
  | some d => simp [runDirectory, Path.isAbsolute_join]

namespace Backend

/-- The artifact that a run starts. -/
def program (name : String) (options : RunOptions) : Artifact :=
  { name, kind := .executable, chdir := options.chdir }

/-- Of the directories above a program only that of the variant can start at the root. -/
theorem any_isAbsolute_layout {b : Backend} (hb : b ≠ gypd) (configuration : Configuration)
    (name : String) (options : RunOptions) :
    ((b.layout configuration (program name options)).map Path.mk).any Path.isAbsolute =
      (Path.mk configuration.directory).isAbsolute := by
  have hout : (Path.mk "out").isAbsolute = false := by decide
  have hbuild : (Path.mk "build").isAbsolute = false := by decide
  cases b with
  | gypd => exact absurd rfl hb
  | make tool => simp [layout, Make.layout, Make.libraryFolder, program, hout]
  | msvs tool generation => simp [layout, Msvs.layout, program]
  | scons tool => simp [layout, Scons.layout, program]
  | xcode tool => simp [layout, Xcode.layout, Xcode.buildFolder, hbuild]

end Backend

/-! ## 2. Where the system looks -/

/-- Where the system looks for the program of a command: below the directory
that it is run in, which is seen from the directory of the process. -/
def Command.located (base : Path) (c : Command) : Path :=
  (c.directory.elim base base.join).join c.program

namespace Backend

/-- When the path of a program means the same to the system in the directory of
the run as where the scenario was started. -/
def ProgramPathHolds (w : Workspace) (name : String) (options : RunOptions) : Prop :=
  w.workdir.isAbsolute = true ∨ options.chdir.any Path.isAbsolute = true ∨
    (Path.mk w.configuration.directory).isAbsolute = true ∨
    (artifactFile w (program name options)).isAbsolute = true ∨
    ∀ c ∈ (w.runDirectory options.chdir).components, c = .here

theorem isAbsolute_program {b : Backend} (hb : b ≠ gypd) (w : Workspace) (name : String)
    (options : RunOptions) :
    (b.artifactPath w (program name options)).isAbsolute =
      ((w.runDirectory options.chdir).isAbsolute ||
        (Path.mk w.configuration.directory).isAbsolute ||
        (artifactFile w (program name options)).isAbsolute) := by
  rw [artifactPath_eq, Path.isAbsolute_join, Path.isAbsolute_joinAll, any_isAbsolute_layout hb]
  rfl

/-- **When a run starts the artifact.**  The run of a built program hands over one
command, and the system finds the artifact's path for it, component by
component, exactly when that path holds from the directory of the run. -/
theorem starts_artifact_iff (b : Backend) (w : Workspace) (executor : Executor) (m : Machine)
    (hb : b ≠ gypd) (name : String) (options : RunOptions) {base : Path}
    (hbase : base.isAbsolute = true) :
    ∃ c events, m.perform (b.run w executor name options) = (m.logged events).submit executor c ∧
      ((c.located base).components =
          (base.join (b.artifactPath w (program name options))).components ↔
        ProgramPathHolds w name options) := by
  refine ⟨_, _, b.perform_run w executor m hb name options, ?_⟩
  let d := w.runDirectory options.chdir
  let artifact := b.artifactPath w (program name options)
  have hlocated : (w.placed (b.runCommand w name options) options.chdir).located base =
      (base.join d).join artifact := rfl
  have hartifact : artifact.isAbsolute = _ := isAbsolute_program hb w name options
  have hd : artifact.isAbsolute = false → d.isAbsolute = false := by
    intro h
    rw [hartifact, Bool.or_eq_false_iff, Bool.or_eq_false_iff] at h
    exact h.1.1
  rw [hlocated, Path.components_seen_from_iff hbase hd, hartifact,
    Workspace.isAbsolute_runDirectory]
  simp only [Bool.or_eq_true, or_assoc, ProgramPathHolds]
  exact Iff.rfl

/-- A run from an absolute working directory, in a subdirectory. -/
theorem starts_artifact_iff_of_absolute :
    let w : Workspace := { workdir := ⟨"/work"⟩, configuration := .unset, affixes := .unix }
    let b : Backend := .scons (.found ⟨"/usr/bin/scons"⟩)
    let options : RunOptions := { chdir := some ⟨"sub"⟩ }
    b ≠ gypd ∧ (Path.mk "/home").isAbsolute = true ∧ ProgramPathHolds w "hello" options ∧
      ∃ c events, (default : Machine).perform (b.run w Programs.executor "hello" options) =
          ((default : Machine).logged events).submit Programs.executor c ∧
        (c.located ⟨"/home"⟩).components =
          ((Path.mk "/home").join (b.artifactPath w (program "hello" options))).components := by
  intro w b options
  have hb : b ≠ gypd := by decide
  have hbase : (Path.mk "/home").isAbsolute = true := by decide
  have hholds : ProgramPathHolds w "hello" options := .inl (by decide)
  obtain ⟨c, events, hrun, hiff⟩ :=
    starts_artifact_iff b w Programs.executor default hb "hello" options hbase
  exact ⟨hb, hbase, hholds, c, events, hrun, hiff.mpr hholds⟩

/-- **A relative working directory is entered twice.**  Not every run starts the
artifact: below a working directory `w`, the program is looked for in `w/w`. -/
theorem not_forall_starts_artifact :
    ¬ ∀ (b : Backend) (w : Workspace) (executor : Executor) (m : Machine) (name : String)
        (options : RunOptions) (base : Path), b ≠ gypd → base.isAbsolute = true →
        ∃ c events, m.perform (b.run w executor name options) =
            (m.logged events).submit executor c ∧
          (c.located base).components =
            (base.join (b.artifactPath w (program name options))).components := by
  intro h
  let w : Workspace := { workdir := ⟨"w"⟩, configuration := .unset, affixes := .unix }
  let b : Backend := .scons (.found ⟨"/usr/bin/scons"⟩)
  have hb : b ≠ gypd := by decide
  obtain ⟨c, events, hrun, hcomponents⟩ :=
    h b w Programs.executor default "hello" {} ⟨"/home"⟩ hb (by decide)
  have hhistory := congrArg (fun x => x.2.history.map (·.command))
    ((b.perform_run w Programs.executor default hb "hello" {}).symm.trans hrun)
  have hc : w.placed (b.runCommand w "hello" {}) none = c := by
    simpa using hhistory
  rw [← hc] at hcomponents
  exact absurd hcomponents (by decide)

end Backend

end CrossBuild
