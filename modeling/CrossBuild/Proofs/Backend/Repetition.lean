import CrossBuild.Proofs.Backend.Verdict

/-!
# The build that a verification repeats

A verification runs the build that it is about once more.  Only one tool is
asked for something besides, to leave lines out of its output; the flag for
that stands right behind the arguments of the caller, which stand together in
every command, in front of all that the backend adds but the choice of a
makefile (`Backend.arguments_withArguments`).

`Backend.upToDate_repeats_build` compares the two commands.  They depend on
nothing that earlier builds or verifications could have left but the
makefile, so the options of the caller serve for any number of them.
-/
namespace CrossBuild

/-- A request with other arguments of the caller. -/
def BuildRequest.withArguments (r : BuildRequest) (extra : List String) : BuildRequest :=
  { r with options := { r.options with arguments := extra } }

namespace Backend

/-! ## 1. The arguments of the caller -/

/-- What a verification adds to the arguments of the caller. -/
def verificationArguments : Backend → List String
  | scons _ => [Scons.quietFlag]
  | _ => []

/-- The arguments in front of those of the caller: make is told which makefile to use
where it would find none. -/
def leadingArguments (b : Backend) (project : Path) (hasMakefile : Bool) : List String :=
  match b with
  | make _ => if hasMakefile then [] else ["-f", (Make.projectMakefile project).text]
  | _ => []

variable (b : Backend)

/-- The arguments of the caller stand together, and the others are those of a build
without any. -/
theorem arguments_withArguments (hb : b ≠ gypd) (configuration : Configuration)
    (request : BuildRequest) (extra : List String) (hasMakefile : Bool) :
    b.arguments configuration (request.withArguments extra) hasMakefile =
      b.leadingArguments request.project hasMakefile ++ extra ++
        b.arguments configuration (request.withArguments []) true := by
  cases b with
  | gypd => exact absurd rfl hb
  | make t =>
    simp only [arguments, Make.arguments, Make.plainArguments, BuildRequest.withArguments,
      leadingArguments, if_true, List.nil_append, List.append_assoc]
  | msvs t g =>
    simp only [arguments, Msvs.arguments, BuildRequest.withArguments, leadingArguments,
      List.nil_append, List.append_assoc]
    rfl
  | scons t =>
    simp only [arguments, Scons.arguments, BuildRequest.withArguments, leadingArguments,
      List.nil_append, List.append_assoc]
  | xcode t =>
    simp only [arguments, Xcode.arguments, BuildRequest.withArguments, leadingArguments,
      List.nil_append, List.append_assoc]

/-- Of the options, a verification extends the arguments and keeps the rest. -/
theorem verificationOptions_eq (options : BuildOptions) :
    b.verificationOptions options =
      { options with arguments := options.arguments ++ b.verificationArguments } := by
  cases b with
  | scons t => rfl
  | gypd | make t | msvs t g | xcode t =>
    simp only [verificationOptions, verificationArguments, List.append_nil]

theorem verificationRequest_eq (request : BuildRequest) :
    b.verificationRequest request =
      request.withArguments (request.options.arguments ++ b.verificationArguments) := by
  rw [verificationRequest, verificationOptions_eq, BuildRequest.withArguments]

/-! ## 2. The commands of a build and of a verification -/

variable (w : Workspace) (executor : Executor) (m : Machine)

/-- Where a build looks for a makefile does not depend on the arguments of the caller. -/
theorem findsMakefile_withArguments (request : BuildRequest) (extra : List String) :
    b.findsMakefile w m (request.withArguments extra).options =
      b.findsMakefile w m request.options := by
  cases b <;> rfl

theorem commands_build {program : Path} (h : b.tool.path? = some program)
    (request : BuildRequest) :
    (m.perform (b.build w executor request)).2.commands =
      m.commands ++ [b.buildCommand w m request program] := by
  rw [b.perform_build w executor m h request, Machine.commands, Machine.submit_history,
    List.map_append]
  rfl

theorem commands_upToDate {program : Path} (h : b.tool.path? = some program)
    (request : BuildRequest) :
    (m.perform (b.upToDate w executor request)).2.commands =
      m.commands ++ [b.buildCommand w m (b.verificationRequest request) program] := by
  obtain ⟨es, he⟩ := b.perform_upToDate m w executor h request
  rw [he, Machine.commands, Machine.logged_history, Machine.answered_history, List.map_append]
  rfl

theorem perform_upToDate_of_no_tool (hb : b ≠ gypd) (h : b.tool.path? = none)
    (request : BuildRequest) :
    m.perform (b.upToDate w executor request) =
      m.perform (b.build w executor (b.verificationRequest request)) := by
  rw [upToDate_eq, Machine.perform_bind, b.perform_build_of_no_tool w executor m hb h]

/-- The command of a build is told by the request, but for the makefile. -/
theorem buildCommand_congr {m m' : Machine} (request : BuildRequest) (program : Path)
    (h : b.findsMakefile w m' request.options = b.findsMakefile w m request.options) :
    b.buildCommand w m' request program = b.buildCommand w m request program := by
  rw [buildCommand, buildCommand, h]

/-- How the command of a verification compares with that of the build that it repeats. -/
structure Repeats (leading caller : List String) (built verified : Command) : Prop where
  /-- The program is the same. -/
  program : verified.program = built.program
  /-- So is the directory. -/
  directory : verified.directory = built.directory
  /-- So are the variables. -/
  environment : verified.environment = built.environment
  /-- The arguments of the caller stand together in both, followed in one by what the
  verification adds. -/
  arguments : ∃ own, built.arguments = leading ++ caller ++ own ∧
    verified.arguments = leading ++ caller ++ b.verificationArguments ++ own

theorem repeats_buildCommand (hb : b ≠ gypd) (request : BuildRequest) (program : Path) :
    b.Repeats (b.leadingArguments request.project (b.findsMakefile w m request.options))
      request.options.arguments (b.buildCommand w m request program)
      (b.buildCommand w m (b.verificationRequest request) program) := by
  rw [verificationRequest_eq]
  constructor
  case program => rfl
  case directory => rfl
  case environment => rfl
  case arguments =>
    have hown := b.arguments_withArguments hb w.configuration request
    refine ⟨_, hown request.options.arguments _, ?_⟩
    calc (b.buildCommand w m (request.withArguments
            (request.options.arguments ++ b.verificationArguments)) program).arguments
        = b.arguments w.configuration (request.withArguments
            (request.options.arguments ++ b.verificationArguments))
            (b.findsMakefile w m request.options) := by
          rw [buildCommand, findsMakefile_withArguments]
      _ = _ := by rw [hown, List.append_assoc (b.leadingArguments _ _) request.options.arguments]

/-! ## 3. The comparison -/

/-- **A verification repeats the build.**  With a tool, each of the two hands over one
command, and they differ by what the verification adds to the arguments of the
caller; without one, each fails in the same way and hands over nothing.  The
same request leads to the same two commands whenever the makefile is there
or missing as before, whatever was built or verified in between. -/
theorem upToDate_repeats_build (hb : b ≠ gypd) (request : BuildRequest) :
    let built := m.perform (b.build w executor request)
    let verified := m.perform (b.upToDate w executor request)
    let leading := b.leadingArguments request.project (b.findsMakefile w m request.options)
    (∀ program, b.tool.path? = some program → ∃ c c',
      built.2.commands = m.commands ++ [c] ∧ verified.2.commands = m.commands ++ [c'] ∧
      c.program = program ∧ b.Repeats leading request.options.arguments c c' ∧
      ∀ (m' : Machine) (executor' : Executor),
        b.findsMakefile w m' request.options = b.findsMakefile w m request.options →
          (m'.perform (b.build w executor' request)).2.commands = m'.commands ++ [c] ∧
          (m'.perform (b.upToDate w executor' request)).2.commands = m'.commands ++ [c']) ∧
    (b.tool.path? = none → verified = built ∧
      built.1 = .error (.toolNotFound b.format b.toolName []) ∧
      built.2.commands = m.commands) ∧
    b.verificationOptions request.options =
      { request.options with
        arguments := request.options.arguments ++ b.verificationArguments } := by
  intro built verified leading
  refine ⟨fun program hprogram => ?_, fun hnone => ?_, b.verificationOptions_eq request.options⟩
  · refine ⟨b.buildCommand w m request program,
      b.buildCommand w m (b.verificationRequest request) program,
      b.commands_build w executor m hprogram request,
      b.commands_upToDate w executor m hprogram request, rfl,
      b.repeats_buildCommand w m hb request program, fun m' executor' hmakefile => ⟨?_, ?_⟩⟩
    · rw [b.commands_build w executor' m' hprogram,
        b.buildCommand_congr w request program hmakefile]
    · have hmakefile' : b.findsMakefile w m' (b.verificationRequest request).options =
          b.findsMakefile w m (b.verificationRequest request).options := by
        simpa only [verificationRequest_eq, findsMakefile_withArguments] using hmakefile
      rw [b.commands_upToDate w executor' m' hprogram, b.buildCommand_congr w _ program hmakefile']
  · have hbuilt : built = _ := b.perform_build_of_no_tool w executor m hb hnone request
    have hverified : verified = _ := (b.perform_upToDate_of_no_tool w executor m hb hnone
      request).trans (b.perform_build_of_no_tool w executor m hb hnone _)
    refine ⟨?_, by rw [hbuilt], by rw [hbuilt]; rfl⟩
    rw [hverified, hbuilt, verificationRequest_eq, makefileEvents, findsMakefile_withArguments]
    rfl

/-- SCons is told to be quiet in a verification, behind the arguments of the caller and
in front of its own. -/
theorem upToDate_repeats_build_of_scons :
    let b : Backend := .scons (.found ⟨"/usr/bin/scons"⟩)
    let w : Workspace := { workdir := ⟨"/work"⟩, configuration := .ofName? (some "Release") }
    let executor : Executor := fun m _ => { files := m.files, outcome := .ok {} }
    let m : Machine := { files := ⟨[]⟩ }
    let request : BuildRequest :=
      { project := ⟨"src/p.gyp"⟩, target := .all, options := { arguments := ["-k"] } }
    b ≠ gypd ∧ b.tool.path? = some ⟨"/usr/bin/scons"⟩ ∧ ∃ c c',
      (m.perform (b.build w executor request)).2.commands = [c] ∧
      (m.perform (b.upToDate w executor request)).2.commands = [c'] ∧
      b.Repeats [] ["-k"] c c' ∧
      c.arguments = ["-k", "-C", "src", "--mode=Release", "all"] ∧
      c'.arguments = ["-k", "-Q", "-C", "src", "--mode=Release", "all"] := by
  intro b w executor m request
  have hb : b ≠ gypd := by decide
  obtain ⟨c, c', hbuilt, hverified, -, hrepeats, -⟩ :=
    (upToDate_repeats_build b w executor m hb request).1 ⟨"/usr/bin/scons"⟩ rfl
  have hc : [b.buildCommand w m request ⟨"/usr/bin/scons"⟩] = [c] := hbuilt
  have hc' : [b.buildCommand w m (b.verificationRequest request) ⟨"/usr/bin/scons"⟩] = [c'] :=
    hverified
  refine ⟨hb, rfl, c, c', hbuilt, hverified, hrepeats, ?_, ?_⟩
  · cases hc
    decide
  · cases hc'
    decide

end Backend

end CrossBuild
