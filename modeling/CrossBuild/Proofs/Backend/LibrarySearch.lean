import CrossBuild.Proofs.Backend.Command
import CrossBuild.Proofs.Path.Parent

/-!
# Where built programs find their libraries

The value of a library search variable and the layout of shared libraries are
computed apart: the first is a text relative to the directory that a program
runs in, the second is pushed part by part onto the working directory.  They
name the same directory for every variant and every subdirectory, since
joins can be regrouped (`Path.join_assoc`).

A built program is run where its libraries are meant to be found, with that
one variable set for it alone.
-/
namespace CrossBuild

/-! ## 1. The directory that a value names -/

/-- The directory of a build's own libraries that the value of a search
variable names.  Make searches those of the host tools before those of the
targets. -/
inductive NamesFolder : Backend → LibrarySearch → Path → Prop where
  /-- Both directories of make are spelled with one text. -/
  | make (tool : ToolResolution) (name folder : String) :
    NamesFolder (.make tool) ⟨name, folder ++ ".host:" ++ folder ++ ".target"⟩
      ⟨folder ++ ".target"⟩
  /-- For SCons the value is the directory. -/
  | scons (tool : ToolResolution) (search : LibrarySearch) :
    NamesFolder (.scons tool) search ⟨search.value⟩
  /-- For Xcode the value is the directory. -/
  | xcode (tool : ToolResolution) (search : LibrarySearch) :
    NamesFolder (.xcode tool) search ⟨search.value⟩

/-- More characters after a relative part are more characters of the join. -/
theorem Path.text_join_append (p : Path) {s t : String} (hs : (Path.mk s).isAbsolute = false)
    (hst : (Path.mk (s ++ t)).isAbsolute = false) :
    (p.join ⟨s⟩).text ++ t = (p.join ⟨s ++ t⟩).text := by
  simp only [join, hs, hst, Bool.false_eq_true, if_false]
  split <;> simp [String.append_assoc]

namespace Backend

/-- The file name of an artifact. -/
def artifactFile (w : Workspace) (artifact : Artifact) : Path :=
  ⟨w.affixes.fileName artifact.name artifact.kind artifact.bare⟩

/-- An artifact of a subdirectory is below the directory that its build runs in: the path of the
one and the directory of the other are put together by two definitions, and agree. -/
theorem artifactPath_eq (b : Backend) (w : Workspace) (artifact : Artifact) :
    b.artifactPath w artifact =
      ((w.runDirectory artifact.chdir).joinAll
        ((b.layout w.configuration artifact).map Path.mk)).join (artifactFile w artifact) := by
  have hstart : w.workdir.joinAll artifact.chdir.toList = w.runDirectory artifact.chdir := by
    cases hchdir : artifact.chdir <;> rfl
  rw [artifactPath, Workspace.artifactPath, ← hstart]
  simp only [Path.joinAll, List.foldl_append, artifactFile]
  rfl

/-- A shared library lies in the directory that the search variable names, as
seen from where programs of the same subdirectory run. -/
theorem artifactPath_sharedLibrary (b : Backend) (w : Workspace) (artifact : Artifact)
    {search : LibrarySearch} (hs : b.librarySearch? w.configuration = some search)
    (hkind : artifact.kind = .sharedLibrary) (hlibdir : artifact.libdir = none) :
    ∃ folder, NamesFolder b search folder ∧ folder.text ≠ "" ∧
      b.artifactPath w artifact =
        ((w.runDirectory artifact.chdir).join folder).join (artifactFile w artifact) := by
  let variant : Path := ⟨w.configuration.directory⟩
  cases b with
  | gypd => cases hs
  | msvs tool generation => cases hs
  | make tool =>
    cases hs
    let folder := ((Path.mk "out").join variant).join ⟨"lib"⟩
    have htarget : folder.text ++ ".target" =
        (((Path.mk "out").join variant).join ⟨"lib.target"⟩).text :=
      Path.text_join_append _ (by decide) (by decide)
    refine ⟨⟨folder.text ++ ".target"⟩, .make tool _ folder.text, by simp, ?_⟩
    rw [htarget, ← Path.join_assoc, ← Path.join_assoc]
    simp only [artifactPath_eq, layout, Make.layout, Make.libraryFolder, hkind, hlibdir,
      Option.getD_none, List.cons_append, List.nil_append, List.map_cons, List.map_nil,
      Path.joinAll, List.foldl_cons, List.foldl_nil, variant]
  | scons tool =>
    cases hs
    have hfolder : Path.mk (Scons.librarySearch w.configuration).value =
        variant.join ⟨Scons.libraryFolder⟩ := by
      simp only [Scons.librarySearch, variant]
    have hnames := NamesFolder.scons tool (Scons.librarySearch w.configuration)
    rw [hfolder] at hnames
    refine ⟨_, hnames, Path.text_join_ne_empty (.inr (by decide)), ?_⟩
    rw [← Path.join_assoc]
    simp only [artifactPath_eq, layout, Scons.layout, hkind, List.map_cons, List.map_nil,
      Path.joinAll, List.foldl_cons, List.foldl_nil, variant]
  | xcode tool =>
    cases hs
    have hfolder : Path.mk (Xcode.librarySearch w.configuration).value =
        (Path.mk Xcode.buildFolder).join variant := by
      simp only [Xcode.librarySearch, variant]
    have hnames := NamesFolder.xcode tool (Xcode.librarySearch w.configuration)
    rw [hfolder] at hnames
    refine ⟨_, hnames, Path.text_join_ne_empty (.inl (by decide)), ?_⟩
    rw [← Path.join_assoc]
    simp only [artifactPath_eq, layout, Xcode.layout, List.map_cons, List.map_nil, Path.joinAll,
      List.foldl_cons, List.foldl_nil, variant]

/-- The directory that holds a shared library is the one that the search
variable names. -/
theorem parent?_sharedLibrary (b : Backend) (w : Workspace) (artifact : Artifact)
    {search : LibrarySearch} {file : String}
    (hs : b.librarySearch? w.configuration = some search)
    (hkind : artifact.kind = .sharedLibrary) (hlibdir : artifact.libdir = none)
    (hfile : (artifactFile w artifact).components = [.name file]) :
    ∃ folder holder, NamesFolder b search folder ∧
      (b.artifactPath w artifact).parent? = some holder ∧
      holder.components = ((w.runDirectory artifact.chdir).join folder).components := by
  obtain ⟨folder, hnames, hne, hpath⟩ :=
    b.artifactPath_sharedLibrary w artifact hs hkind hlibdir
  obtain ⟨hrel, hbelow⟩ := Path.below_of_name hfile
  have hcomp : (b.artifactPath w artifact).components =
      ((w.runDirectory artifact.chdir).join folder).components ++ [.name file] := by
    rw [hpath, Path.components_join (Path.text_join_ne_empty (.inr hne)) hrel, hbelow]
  obtain ⟨holder, hparent, hholder⟩ := Path.parent?_components hcomp
  exact ⟨folder, holder, hnames, hparent, hholder⟩

/-! ## 2. The run of a built program -/

/-- The library search of a backend that runs programs, if it is not the one
without a variable of its own. -/
theorem librarySearch?_cases (b : Backend) (hb : b ≠ gypd) (configuration : Configuration) :
    (∃ tool generation, b = .msvs tool generation) ∧ b.librarySearch? configuration = none ∨
      ∃ search, b.librarySearch? configuration = some search := by
  cases b with
  | gypd => exact absurd rfl hb
  | msvs tool generation => exact .inl ⟨⟨tool, generation, rfl⟩, rfl⟩
  | make tool => exact .inr ⟨_, rfl⟩
  | scons tool => exact .inr ⟨_, rfl⟩
  | xcode tool => exact .inr ⟨_, rfl⟩

/-- **Programs find the libraries that were built with them.**  The directory
that holds a shared library has the components of the directory that the
search variable names, seen from the directory that programs of the same
subdirectory run in.  A built program runs there, with the caller's
arguments, and with that variable and no other set for it. -/
theorem librarySearch_agrees_with_layout (w : Workspace) :
    (∀ (b : Backend) (artifact : Artifact) (search : LibrarySearch) (file : String),
      b.librarySearch? w.configuration = some search →
      artifact.kind = .sharedLibrary → artifact.libdir = none →
      (artifactFile w artifact).components = [.name file] →
      ∃ folder holder, NamesFolder b search folder ∧
        (b.artifactPath w artifact).parent? = some holder ∧
        holder.components = ((w.runDirectory artifact.chdir).join folder).components) ∧
    (∀ (b : Backend) (executor : Executor) (name : String) (options : RunOptions) (m : Machine),
      b ≠ gypd →
      ∃ c events, m.perform (b.run w executor name options) = (m.logged events).submit executor c ∧
        c.program = b.artifactPath w { name, kind := .executable, chdir := options.chdir } ∧
        c.directory = some (w.runDirectory options.chdir) ∧
        c.arguments = options.arguments ∧
        ((∃ tool generation, b = .msvs tool generation) ∧ c.environment = [] ∨
          ∃ search, b.librarySearch? w.configuration = some search ∧
            c.environment = [(search.name, search.value)])) := by
  refine ⟨fun b artifact search file hs hkind hlibdir hfile =>
    b.parent?_sharedLibrary w artifact hs hkind hlibdir hfile, ?_⟩
  intro b executor name options m hb
  refine ⟨_, _, b.perform_run w executor m hb name options, rfl, rfl, rfl, ?_⟩
  rcases b.librarySearch?_cases hb w.configuration with ⟨hmsvs, hnone⟩ | ⟨search, hs⟩
  · left
    refine ⟨hmsvs, ?_⟩
    simp only [Workspace.placed, runCommand, hnone]
    rfl
  · right
    refine ⟨search, hs, ?_⟩
    simp only [Workspace.placed, runCommand, hs]
    rfl

/-- A library of a compound variant, built in a subdirectory that is written
with more separators than it needs. -/
theorem librarySearch_agrees_with_layout_of_compound :
    let w : Workspace :=
      { workdir := ⟨"/work/"⟩, configuration := .ofName? (some "Release|x64"), affixes := .unix }
    let artifact : Artifact := { name := "b", kind := .sharedLibrary, chdir := some ⟨"sub//."⟩ }
    let b : Backend := .make (.found ⟨"/usr/bin/make"⟩)
    (artifactFile w artifact).components = [.name "libb.so"] ∧ b ≠ gypd ∧
      ∃ folder holder, NamesFolder b (Make.librarySearch w.configuration) folder ∧
        (b.artifactPath w artifact).parent? = some holder ∧
        holder.components = ((w.runDirectory (some ⟨"sub//."⟩)).join folder).components := by
  intro w artifact b
  have hfile : (artifactFile w artifact).components = [.name "libb.so"] := by decide
  exact ⟨hfile, by decide,
    (librarySearch_agrees_with_layout w).1 b artifact _ "libb.so" rfl rfl rfl hfile⟩

end Backend

end CrossBuild
