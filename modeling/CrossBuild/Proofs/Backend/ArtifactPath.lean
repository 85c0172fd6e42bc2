import CrossBuild.Proofs.Backend.LibrarySearch
import CrossBuild.Proofs.Scenario.Situation

/-!
# Where artifacts are

The path of an artifact is pushed together part by part: the working directory,
the subdirectory of the build, the folders of the backend's layout and the file
name.  A part that starts at the root would replace all that stands before it,
an empty one adds a separator only, and a `.` counts at the start of a path and
nowhere else.  So paths are compared by their steps, the components but for `.`,
which a join of relative parts simply appends (`Path.steps_join`).

With relative parts an artifact stays in the tree that its build runs in.  Its
path is a function of the texts alone: no machine has a part in it.
-/
namespace CrossBuild

/-! ## 1. Steps -/

namespace Path

/-- The components of a path, without the `.` that it may begin with. -/
def steps (p : Path) : List Component :=
  p.components.filter (· ≠ .here)

theorem below_filter (p : Path) : p.below.filter (· ≠ .here) = p.below := by
  rw [List.filter_eq_self]
  intro c hc
  rcases mem_below hc with rfl | ⟨s, rfl⟩ <;> simp

theorem steps_eq (p : Path) : p.steps = (if p.isAbsolute then [.root] else []) ++ p.below := by
  rw [steps, components_eq, List.filter_append, below_filter]
  congr 1
  cases hp : p.isAbsolute with
  | true =>
    rw [isAbsolute_iff_lead.mp hp]
    rfl
  | false =>
    rcases p.lead_cases with h | h | h
    · rw [h]
      rfl
    · rw [isAbsolute_iff_lead.mpr h] at hp
      cases hp
    · rw [h]
      rfl

/-- A relative path adds its steps to whatever it is joined onto, the empty path included. -/
theorem steps_join (p : Path) {q : Path} (hq : q.isAbsolute = false) :
    (p.join q).steps = p.steps ++ q.steps := by
  rw [steps_eq, steps_eq, steps_eq, below_join p hq, isAbsolute_join, hq, Bool.or_false,
    if_neg Bool.false_ne_true, List.nil_append, List.append_assoc]

theorem steps_joinAll (p : Path) {parts : List Path}
    (h : ∀ q ∈ parts, q.isAbsolute = false) :
    (p.joinAll parts).steps = p.steps ++ parts.flatMap steps := by
  induction parts generalizing p with
  | nil => simp [joinAll]
  | cons q parts ih =>
    have hrest := ih (p.join q) fun r hr => h r (List.mem_cons_of_mem q hr)
    rw [joinAll, List.foldl_cons]
    rw [joinAll] at hrest
    rw [hrest, steps_join p (h q List.mem_cons_self), List.flatMap_cons, List.append_assoc]

/-- What a relative path is joined onto is what the join starts with, and a `.` it may begin
with counts as well. -/
theorem components_prefix_join (p : Path) {q : Path} (hq : q.isAbsolute = false) :
    p.components <+: (p.join q).components := by
  by_cases hp : p.text = ""
  · obtain ⟨text⟩ := p
    cases hp
    exact List.nil_prefix
  · rw [components_join hp hq]
    exact List.prefix_append _ _

theorem components_prefix_joinAll (p : Path) {parts : List Path}
    (h : ∀ q ∈ parts, q.isAbsolute = false) :
    p.components <+: (p.joinAll parts).components := by
  induction parts generalizing p with
  | nil => exact List.prefix_rfl
  | cons q parts ih =>
    have hrest := ih (p.join q) fun r hr => h r (List.mem_cons_of_mem q hr)
    exact (p.components_prefix_join (h q List.mem_cons_self)).trans hrest

end Path

/-! ## 2. Variants -/

/-- A text up to its first bar. -/
def IsUpToBar (s text : List Char) : Prop :=
  '|' ∉ s ∧ (text = s ∨ ∃ rest, text = s ++ '|' :: rest)

theorem IsUpToBar.takeWhile {s text : List Char} (h : IsUpToBar s text) :
    text.takeWhile (· != '|') = s := by
  obtain ⟨hbar, htext⟩ := h
  have hs : ∀ c ∈ s, (c != '|') = true := fun c hc =>
    bne_iff_ne.mpr fun heq => hbar (heq ▸ hc)
  rcases htext with rfl | ⟨rest, rfl⟩
  · rw [← List.append_nil text, List.takeWhile_append_of_pos hs, List.takeWhile_nil,
      List.append_nil]
  · rw [List.takeWhile_append_of_pos hs, List.takeWhile_cons_of_neg (by decide), List.append_nil]

/-- Two configurations have names that are equal up to the first bar. -/
def Configuration.AgreesToBar (c d : Configuration) : Prop :=
  ∃ s, IsUpToBar s c.buildName.toList ∧ IsUpToBar s d.buildName.toList

theorem Configuration.AgreesToBar.directory_eq {c d : Configuration} (h : c.AgreesToBar d) :
    c.directory = d.directory := by
  obtain ⟨s, hc, hd⟩ := h
  rw [directory, directory, hc.takeWhile, hd.takeWhile]

/-! ## 3. The path of an artifact -/

namespace Backend

variable (b : Backend) (w : Workspace) (artifact : Artifact)

/-- Whether the library directory that an artifact asks for is used: by make alone, and for
libraries only. -/
def UsesLibdir : Prop :=
  (∃ tool, b = .make tool) ∧
    (artifact.kind = .staticLibrary ∨ artifact.kind = .sharedLibrary)

/-- No part of an artifact's path starts at the root, the working directory aside. -/
structure IsRelative : Prop where
  chdir : ∀ d, artifact.chdir = some d → d.isAbsolute = false
  variant : (Path.mk w.configuration.directory).isAbsolute = false
  libdir : b.UsesLibdir artifact → ∀ d, artifact.libdir = some d → (Path.mk d).isAbsolute = false
  file : (artifactFile w artifact).isAbsolute = false

/-- The folders of a layout, and the file below them. -/
def partsBelow : List Path :=
  (b.layout w.configuration artifact).map Path.mk ++ [artifactFile w artifact]

variable {b w artifact}

theorem artifactPath_eq_joinAll :
    b.artifactPath w artifact =
      (w.runDirectory artifact.chdir).joinAll (b.partsBelow w artifact) := by
  rw [artifactPath_eq, partsBelow, Path.joinAll, Path.joinAll, List.foldl_append]
  rfl

/-- A folder of a layout is the variant's, or one that is asked for, or has a fixed name. -/
theorem mem_layout {folder : String} (h : folder ∈ b.layout w.configuration artifact) :
    folder ∈ ["out", "build", "lib", "obj.target", "lib.target"] ∨
      folder = w.configuration.directory ∨ b.UsesLibdir artifact ∧ artifact.libdir = some folder := by
  cases b with
  | gypd => cases h
  | make tool =>
    simp only [layout, Make.layout, List.mem_append, List.mem_cons, List.not_mem_nil,
      or_false] at h
    rcases h with (rfl | rfl) | h
    · exact .inl (by decide)
    · exact .inr (.inl rfl)
    -- What is left is the folder of libraries.
    cases hkind : artifact.kind with
    | executable | unspecified => simp [Make.libraryFolder, hkind] at h
    | staticLibrary | sharedLibrary =>
      simp only [Make.libraryFolder, hkind, List.mem_singleton] at h
      cases hlibdir : artifact.libdir with
      | none =>
        rw [hlibdir] at h
        exact .inl (by rw [h]; decide)
      | some d =>
        rw [hlibdir] at h
        exact .inr (.inr ⟨⟨⟨tool, rfl⟩, by simp [hkind]⟩, congrArg some h.symm⟩)
  | msvs tool generation =>
    have hone : folder = w.configuration.directory ∨ folder = "lib" := by
      grind [layout, Msvs.layout]
    rcases hone with rfl | rfl <;> simp
  | scons tool =>
    have hone : folder = w.configuration.directory ∨ folder = "lib" := by
      grind [layout, Scons.layout, Scons.libraryFolder]
    rcases hone with rfl | rfl <;> simp
  | xcode tool =>
    simp only [layout, Xcode.layout, Xcode.buildFolder, List.mem_cons, List.not_mem_nil,
      or_false] at h
    rcases h with rfl | rfl <;> simp

theorem IsRelative.of_mem_layout (h : b.IsRelative w artifact) {folder : String}
    (hfolder : folder ∈ b.layout w.configuration artifact) :
    (Path.mk folder).isAbsolute = false := by
  have hfixed : ∀ name ∈ ["out", "build", "lib", "obj.target", "lib.target"],
      (Path.mk name).isAbsolute = false := by decide
  rcases mem_layout hfolder with hname | rfl | ⟨huses, hlibdir⟩
  · exact hfixed folder hname
  · exact h.variant
  · exact h.libdir huses folder hlibdir

theorem IsRelative.of_mem_partsBelow (h : b.IsRelative w artifact) :
    ∀ q ∈ b.partsBelow w artifact, q.isAbsolute = false := by
  intro q hq
  rcases List.mem_append.mp hq with hq | hq
  · obtain ⟨folder, hfolder, rfl⟩ := List.mem_map.mp hq
    exact h.of_mem_layout hfolder
  · rw [List.mem_singleton.mp hq]
    exact h.file

theorem IsRelative.workdir_prefix (h : b.IsRelative w artifact) :
    w.workdir.components <+: (w.runDirectory artifact.chdir).components := by
  cases hd : artifact.chdir with
  | none => exact List.prefix_rfl
  | some d => exact w.workdir.components_prefix_join (h.chdir d hd)

/-- Only make has a place for the library directory that an artifact asks for. -/
theorem layout_libdir (configuration : Configuration) {libdir : Option String}
    (h : ¬b.UsesLibdir artifact) :
    b.layout configuration { artifact with libdir } = b.layout configuration artifact := by
  cases b with
  | make tool =>
    cases hkind : artifact.kind with
    | staticLibrary => exact absurd ⟨⟨tool, rfl⟩, .inl hkind⟩ h
    | sharedLibrary => exact absurd ⟨⟨tool, rfl⟩, .inr hkind⟩ h
    | executable | unspecified => simp only [layout, Make.layout, Make.libraryFolder, hkind]
  | gypd | msvs | scons | xcode => rfl

/-- A layout, and the search for libraries, go by the directory of the variant. -/
theorem layout_congr {c d : Configuration} (h : c.directory = d.directory) :
    b.layout c artifact = b.layout d artifact ∧ b.librarySearch? c = b.librarySearch? d := by
  cases b with
  | gypd => exact ⟨rfl, rfl⟩
  | make tool =>
    simp only [layout, librarySearch?, Make.layout, Make.librarySearch, h, and_self]
  | msvs tool generation => simp only [layout, librarySearch?, Msvs.layout, h, and_self]
  | scons tool =>
    simp only [layout, librarySearch?, Scons.layout, Scons.librarySearch, h, and_self]
  | xcode tool =>
    simp only [layout, librarySearch?, Xcode.layout, Xcode.librarySearch, h, and_self]

/-- **Artifacts stay in the tree that their build runs in.**  With relative parts the path of an
artifact goes, step by step, from the directory that a build with the same subdirectory
runs in through the folders of the layout to the file, and it starts with the working
directory.  The library directory that an artifact asks for matters to make's libraries
alone, and a variant matters up to its first bar.  Every machine gives the same path. -/
theorem artifactPath_below_runDirectory (b : Backend) (w : Workspace) (artifact : Artifact) :
    (b.IsRelative w artifact →
      (b.artifactPath w artifact).steps =
          (w.runDirectory artifact.chdir).steps ++
            (b.layout w.configuration artifact).flatMap (fun folder => (Path.mk folder).steps) ++
            (artifactFile w artifact).steps ∧
        w.workdir.components <+: (b.artifactPath w artifact).components) ∧
    (∀ (executor : Executor) (m : Machine) (request : BuildRequest) (program : Path),
      b.tool.path? = some program → request.options.chdir = artifact.chdir →
      ∃ c events, m.perform (b.build w executor request) = (m.logged events).submit executor c ∧
        c.directory = some (w.runDirectory artifact.chdir)) ∧
    (∀ libdir, ¬b.UsesLibdir artifact →
      b.artifactPath w { artifact with libdir } = b.artifactPath w artifact) ∧
    (∀ c : Configuration, c.AgreesToBar w.configuration →
      b.artifactPath { w with configuration := c } artifact = b.artifactPath w artifact ∧
        b.librarySearch? c = b.librarySearch? w.configuration) ∧
    ∀ (s : Scenario) (m : Machine), s.backend = b → s.workspace = w →
      m.perform (Inquiry.perform s (.artifactPath artifact)) =
        (.ok (.path (b.artifactPath w artifact)), m) := by
  refine ⟨fun h => ⟨?_, ?_⟩, fun executor m request program htool hchdir => ?_,
    fun libdir h => ?_, fun c hc => ?_, ?_⟩
  · have hparts : (b.partsBelow w artifact).flatMap Path.steps =
        (b.layout w.configuration artifact).flatMap (fun folder => (Path.mk folder).steps) ++
          (artifactFile w artifact).steps := by
      rw [partsBelow, List.flatMap_append, List.flatMap_map, List.flatMap_singleton]
    rw [artifactPath_eq_joinAll, Path.steps_joinAll _ h.of_mem_partsBelow, hparts,
      List.append_assoc]
  · rw [artifactPath_eq_joinAll]
    exact h.workdir_prefix.trans (Path.components_prefix_joinAll _ h.of_mem_partsBelow)
  · exact ⟨_, _, b.perform_build w executor m htool request, by rw [buildCommand, hchdir]⟩
  · rw [artifactPath_eq, artifactPath_eq, layout_libdir _ h]
    rfl
  · have hsame : b.layout c artifact = b.layout w.configuration artifact ∧
        b.librarySearch? c = b.librarySearch? w.configuration := layout_congr hc.directory_eq
    refine ⟨?_, hsame.2⟩
    rw [artifactPath_eq, artifactPath_eq, hsame.1]
    rfl
  · rintro s m rfl rfl
    rfl

/-- A shared library of a compound variant, in a subdirectory that is written as `./sub/` below
a working directory that is not named. -/
theorem artifactPath_below_runDirectory_of_unnamed :
    let w : Workspace :=
      { workdir := ⟨""⟩, configuration := .ofName? (some "Release|x64"), affixes := .unix }
    let b : Backend := .make (.found ⟨"/usr/bin/make"⟩)
    let artifact : Artifact :=
      { name := "b", kind := .sharedLibrary, chdir := some ⟨"./sub/"⟩, libdir := some "lib.host" }
    b.IsRelative w artifact ∧
      (b.artifactPath w artifact).steps =
        [.name "sub", .name "out", .name "Release", .name "lib.host", .name "libb.so"] ∧
      b.artifactPath { w with configuration := .ofName? (some "Release") } artifact =
        b.artifactPath w artifact := by
  intro w b artifact
  have hrelative : b.IsRelative w artifact := by
    refine ⟨fun d hd => ?_, by decide, fun _ d hd => ?_, by decide⟩ <;> cases hd <;> decide
  have hbar : (Configuration.ofName? (some "Release")).AgreesToBar w.configuration :=
    ⟨"Release".toList, ⟨by decide, .inl (by decide)⟩, ⟨by decide, .inr ⟨"x64".toList, by decide⟩⟩⟩
  obtain ⟨hbelow, -, -, hvariant, -⟩ := artifactPath_below_runDirectory b w artifact
  refine ⟨hrelative, ?_, (hvariant _ hbar).1⟩
  rw [(hbelow hrelative).1]
  decide

end Backend

end CrossBuild
