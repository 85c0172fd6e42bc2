import CrossBuild.Proofs.Backend.ArtifactPath
import CrossBuild.Proofs.Path.Front

/-!
# Artifacts do not share a path

The path of an artifact is one text, put together of the directory of the build, the folders of
the layout and the file name.  On every platform the file name tells the kind of an artifact:
two kinds either have ends of which a text can have one only, or a library has
characters in front of its name and a program has the bare name, which is then
too short.  A name without a separator ends the text and can be cut off from it, and the
directory of the variant stands between texts that do not depend on it.
-/
namespace CrossBuild

open CrossBuild.Path (separator)

/-! ## 1. File names -/

/-- Two ends of which a text can have one only. -/
def EndsApart (s t : String) : Prop :=
  ¬s.toList <:+ t.toList ∧ ¬t.toList <:+ s.toList

theorem EndsApart.ne {s t : String} (h : EndsApart s t) {text text' : String}
    (hs : s.toList <:+ text.toList) (ht : t.toList <:+ text'.toList) : text ≠ text' := by
  rintro rfl
  exact (List.suffix_or_suffix_of_suffix hs ht).elim h.1 h.2

namespace Affixes

/-- The affixes of the platforms. -/
def platforms : List Affixes :=
  [windows, macos, unix]

/-- What stands in front of the name of an artifact. -/
def start (a : Affixes) : ArtifactKind → String
  | .staticLibrary => a.staticStart
  | .sharedLibrary => a.sharedStart
  | .executable | .unspecified => ""

/-- What stands behind the name of an artifact. -/
def finish (a : Affixes) : ArtifactKind → String
  | .executable => a.executableEnd
  | .staticLibrary => a.staticEnd
  | .sharedLibrary => a.sharedEnd
  | .unspecified => ""

variable {a : Affixes} {kind : ArtifactKind}

theorem fileName_eq (a : Affixes) (name : String) (kind : ArtifactKind) :
    a.fileName name kind false = a.start kind ++ name ++ a.finish kind := by
  cases kind <;> simp [fileName, start, finish]

theorem fileName_inj {name name' : String}
    (h : a.fileName name kind false = a.fileName name' kind false) : name = name' := by
  rwa [fileName_eq, fileName_eq, String.append_left_inj, String.append_right_inj] at h

theorem separator_notMem_fileName (ha : a ∈ platforms) {name : String}
    (hname : separator ∉ name.toList) (kind : ArtifactKind) :
    separator ∉ (a.fileName name kind false).toList := by
  have haffixes : ∀ a ∈ platforms, separator ∉ (a.start kind).toList ∧
      separator ∉ (a.finish kind).toList := by
    cases kind <;> decide
  obtain ⟨hstart, hfinish⟩ := haffixes a ha
  simp [fileName_eq, hname, hstart, hfinish]

theorem libraries_apart (ha : a ∈ platforms) : EndsApart a.staticEnd a.sharedEnd := by
  revert a
  unfold EndsApart
  decide

/-- A program is told from a library by its end, or it has its bare name and the library does
not. -/
theorem executable_apart (ha : a ∈ platforms)
    (hkind : kind = .staticLibrary ∨ kind = .sharedLibrary) :
    EndsApart a.executableEnd (a.finish kind) ∨
      a.executableEnd = "" ∧ a.start kind = "lib" := by
  revert a
  unfold EndsApart
  rcases hkind with rfl | rfl <;> decide

end Affixes

/-! ## 2. The folders above a file -/

namespace Backend

variable {b : Backend} {w : Workspace} {chdir : Option Path} {kind : ArtifactKind}

/-- A library lies in the folders of a program, or below them. -/
theorem layout_library (b : Backend) (c : Configuration) (name : String) (chdir : Option Path)
    (hkind : kind = .staticLibrary ∨ kind = .sharedLibrary) :
    ∃ more, b.layout c { name, kind, chdir } =
        b.layout c { name, kind := .executable, chdir } ++ more ∧
      ∀ folder ∈ more, (Path.mk folder).isAbsolute = false := by
  cases b with
  | gypd => exact ⟨[], rfl, by simp⟩
  | make tool =>
    rcases hkind with rfl | rfl
    · exact ⟨["obj.target"], rfl, by decide⟩
    · exact ⟨["lib.target"], rfl, by decide⟩
  | msvs tool generation =>
    rcases hkind with rfl | rfl
    · exact ⟨["lib"], rfl, by decide⟩
    · exact ⟨[], rfl, by simp⟩
  | scons tool => rcases hkind with rfl | rfl <;> exact ⟨["lib"], rfl, by decide⟩
  | xcode tool => exact ⟨[], rfl, by simp⟩

/-- The folder of the variant stands between folders that do not depend on it. -/
theorem layout_around (hb : b ≠ gypd) (name : String) (kind : ArtifactKind)
    (chdir : Option Path) :
    ∃ front back, (∀ c, b.layout c { name, kind, chdir } = front ++ c.directory :: back) ∧
      ∀ folder ∈ back, (Path.mk folder).isAbsolute = false := by
  cases b with
  | gypd => exact absurd rfl hb
  | make tool =>
    cases kind with
    | staticLibrary => exact ⟨["out"], ["obj.target"], fun c => rfl, by decide⟩
    | sharedLibrary => exact ⟨["out"], ["lib.target"], fun c => rfl, by decide⟩
    | executable | unspecified => exact ⟨["out"], [], fun c => rfl, by simp⟩
  | msvs tool generation =>
    cases kind with
    | staticLibrary => exact ⟨[], ["lib"], fun c => rfl, by decide⟩
    | executable | sharedLibrary | unspecified => exact ⟨[], [], fun c => rfl, by simp⟩
  | scons tool =>
    cases kind with
    | staticLibrary | sharedLibrary => exact ⟨[], ["lib"], fun c => rfl, by decide⟩
    | executable | unspecified => exact ⟨[], [], fun c => rfl, by simp⟩
  | xcode tool => exact ⟨["build"], [], fun c => rfl, by simp⟩

/-! ## 3. What a path tells -/

theorem suffix_artifactPath (b : Backend) (w : Workspace) (name : String) (kind : ArtifactKind)
    (chdir : Option Path) :
    (w.affixes.finish kind).toList <:+ (b.artifactPath w { name, kind, chdir }).text.toList := by
  have hfile : (w.affixes.finish kind).toList <:+
      (artifactFile w { name, kind, chdir }).text.toList := by
    rw [artifactFile, Affixes.fileName_eq, String.toList_append]
    exact List.suffix_append _ _
  rw [artifactPath_eq]
  exact hfile.trans (Path.suffix_join _ _)

/-- Where programs have their bare name and libraries do not, a program's path is the shorter
one. -/
theorem length_executable_lt (b : Backend) {name : String}
    (hkind : kind = .staticLibrary ∨ kind = .sharedLibrary) (hbare : w.affixes.executableEnd = "")
    (hstart : w.affixes.start kind = "lib") :
    (b.artifactPath w { name, kind := .executable, chdir }).text.length <
      (b.artifactPath w { name, kind, chdir }).text.length := by
  obtain ⟨more, hlayout, hmore⟩ := b.layout_library w.configuration name chdir hkind
  let folder := (w.runDirectory chdir).joinAll
    ((b.layout w.configuration { name, kind := .executable, chdir }).map Path.mk)
  let program := artifactFile w { name, kind := .executable, chdir }
  let library := artifactFile w { name, kind, chdir }
  have hprogram : program.text = name := by
    simp [program, artifactFile, Affixes.fileName, hbare]
  have hlibrary : library.text = "lib" ++ name ++ w.affixes.finish kind := by
    simp only [library, artifactFile, Affixes.fileName_eq, hstart]
  have hrelative : library.isAbsolute = false := by
    rw [Path.isAbsolute, hlibrary]
    simp [separator]
  have hmore' : ∀ q ∈ more.map Path.mk, q.isAbsolute = false := by simpa using hmore
  have hfolder : (b.artifactPath w { name, kind, chdir }) =
      (folder.joinAll (more.map Path.mk)).join library := by
    rw [artifactPath_eq, hlayout, List.map_append, Path.joinAll_append]
  calc (b.artifactPath w { name, kind := .executable, chdir }).text.length
      _ ≤ folder.text.length + 1 + program.text.length := by
        rw [artifactPath_eq]
        exact folder.length_join_le program
      _ < folder.text.length + library.text.length := by
        rw [hprogram, hlibrary, String.length_append, String.length_append]
        have hlib : "lib".length = 3 := rfl
        omega
      _ ≤ (folder.joinAll (more.map Path.mk)).text.length + library.text.length :=
        Nat.add_le_add_right (folder.length_le_joinAll hmore') _
      _ ≤ (b.artifactPath w { name, kind, chdir }).text.length := by
        rw [hfolder]
        exact Path.length_le_join _ hrelative

/-- A program does not lie where a library of its name does. -/
theorem executable_ne_library (b : Backend) (hw : w.affixes ∈ Affixes.platforms) (name : String)
    (chdir : Option Path) (hkind : kind = .staticLibrary ∨ kind = .sharedLibrary) :
    (b.artifactPath w { name, kind := .executable, chdir }).text ≠
      (b.artifactPath w { name, kind, chdir }).text := by
  rcases Affixes.executable_apart hw hkind with hends | ⟨hbare, hstart⟩
  · exact hends.ne (b.suffix_artifactPath w name .executable chdir)
      (b.suffix_artifactPath w name kind chdir)
  · intro h
    have hlt : (b.artifactPath w { name, kind := .executable, chdir }).text.length <
        (b.artifactPath w { name, kind, chdir }).text.length :=
      b.length_executable_lt hkind hbare hstart
    exact Nat.lt_irrefl _ (h ▸ hlt)

theorem static_ne_shared (b : Backend) (hw : w.affixes ∈ Affixes.platforms) (name : String)
    (chdir : Option Path) :
    (b.artifactPath w { name, kind := .staticLibrary, chdir }).text ≠
      (b.artifactPath w { name, kind := .sharedLibrary, chdir }).text :=
  (Affixes.libraries_apart hw).ne (b.suffix_artifactPath w name .staticLibrary chdir)
    (b.suffix_artifactPath w name .sharedLibrary chdir)

theorem isAbsolute_artifactFile (hw : w.affixes ∈ Affixes.platforms) {name : String}
    (hname : separator ∉ name.toList) (kind : ArtifactKind) (chdir : Option Path) :
    (artifactFile w { name, kind, chdir }).isAbsolute = false :=
  Path.isAbsolute_of_notMem (Affixes.separator_notMem_fileName hw hname kind)

/-- A name without a separator can be cut off from the path. -/
theorem name_of_artifactPath (b : Backend) (hw : w.affixes ∈ Affixes.platforms)
    {name name' : String} (hname : separator ∉ name.toList) (hname' : separator ∉ name'.toList)
    (h : (b.artifactPath w { name, kind, chdir }).text =
      (b.artifactPath w { name := name', kind, chdir }).text) : name = name' := by
  have hlayout : b.layout w.configuration { name := name', kind, chdir } =
      b.layout w.configuration { name, kind, chdir } := by
    cases b <;> rfl
  rw [artifactPath_eq, artifactPath_eq, hlayout] at h
  exact Affixes.fileName_inj (Path.text_join_inj (isAbsolute_artifactFile hw hname kind chdir)
    (isAbsolute_artifactFile hw hname' kind chdir) h)

/-- The directory of a variant is a part of the path, between parts that do not depend on it. -/
theorem exists_artifactPath_around (hb : b ≠ gypd) (hw : w.affixes ∈ Affixes.platforms)
    {name : String} (hname : separator ∉ name.toList) (kind : ArtifactKind)
    (chdir : Option Path) :
    ∃ above below : Path, below.isAbsolute = false ∧ ∀ c : Configuration,
      b.artifactPath { w with configuration := c } { name, kind, chdir } =
        above.join ((Path.mk c.directory).join below) := by
  obtain ⟨front, back, hlayout, hback⟩ := b.layout_around hb name kind chdir
  let file := artifactFile w { name, kind, chdir }
  have hparts : ∀ q ∈ back.map Path.mk ++ [file], q.isAbsolute = false := by
    simpa [or_imp, forall_and, file] using
      And.intro hback (isAbsolute_artifactFile hw hname kind chdir)
  obtain ⟨below, hbelow, hjoin⟩ := Path.exists_joinAll (by simp) hparts
  refine ⟨(w.runDirectory chdir).joinAll (front.map Path.mk), below, hbelow, fun c => ?_⟩
  have hall : (b.layout c { name, kind, chdir }).map Path.mk ++ [file] =
      front.map Path.mk ++ ⟨c.directory⟩ :: (back.map Path.mk ++ [file]) := by
    simp [hlayout]
  calc b.artifactPath { w with configuration := c } { name, kind, chdir }
      _ = (w.runDirectory chdir).joinAll
            ((b.layout c { name, kind, chdir }).map Path.mk ++ [file]) := artifactPath_eq_joinAll
      _ = ((w.runDirectory chdir).joinAll (front.map Path.mk)).joinAll
            (⟨c.directory⟩ :: (back.map Path.mk ++ [file])) := by rw [hall, Path.joinAll_append]
      _ = (((w.runDirectory chdir).joinAll (front.map Path.mk)).join ⟨c.directory⟩).joinAll
            (back.map Path.mk ++ [file]) := rfl
      _ = _ := by rw [Path.join_joinAll, hjoin]

theorem directory_of_artifactPath (hb : b ≠ gypd) (hw : w.affixes ∈ Affixes.platforms)
    {name : String} (hname : separator ∉ name.toList) {c d : Configuration}
    (hc : separator ∉ c.directory.toList) (hd : separator ∉ d.directory.toList)
    (h : (b.artifactPath { w with configuration := c } { name, kind, chdir }).text =
      (b.artifactPath { w with configuration := d } { name, kind, chdir }).text) :
    c.directory = d.directory := by
  obtain ⟨above, below, hbelow, hpath⟩ := b.exists_artifactPath_around hb hw hname kind chdir
  have hrelative {c : Configuration} (hc : separator ∉ c.directory.toList) :
      ((Path.mk c.directory).join below).isAbsolute = false := by
    rw [Path.isAbsolute_join, hbelow, Bool.or_false]
    exact Path.isAbsolute_of_notMem hc
  rw [hpath, hpath] at h
  exact Path.text_folder_join_inj hc hd hbelow
    (Path.text_join_inj (hrelative hc) (hrelative hd) h)

/-- **Different artifacts do not share a path.**  On every platform the program and the two
libraries of a name have three different paths, whatever the name.  Names without a separator
give different paths to artifacts of one kind, and so do the directories of two variants, where
the layout has a place for them. -/
theorem artifactPath_tells_apart (b : Backend) (w : Workspace)
    (hw : w.affixes ∈ Affixes.platforms) (chdir : Option Path) :
    (∀ name, let text (kind : ArtifactKind) := (b.artifactPath w { name, kind, chdir }).text
      text .executable ≠ text .staticLibrary ∧ text .executable ≠ text .sharedLibrary ∧
        text .staticLibrary ≠ text .sharedLibrary) ∧
    (∀ kind name name', separator ∉ name.toList → separator ∉ name'.toList → name ≠ name' →
      (b.artifactPath w { name, kind, chdir }).text ≠
        (b.artifactPath w { name := name', kind, chdir }).text) ∧
    (b ≠ gypd → ∀ kind name (c d : Configuration), separator ∉ name.toList →
      separator ∉ c.directory.toList → separator ∉ d.directory.toList →
      c.directory ≠ d.directory →
      (b.artifactPath { w with configuration := c } { name, kind, chdir }).text ≠
        (b.artifactPath { w with configuration := d } { name, kind, chdir }).text) := by
  refine ⟨fun name => ⟨?_, ?_, ?_⟩, fun kind name name' hname hname' hne => ?_,
    fun hb kind name c d hname hc hd hne => ?_⟩
  · exact b.executable_ne_library hw name chdir (.inl rfl)
  · exact b.executable_ne_library hw name chdir (.inr rfl)
  · exact b.static_ne_shared hw name chdir
  · exact mt (b.name_of_artifactPath hw hname hname') hne
  · exact mt (directory_of_artifactPath hb hw hname hc hd) hne

/-- Below a working directory that is not named, two compound variants, of which one has
no directory of its own, and two names of which one is empty. -/
theorem artifactPath_tells_apart_of_unnamed :
    let b : Backend := .make (.found ⟨"/usr/bin/make"⟩)
    let w : Workspace := { workdir := ⟨""⟩, affixes := .unix }
    let c := Configuration.ofName? (some "Release|x64")
    let d := Configuration.ofName? (some "|x64")
    w.affixes ∈ Affixes.platforms ∧ b ≠ gypd ∧ separator ∉ "".toList ∧ separator ∉ "a".toList ∧
      separator ∉ c.directory.toList ∧ separator ∉ d.directory.toList ∧
      c.directory ≠ d.directory ∧
      (b.artifactPath w { name := "", kind := .executable }).text ≠
        (b.artifactPath w { name := "a", kind := .executable }).text ∧
      (b.artifactPath { w with configuration := c } { name := "a", kind := .sharedLibrary }).text ≠
        (b.artifactPath { w with configuration := d }
          { name := "a", kind := .sharedLibrary }).text := by
  intro b w c d
  have hw : w.affixes ∈ Affixes.platforms := by decide
  have hb : b ≠ gypd := by decide
  have hempty : separator ∉ "".toList := by decide
  have hname : separator ∉ "a".toList := by decide
  have hc : separator ∉ c.directory.toList := by decide
  have hd : separator ∉ d.directory.toList := by decide
  have hne : c.directory ≠ d.directory := by decide
  obtain ⟨-, hnames, hvariants⟩ := artifactPath_tells_apart b w hw none
  exact ⟨hw, hb, hempty, hname, hc, hd, hne,
    hnames .executable "" "a" hempty hname (by decide),
    hvariants hb .sharedLibrary "a" c d hname hc hd hne⟩

end Backend

end CrossBuild
