import CrossBuild.Build.Make
import CrossBuild.Build.Msvs
import CrossBuild.Build.Xcode
import CrossBuild.Proofs.Path.Extension

/-!
# The files generated for one project

Three tools read a file of their own for each project: a makefile, a solution or a bundle.  It lies
beside the project and has its stem (`ProjectFile.generated_beside_project`), so projects of one
directory share a file only if they share the stem, and a name that begins with dots or holds
several of them is kept.

Only the names that `Path.LosesName` describes have no such file: for the project `dir/..gyp` all
three tools are given the directory `dir/..` (`ProjectFile.not_forall_generated_beside`).
-/
namespace CrossBuild

/-- What is generated for one project. -/
inductive ProjectFile where
  /-- The makefile of the project. -/
  | makefile
  /-- The solution for Visual Studio. -/
  | solution
  /-- The bundle for Xcode. -/
  | bundle
  deriving DecidableEq, Repr

namespace ProjectFile

/-- Where it is. -/
def path : ProjectFile → Path → Path
  | makefile => Make.projectMakefile
  | solution => Msvs.solution
  | bundle => Xcode.projectBundle

/-- The extension that tells it from the project. -/
def extension : ProjectFile → String
  | makefile => "Makefile"
  | solution => "sln"
  | bundle => "xcodeproj"

variable (file : ProjectFile)

theorem path_eq (project : Path) : file.path project = project.withExtension file.extension := by
  cases file <;> rfl

theorem isExtension_extension : Path.IsExtension file.extension.toList := by
  cases file <;> exact ⟨by decide, by decide, by decide⟩

/-- A name without a separator, written behind one, keeps all that is in front of its
extension. -/
theorem path_of_text (d : String) {s : String} (hne : s ≠ "") (hseparator : '/' ∉ s.toList)
    (hdot : s ≠ ".") :
    file.path ⟨d ++ "/" ++ s ++ ".gyp"⟩ = ⟨d ++ "/" ++ s ++ "." ++ file.extension⟩ := by
  have hstem : s.toList ≠ [] := fun h => hne (String.toList_eq_nil_iff.mp h)
  have hdots : s.toList ≠ ['.'] := fun h => hdot (String.toList_inj.mp h)
  have htext (ending : String) : (⟨d ++ "/" ++ s ++ "." ++ ending⟩ : Path) =
      Path.ofChars (d.toList ++ [Path.separator] ++ (s.toList ++ '.' :: ending.toList)) :=
    Path.ext_toList (by simp [Path.separator])
  have hending : ".gyp" = "." ++ "gyp" := by decide
  have hproject : d ++ "/" ++ s ++ ".gyp" = d ++ "/" ++ s ++ "." ++ "gyp" := by
    simp only [hending, String.append_assoc]
  have hpart := Path.LastPart.dotted (u := d.toList ++ [Path.separator]) (.inr ⟨_, rfl⟩) hstem
    hseparator (by decide : Path.separator ∉ "gyp".toList) (.inl hdots)
  have hdivides := Path.Divides.atDot hstem (by decide : '.' ∉ "gyp".toList)
  rw [path_eq, hproject, htext, htext, hpart.withExtension (by rwa [hdivides.stemOf_eq]),
    hdivides.stemOf_eq]

/-- **The files of a project stand beside it.**  Every project with a file name gets files in its
own directory, with its own stem and the extension of the tool, unless it loses its name.  Two
projects of one directory share them exactly if their stems are equal and both or none of them
loses its name.  A project `d/s.gyp` gets `d/s` with the other extension, for every stem that is
not a dot alone. -/
theorem generated_beside_project :
    (∀ project : Path, project.fileName?.isSome = true →
      ((file.path project).IsBeside project file.extension ↔ ¬project.LosesName)) ∧
    (∀ p q : Path, p.fileName?.isSome = true → q.fileName?.isSome = true →
      p.parent?.map Path.components = q.parent?.map Path.components →
      ((file.path p).components = (file.path q).components ↔
        p.fileStem? = q.fileStem? ∧ (p.LosesName ↔ q.LosesName))) ∧
    ∀ d s : String, s ≠ "" → '/' ∉ s.toList → s ≠ "." →
      file.path ⟨d ++ "/" ++ s ++ ".gyp"⟩ = ⟨d ++ "/" ++ s ++ "." ++ file.extension⟩ := by
  have he := file.isExtension_extension
  refine ⟨fun project hname => ?_, fun p q hp hq hdirectory => ?_, fun d s => file.path_of_text d⟩
  · obtain ⟨s, hs⟩ := Option.isSome_iff_exists.mp hname
    rw [path_eq]
    exact Path.isBeside_withExtension_iff hs he
  · obtain ⟨s, hs⟩ := Option.isSome_iff_exists.mp hp
    obtain ⟨t, ht⟩ := Option.isSome_iff_exists.mp hq
    rw [path_eq, path_eq]
    exact Path.components_withExtension_eq_iff hs ht hdirectory he

/-- A stem that begins with a dot, in a directory that is written in two ways, and a stem of
dots. -/
theorem generated_beside_project_of_dots :
    let p : Path := ⟨"a//.b.gyp/."⟩
    let q : Path := ⟨"a/./.b"⟩
    p.fileName?.isSome = true ∧ q.fileName?.isSome = true ∧ ¬p.LosesName ∧ ¬q.LosesName ∧
      p.parent?.map Path.components = q.parent?.map Path.components ∧
      p.fileStem? = q.fileStem? ∧
      (solution.path p).IsBeside p "sln" ∧
      (solution.path p).components = (solution.path q).components ∧
      solution.path ⟨"d" ++ "/" ++ ".." ++ ".gyp"⟩ = ⟨"d" ++ "/" ++ ".." ++ "." ++ "sln"⟩ := by
  intro p q
  obtain ⟨hbeside, hshared, htext⟩ := generated_beside_project solution
  have hp : p.fileName? = some ".b.gyp" := by decide
  have hq : q.fileName? = some ".b" := by decide
  have hkeeps : ¬p.LosesName := by
    rw [Path.losesName_iff hp]
    decide
  have hkeeps' : ¬q.LosesName := by
    rw [Path.losesName_iff hq]
    decide
  have hdirectory : p.parent?.map Path.components = q.parent?.map Path.components := by decide
  have hstem : p.fileStem? = q.fileStem? := by decide
  have hsome : p.fileName?.isSome = true := by rw [hp]; rfl
  have hsome' : q.fileName?.isSome = true := by rw [hq]; rfl
  exact ⟨hsome, hsome', hkeeps, hkeeps', hdirectory, hstem, (hbeside p hsome).mpr hkeeps,
    (hshared p q hsome hsome' hdirectory).mpr ⟨hstem, iff_of_false hkeeps hkeeps'⟩,
    htext "d" ".." (by decide) (by decide) (by decide)⟩

/-- **A name of two dots and an extension is lost.**  The makefile of `dir/..gyp` is the directory
`dir/..`, which is not beside the project; and `dir/..gyp/`, with the same stem in the same
directory, has another one. -/
theorem not_forall_generated_beside :
    (¬∀ (file : ProjectFile) (project : Path), project.fileName?.isSome = true →
      (file.path project).IsBeside project file.extension) ∧
    ¬∀ (file : ProjectFile) (p q : Path), p.fileName?.isSome = true →
      q.fileName?.isSome = true → p.parent?.map Path.components = q.parent?.map Path.components →
      ((file.path p).components = (file.path q).components ↔ p.fileStem? = q.fileStem?) := by
  constructor
  · intro h
    have hextension := (h makefile ⟨"dir/..gyp"⟩ (by decide)).extension
    exact absurd hextension (by decide)
  · intro h
    have hshared := (h makefile ⟨"dir/..gyp"⟩ ⟨"dir/..gyp/"⟩ (by decide) (by decide)
      (by decide)).mpr (by decide)
    exact absurd hshared (by decide)

end ProjectFile

end CrossBuild
