import CrossBuild.Build.Request
import CrossBuild.Text.Blank
import CrossBuild.Text.Search

/-!
# Builds with Xcode

The arguments of a build, the noise that even a build with nothing to do
prints, and the layout of what is built.

Noise comes in two kinds: the block of a script phase, which runs in every
build, and the line with which a distributed compiler shuts down.  Blocks
are removed first, each at the first place where a whole one starts.
-/
namespace CrossBuild.Xcode

/-- The names of the tool, the preferred one first. -/
def candidates : List String := ["xcodebuild"]

/-- The project bundle of a project. -/
def projectBundle (project : Path) : Path :=
  project.withExtension "xcodeproj"

/-- The arguments that name a target. -/
def targetArguments : Target → List String
  | .default => []
  | .all => ["-alltargets"]
  | .named name => ["-target", name]

/-- The arguments that select a variant. -/
def configurationArguments (configuration : Configuration) : List String :=
  match configuration.name? with
  | some name => ["-configuration", name]
  | none => []

/-- The arguments of a build. -/
def arguments (configuration : Configuration) (request : BuildRequest) : List String :=
  request.options.arguments ++ ["-project", (projectBundle request.project).text] ++
    targetArguments request.target ++ configurationArguments configuration ++
    (request.options.symroot.value?.toList.map fun value => "SYMROOT=" ++ value)

/-! ## 1. Script phases -/

/-- A digit of a script's hashed name. -/
def isHashDigit (c : Char) : Bool :=
  ('0' ≤ c && c ≤ '9') || ('A' ≤ c && c ≤ 'F')

/-- Whether a text is an absolute path without blanks: a separator and at least
one more character. -/
def isPathText : List Char → Bool
  | '/' :: c :: cs => (c :: cs).all fun c => !Text.isBlank c
  | _ => false

/-- Whether a text is the path of a phase's script: a path text, then
`/Script-`, a hash and `.sh`. -/
def isScriptPath (cs : List Char) : Bool :=
  match Text.before? ".sh".toList cs with
  | none => false
  | some named =>
    let hash := named.reverse.takeWhile isHashDigit
    match Text.before? "/Script-".toList (named.reverse.dropWhile isHashDigit).reverse with
    | none => false
    | some folder => !hash.isEmpty && isPathText folder

/-- The first line of a text, without its line end, and what follows the line
end; none if there is no line end. -/
def line? : List Char → Option (List Char × List Char)
  | [] => none
  | c :: cs => if c = '\n' then some ([], cs) else (line? cs).map fun r => (c :: r.1, r.2)

/-- What follows the first line, if that line is `start` and then a text of the class. -/
def lineOf? (start : String) (valid : List Char → Bool) (cs : List Char) : Option (List Char) :=
  (line? cs).bind fun (line, rest) =>
    match Text.after? start.toList line with
    | some text => if valid text then some rest else none
    | none => none

/-- The line that a phase may end with. -/
def idleLine : List Char := "make: Nothing to be done for `all'.\n".toList

/-- What follows the block of a script phase, if one starts here. -/
def phaseBlock? : List Char → Option (List Char)
  | '\n' :: cs =>
    (lineOf? "PhaseScriptExecution " isScriptPath cs).bind fun cs =>
      (lineOf? "    cd " isPathText cs).bind fun cs =>
        (lineOf? "    /bin/sh -c " isScriptPath cs).map fun rest =>
          (Text.after? idleLine rest).getD rest
  | _ => none

theorem line?_length {cs line rest : List Char} (h : line? cs = some (line, rest)) :
    rest.length < cs.length := by
  induction cs generalizing line with
  | nil => simp [line?] at h
  | cons c cs ih =>
    by_cases hc : c = '\n'
    · simp [line?, hc] at h
      simp [h.2]
    · simp only [line?, hc, if_false, Option.map_eq_some_iff] at h
      obtain ⟨r, hr, he⟩ := h
      cases he
      exact Nat.lt_succ_of_lt (ih hr)

theorem lineOf?_length {start : String} {valid : List Char → Bool} {cs rest : List Char}
    (h : lineOf? start valid cs = some rest) : rest.length < cs.length := by
  simp only [lineOf?, Option.bind_eq_some_iff] at h
  obtain ⟨⟨line, after⟩, hl, h⟩ := h
  have hlt := line?_length hl
  revert h
  cases Text.after? start.toList line with
  | none => simp
  | some text =>
    simp only
    split
    · intro h
      cases h
      exact hlt
    · simp

/-- A block is not empty. -/
theorem phaseBlock?_length {cs rest : List Char} (h : phaseBlock? cs = some rest) :
    rest.length < cs.length := by
  unfold phaseBlock? at h
  split at h
  case h_2 => simp at h
  case h_1 cs =>
    simp only [Option.bind_eq_some_iff, Option.map_eq_some_iff] at h
    obtain ⟨a, ha, b, hb, c, hc, h⟩ := h
    have h1 := lineOf?_length ha
    have h2 := lineOf?_length hb
    have h3 := lineOf?_length hc
    have h4 : rest.length ≤ c.length := by
      cases hi : Text.after? idleLine c with
      | none =>
        simp only [hi, Option.getD_none] at h
        exact Nat.le_of_eq (congrArg List.length h.symm)
      | some r =>
        simp only [hi, Option.getD_some] at h
        rw [Text.after?_eq_some_iff] at hi
        subst hi h
        simp only [List.length_append]
        omega
    simp only [List.length_cons]
    omega

/-- A text without the blocks of script phases. -/
def withoutPhases (cs : List Char) : List Char :=
  match _h : phaseBlock? cs with
  | some rest => withoutPhases rest
  | none =>
    match cs with
    | [] => []
    | c :: cs => c :: withoutPhases cs
  termination_by cs.length
  decreasing_by
    · exact phaseBlock?_length _h
    · simp

/-! ## 2. The distributed compiler -/

/-- The line with which the distributed compiler shuts down. -/
def shutdownLine : List Char :=
  '_' :: "_________Shutting down distcc-pump include server\n".toList

/-- A text without the shutdown lines. -/
def withoutShutdown (cs : List Char) : List Char :=
  match _h : Text.after? shutdownLine cs with
  | some rest => withoutShutdown rest
  | none =>
    match cs with
    | [] => []
    | c :: cs => c :: withoutShutdown cs
  termination_by cs.length
  decreasing_by
    · rw [Text.after?_eq_some_iff] at _h
      simp only [_h, shutdownLine, List.cons_append, List.length_cons, List.length_append]
      omega
    · simp

/-! ## 3. The verdict -/

/-- A build's output without its noise. -/
def stripNoise (stdout : String) : String :=
  String.ofList (withoutShutdown (withoutPhases stdout.toList))

/-- How the output of a build with nothing to do ends, for each generation of
the tool. -/
def noOpEndings : List String :=
  ["Checking Dependencies...\n** BUILD SUCCEEDED **\n",
   "Check dependencies\n** BUILD SUCCEEDED **\n\n"]

/-- Whether a build's output, without its noise, is that of one with nothing to do. -/
def isNoOpOutput (stdout : String) : Bool :=
  noOpEndings.any (Text.endsWith (stripNoise stdout))

/-! ## 4. Layout -/

/-- The directory of everything that is built. -/
def buildFolder : String := "build"

/-- The directories above an artifact. -/
def layout (configuration : Configuration) : List String :=
  [buildFolder, configuration.directory]

/-- Where built programs find libraries. -/
def librarySearch (configuration : Configuration) : LibrarySearch :=
  ⟨"DYLD_LIBRARY_PATH", ((Path.mk buildFolder).join ⟨configuration.directory⟩).text⟩

end CrossBuild.Xcode
