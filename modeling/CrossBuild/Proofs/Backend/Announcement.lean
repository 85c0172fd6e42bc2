import CrossBuild.Proofs.Backend.Verdict
import CrossBuild.Proofs.Text.Cut
import CrossBuild.Proofs.Text.Words
import CrossBuild.Proofs.Xcode.ScriptPhase

/-!
# Outputs that name what is up to date

Make names one word when it has nothing to do, and SCons names one word in
each line (`Backend.Names`).  Words are free texts: those of SCons may hold
quotes and parts of a line, but no blanks, and so a line is known from what
stands in front of its second blank.  An output therefore names one list of
words, and a list of words is named by one output (`Names.words_unique`,
`Names.output_unique`).

An output that is accepted for a target thus names the words that the target
stands for, and these are the arguments with which it was built
(`noOpOutput_names_target`).  A target of blanks stands for no words with
SCons.  The output that names none is silence, which is then accepted
(`checkUpToDate_silent`).
-/
namespace CrossBuild

/-- A target as its tool spells it, where nothing named is everything. -/
def Target.spelling : Target → String
  | .default | .all => "all"
  | .named name => name

namespace Backend

/-! ## 1. Words and outputs -/

/-- The words that a target stands for: to make it is one word, to SCons a list of them. -/
inductive StandsFor : Backend → Target → List String → Prop where
  | make (tool : ToolResolution) (target : Target) :
    StandsFor (.make tool) target [target.spelling]
  | scons (tool : ToolResolution) {target : Target} {words : List String}
    (spaced : Text.Spaced target.spelling.toList (words.map String.toList)) :
    StandsFor (.scons tool) target words

/-- The tools that name what is up to date. -/
inductive NamesTargets : Backend → Prop where
  | make (tool : ToolResolution) : NamesTargets (.make tool)
  | scons (tool : ToolResolution) : NamesTargets (.scons tool)

/-- The words that an output names as up to date. -/
inductive Names : Backend → String → List String → Prop where
  | make (tool : ToolResolution) (word : String) :
    Names (.make tool) ("make: Nothing to be done for `" ++ word ++ "'.\n") [word]
  | sconsEnd (tool : ToolResolution) : Names (.scons tool) "" []
  | sconsLine {tool : ToolResolution} {word rest : String} {words : List String}
    (unbroken : Text.Unbroken word.toList) (more : Names (.scons tool) rest words) :
    Names (.scons tool) ("scons: `" ++ word ++ "' is up to date.\n" ++ rest) (word :: words)

/-- A line about a word is known from the text that it begins. -/
theorem sconsLine_inj {word word' rest rest' : String} (hword : Text.Unbroken word.toList)
    (hword' : Text.Unbroken word'.toList)
    (h : "scons: `" ++ word ++ "' is up to date.\n" ++ rest =
      "scons: `" ++ word' ++ "' is up to date.\n" ++ rest') : word = word' ∧ rest = rest' := by
  have hquoted {word : String} (hword : Text.Unbroken word.toList) :
      ∀ c ∈ word.toList ++ ['\''], (!Text.isBlank c) = true := by
    intro c hc
    rcases List.mem_append.mp hc with hc | hc
    · simp [hword c hc]
    · cases List.mem_singleton.mp hc
      decide
  have hends (rest : String) :
      ∀ c ∈ (" is up to date.\n".toList ++ rest.toList).head?, (!Text.isBlank c) = false := by
    intro c hc
    cases hc
    decide
  have hline (word rest : String) :
      ("scons: `" ++ word ++ "' is up to date.\n" ++ rest).toList =
        "scons: `".toList ++
          ((word.toList ++ ['\'']) ++ (" is up to date.\n".toList ++ rest.toList)) := by
    simp
  -- The word and its quote are a run without blanks, whatever quotes the word holds.
  have hlist := congrArg String.toList h
  rw [hline, hline] at hlist
  obtain ⟨hwords, hrests⟩ := Text.run_unique (hquoted hword) (hquoted hword') (hends rest)
    (hends rest') (List.append_cancel_left hlist)
  exact ⟨String.toList_inj.mp (List.append_cancel_right hwords),
    String.toList_inj.mp (List.append_cancel_left hrests)⟩

theorem makeLine_ne_empty (word : String) :
    "make: Nothing to be done for `" ++ word ++ "'.\n" ≠ "" := by
  simp [String.append_eq_empty_iff]

theorem sconsLine_ne_empty (word rest : String) :
    "scons: `" ++ word ++ "' is up to date.\n" ++ rest ≠ "" := by
  simp [String.append_eq_empty_iff]

namespace Names

variable {b : Backend} {out out' : String} {words words' : List String}

theorem words_unique (h : Names b out words) (h' : Names b out words') : words = words' := by
  induction h generalizing words' with
  | make tool word =>
    generalize hout : "make: Nothing to be done for `" ++ word ++ "'.\n" = out at h'
    cases h' with
    | make _ word' =>
      rw [String.append_left_inj, String.append_right_inj] at hout
      rw [hout]
  | sconsEnd tool =>
    generalize hout : "" = out at h'
    cases h' with
    | sconsEnd => rfl
    | sconsLine => exact absurd hout.symm (sconsLine_ne_empty _ _)
  | @sconsLine tool word rest words hword more ih =>
    generalize hout : "scons: `" ++ word ++ "' is up to date.\n" ++ rest = out at h'
    cases h' with
    | sconsEnd => exact absurd hout (sconsLine_ne_empty _ _)
    | sconsLine hword' more' =>
      obtain ⟨rfl, rfl⟩ := sconsLine_inj hword hword' hout
      rw [ih more']

theorem output_unique (h : Names b out words) (h' : Names b out' words) : out = out' := by
  induction h generalizing out' with
  | make tool word => cases h'; rfl
  | sconsEnd tool => cases h'; rfl
  | sconsLine hword more ih =>
    cases h' with
    | sconsLine hword' more' => rw [ih more']

/-- The lines about a list of words name these words. -/
theorem lines (tool : ToolResolution) (h : ∀ word ∈ words, Text.Unbroken word.toList) :
    Names (.scons tool)
      (String.join (words.map fun word => "scons: `" ++ word ++ "' is up to date.\n")) words := by
  induction words with
  | nil => exact .sconsEnd tool
  | cons word words ih =>
    rw [List.map_cons, String.join_cons]
    exact .sconsLine (h word List.mem_cons_self) (ih fun w hw => h w (List.mem_cons_of_mem word hw))

end Names

/-! ## 2. The words of a target -/

theorem scons_targetWords_eq (target : Target) :
    Scons.targetWords target = Text.words target.spelling := by
  cases target with
  | default | all => rfl
  | named name => rfl

theorem standsFor_scons_iff {tool : ToolResolution} {target : Target} {words : List String} :
    StandsFor (.scons tool) target words ↔ Scons.targetWords target = words := by
  rw [scons_targetWords_eq, Text.words_eq_iff]
  constructor
  · rintro ⟨⟩
    assumption
  · exact .scons tool

theorem standsFor_make_iff {tool : ToolResolution} {target : Target} {words : List String} :
    StandsFor (.make tool) target words ↔ [Make.targetWord target] = words := by
  have hspelling : target.spelling = Make.targetWord target := by
    cases target <;> rfl
  rw [← hspelling]
  constructor
  · rintro ⟨⟩
    rfl
  · rintro rfl
    exact .make tool target

variable {b : Backend} {target : Target} {out : String} {words : List String}

/-- With a tool that names words, an output for a target names the words of the target. -/
theorem names_iff_standsFor (hb : NamesTargets b) (h : NoOpOutput b target out) :
    Names b out words ↔ StandsFor b target words := by
  cases hb with
  | make tool =>
    cases h
    have hnames : Names (.make tool) (Make.noOpOutput target) [Make.targetWord target] :=
      .make tool (Make.targetWord target)
    rw [standsFor_make_iff]
    exact ⟨hnames.words_unique, fun hwords => hwords ▸ hnames⟩
  | scons tool =>
    cases h
    have hnames : Names (.scons tool) (Scons.noOpOutput target) (Scons.targetWords target) := by
      refine .lines tool fun word hword => ?_
      rw [scons_targetWords_eq] at hword
      exact Text.unbroken_of_mem_words hword
    rw [standsFor_scons_iff]
    exact ⟨hnames.words_unique, fun hwords => hwords ▸ hnames⟩

/-- Every target stands for some words, and has an output. -/
theorem exists_standsFor (hb : NamesTargets b) (target : Target) :
    ∃ words out, StandsFor b target words ∧ NoOpOutput b target out := by
  cases hb with
  | make tool => exact ⟨_, _, standsFor_make_iff.mpr rfl, .make tool target⟩
  | scons tool => exact ⟨_, _, standsFor_scons_iff.mpr rfl, .scons tool target⟩

/-- An output that names words is the one for a target exactly if the target stands for
them. -/
theorem Names.noOpOutput_iff (hb : NamesTargets b) (h : Names b out words) :
    NoOpOutput b target out ↔ StandsFor b target words := by
  constructor
  · intro hout
    exact (names_iff_standsFor hb hout).mp h
  · intro hwords
    obtain ⟨-, out', -, hout'⟩ := exists_standsFor hb target
    have h' := (names_iff_standsFor hb hout').mpr hwords
    rwa [h.output_unique h']

/-- So the output for one target is the output for another exactly if both stand for the
same words. -/
theorem noOpOutput_iff_standsFor (hb : NamesTargets b) {other : Target}
    (h : NoOpOutput b target out) :
    NoOpOutput b other out ↔ ∃ words, StandsFor b target words ∧ StandsFor b other words := by
  constructor
  · intro hother
    obtain ⟨words, -, hwords, -⟩ := exists_standsFor hb target
    have hnames := (names_iff_standsFor hb h).mpr hwords
    exact ⟨words, hwords, (hnames.noOpOutput_iff hb).mp hother⟩
  · rintro ⟨words, hwords, hother⟩
    have hnames := (names_iff_standsFor hb h).mpr hwords
    exact (hnames.noOpOutput_iff hb).mpr hother

/-! ## 3. The words of a target on the command line -/

/-- The words of a target that is named are what it adds to the arguments of a build. -/
theorem standsFor_iff_arguments (hb : NamesTargets b)
    (htarget : target ≠ .default) (configuration : Configuration) (request : BuildRequest)
    (hasMakefile : Bool) :
    StandsFor b target words ↔
      b.arguments configuration { request with target } hasMakefile =
        b.arguments configuration { request with target := .default } hasMakefile ++ words := by
  cases hb with
  | make tool =>
    have htargetArguments : Make.targetArguments target = [Make.targetWord target] := by
      cases target with
      | default => exact absurd rfl htarget
      | all | named => rfl
    have hdefault : Make.targetArguments .default = [] := rfl
    simp only [arguments, Make.arguments, Make.plainArguments, htargetArguments, hdefault,
      List.append_nil, List.append_assoc, List.append_right_inj, standsFor_make_iff]
  | scons tool =>
    have htargetArguments : Scons.targetArguments target = Scons.targetWords target := by
      cases target with
      | default => exact absurd rfl htarget
      | all | named => rfl
    have hdefault : Scons.targetArguments .default = [] := rfl
    simp only [arguments, Scons.arguments, htargetArguments, hdefault, List.append_nil,
      List.append_assoc, List.append_right_inj, standsFor_scons_iff]

/-- **An output with nothing to do names the target that was built.**  With make and SCons,
the output for one target is accepted for another exactly if both stand for the same
words; and the words that an accepted output names, in order and with repetitions,
are what the target added to the arguments of the build, unless it was left to the
tool. -/
theorem noOpOutput_names_target (hb : NamesTargets b) (m : Machine)
    (i : Invocation) :
    (∀ target other, NoOpOutput b target i.output.stdout →
      ((m.perform (b.checkUpToDate other i)).1 = .ok i ↔
        ∃ words, StandsFor b target words ∧ StandsFor b other words)) ∧
    (∀ target, target ≠ .default → (m.perform (b.checkUpToDate target i)).1 = .ok i →
      ∀ (configuration : Configuration) (request : BuildRequest) (hasMakefile : Bool)
        (words : List String),
        Names b i.output.stdout words ↔
          b.arguments configuration { request with target } hasMakefile =
            b.arguments configuration { request with target := .default } hasMakefile ++
              words) := by
  have hgypd : b ≠ gypd := by
    rintro rfl
    cases hb
  constructor
  · intro target other h
    rw [checkUpToDate_eq_ok_iff b m hgypd, noOpOutput_iff_standsFor hb h]
  · intro target htarget haccepted configuration request hasMakefile words
    rw [checkUpToDate_eq_ok_iff b m hgypd] at haccepted
    rw [names_iff_standsFor hb haccepted, standsFor_iff_arguments hb htarget]

/-- The output for a target with a repeated word and quotes is accepted for another spelling
of it, and names the arguments that either adds. -/
theorem noOpOutput_names_target_of_quotes :
    let b : Backend := .scons (.found ⟨"/usr/bin/scons"⟩)
    let target : Target := .named "a' b a'"
    let other : Target := .named " a'\tb  a'"
    let i : Invocation :=
      { command := "scons -Q", directory := ⟨"/work"⟩
        output := { status := some 0, stdout := Scons.noOpOutput target } }
    let request : BuildRequest := { project := ⟨"p.gyp"⟩ }
    NamesTargets b ∧ NoOpOutput b target i.output.stdout ∧
      other ≠ .default ∧ ((default : Machine).perform (b.checkUpToDate other i)).1 = .ok i ∧
      Names b i.output.stdout ["a'", "b", "a'"] ∧
      b.arguments .unset { request with target := other } true =
        b.arguments .unset { request with target := .default } true ++ ["a'", "b", "a'"] := by
  intro b target other i request
  have hb : NamesTargets b := .scons _
  have hnoOp : NoOpOutput b target i.output.stdout := .scons _ target
  have hother : other ≠ .default := by decide
  have hwords : StandsFor b target ["a'", "b", "a'"] := standsFor_scons_iff.mpr (by decide)
  have hwords' : StandsFor b other ["a'", "b", "a'"] := standsFor_scons_iff.mpr (by decide)
  obtain ⟨haccepts, hnames⟩ := noOpOutput_names_target hb default i
  have haccepted := (haccepts target other hnoOp).mpr ⟨_, hwords, hwords'⟩
  have harguments := (standsFor_iff_arguments hb hother .unset request true).mp hwords'
  exact ⟨hb, hnoOp, hother, haccepted,
    (hnames other hother haccepted .unset request true _).mpr harguments, harguments⟩

/-! ## 4. Silence -/

/-- A target that asks for nothing: with SCons, one that is named by blanks. -/
def AsksForNothing (b : Backend) (target : Target) : Prop :=
  b.format = .scons ∧ ∃ name, target = .named name ∧ Text.Blanks name.toList

theorem standsFor_nil_iff {tool : ToolResolution} :
    StandsFor (.scons tool) target [] ↔ AsksForNothing (.scons tool) target := by
  rw [standsFor_scons_iff]
  cases target with
  | default | all => simp [Scons.targetWords, AsksForNothing]
  | named name => simp [Scons.targetWords, AsksForNothing, format, Text.words_eq_nil_iff]

/-- Silence is the output of a build with nothing to do only where nothing was asked for. -/
theorem noOpOutput_empty_iff : NoOpOutput b target "" ↔ AsksForNothing b target := by
  have hother (hnoOp : b.isNoOp target "" = false) (hb : b.format ≠ .scons) :
      NoOpOutput b target "" ↔ AsksForNothing b target := by
    rw [← isNoOp_iff, hnoOp]
    exact iff_of_false Bool.false_ne_true fun h => hb h.1
  cases b with
  | scons tool => rw [(Names.sconsEnd tool).noOpOutput_iff (.scons tool), standsFor_nil_iff]
  | gypd => exact hother rfl (by rintro ⟨⟩)
  | make tool =>
    have hspoken : Make.noOpOutput target ≠ "" := makeLine_ne_empty (Make.targetWord target)
    refine hother ?_ (by rintro ⟨⟩)
    rw [isNoOp, beq_eq_false_iff_ne]
    exact hspoken.symm
  | msvs tool generation =>
    have hcount : Msvs.upToDateCount? "" = none := by decide
    refine hother ?_ (by rintro ⟨⟩)
    simp [isNoOp, hcount]
  | xcode tool =>
    have hclean : Xcode.stripNoise "" = "" := by
      rw [Xcode.stripNoise, String.toList_empty, Xcode.removes_phases.nil,
        Xcode.removes_shutdown.nil]
    have hmarker : Xcode.noOpEndings.any (Text.endsWith "") = false := by decide
    refine hother ?_ (by rintro ⟨⟩)
    rw [isNoOp, Xcode.isNoOpOutput, hclean, hmarker]

/-- **Silence is work, unless nothing was asked for.**  With every tool, a build that printed
nothing is rejected as work, but for one case: a target that is named by blanks
stands for no words with SCons, and silence is all that is expected of it. -/
theorem checkUpToDate_silent (hb : b ≠ gypd) (target : Target) (m : Machine) (i : Invocation)
    (hi : i.output.stdout = "") :
    ((m.perform (b.checkUpToDate target i)).1 =
        .error (.notUpToDate b.format i.command i.report) ↔ ¬AsksForNothing b target) ∧
    ((m.perform (b.checkUpToDate target i)).1 = .ok i ↔ AsksForNothing b target) := by
  rw [checkUpToDate_eq_error_iff b m hb, checkUpToDate_eq_ok_iff b m hb, hi, noOpOutput_empty_iff]
  exact ⟨Iff.rfl, Iff.rfl⟩

/-- A silent run of make is rejected, also for a target that is named by blanks. -/
theorem checkUpToDate_silent_of_make :
    let b : Backend := .make (.found ⟨"/usr/bin/make"⟩)
    let i : Invocation :=
      { command := "make", directory := ⟨"/work"⟩, output := { status := some 0 } }
    b ≠ gypd ∧ i.output.stdout = "" ∧
      ((default : Machine).perform (b.checkUpToDate (.named " ") i)).1 =
        .error (.notUpToDate .make "make" i.report) := by
  intro b i
  have hb : b ≠ gypd := by decide
  have hasked : ¬AsksForNothing b (.named " ") := fun h => by cases h.1
  exact ⟨hb, rfl, (checkUpToDate_silent hb (.named " ") default i rfl).1.mpr hasked⟩

/-- **Silence is accepted for a target of blanks.**  Not every silent build is rejected: SCons
is asked for no words then, and any run of it that prints nothing passes. -/
theorem not_forall_silent_rejected :
    ¬ ∀ (b : Backend) (target : Target) (m : Machine) (i : Invocation), b ≠ gypd →
        i.output.stdout = "" → ∃ command report,
          (m.perform (b.checkUpToDate target i)).1 =
            .error (.notUpToDate b.format command report) := by
  intro h
  let b : Backend := .scons (.found ⟨"/usr/bin/scons"⟩)
  let i : Invocation :=
    { command := "scons -Q", directory := ⟨"/work"⟩, output := { status := some 0 } }
  obtain ⟨command, report, hrejected⟩ := h b (.named " ") default i (by decide) rfl
  have hasked : AsksForNothing b (.named " ") :=
    ⟨rfl, " ", rfl, by simp [Text.Blanks, Text.isBlank]⟩
  have haccepted : ((default : Machine).perform (b.checkUpToDate (.named " ") i)).1 = .ok i :=
    (checkUpToDate_eq_ok_iff b default (by decide) (.named " ") i).mpr
      (noOpOutput_empty_iff.mpr hasked)
  rw [haccepted] at hrejected
  cases hrejected

end Backend

end CrossBuild
