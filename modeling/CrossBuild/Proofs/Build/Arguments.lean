import CrossBuild.Build.Make
import CrossBuild.Build.Msvs
import CrossBuild.Build.Scons
import CrossBuild.Build.Xcode

/-!
# What a command line tells of a build

Behind the arguments of the caller, a backend writes groups of arguments, each
of which may be missing: a target, a variant, a setting.  Names are
arbitrary texts and may look like flags.  They cannot be taken for one, since
the first argument of a group tells how many follow it, and what follows a
group never starts like the group itself (`OptionalGroup.append_inj`).

So the arguments tell which build was asked for
(`arguments_determine_request`), as far as a backend has words for it at
all, and but for targets that are written like the choice of a variant.
-/
namespace CrossBuild

/-! ## 1. Optional groups -/

/-- An optional group of arguments: nothing, or a first argument with as many others as
that one takes.  Where `arity` is none, an argument starts no such group. -/
inductive OptionalGroup (arity : String → Option Nat) : List String → Prop where
  | absent : OptionalGroup arity []
  | present {first : String} {others : List String} (takes : arity first = some others.length) :
    OptionalGroup arity (first :: others)

/-- Some arguments do not start with such a group. -/
def StartsOutside (arity : String → Option Nat) (arguments : List String) : Prop :=
  ∀ first ∈ arguments.head?, arity first = none

section
variable {arity : String → Option Nat}

theorem StartsOutside.nil : StartsOutside arity [] := by
  intro first h
  cases h

theorem StartsOutside.append {front rest : List String} (hfront : StartsOutside arity front)
    (hrest : StartsOutside arity rest) : StartsOutside arity (front ++ rest) := by
  cases front with
  | nil => exact hrest
  | cons first front => exact hfront

theorem StartsOutside.head {first : String} {rest : List String}
    (h : StartsOutside arity (first :: rest)) : arity first = none :=
  h first rfl

/-- Two texts of a group and what follows it agree only if both parts do. -/
theorem OptionalGroup.append_inj {g g' rest rest' : List String} (hg : OptionalGroup arity g)
    (hg' : OptionalGroup arity g') (hrest : StartsOutside arity rest)
    (hrest' : StartsOutside arity rest') : g ++ rest = g' ++ rest' ↔ g = g' ∧ rest = rest' := by
  constructor
  · intro h
    -- One group without the other would have to start what follows that other one.
    cases hg with
    | absent =>
      cases hg' with
      | absent => exact ⟨rfl, h⟩
      | present takes =>
        rw [List.nil_append] at h
        subst h
        rw [hrest.head] at takes
        cases takes
    | @present first others takes =>
      cases hg' with
      | absent =>
        rw [List.nil_append] at h
        subst h
        rw [hrest'.head] at takes
        cases takes
      | @present first' others' takes' =>
        obtain ⟨hfirst, h⟩ := List.cons.inj h
        -- The same first argument takes as many others, so the groups end at the same place.
        have hlength : others.length = others'.length := by
          rw [hfirst, takes'] at takes
          exact (Option.some.inj takes).symm
        obtain ⟨hothers, hrests⟩ := List.append_inj h hlength
        exact ⟨by rw [hfirst, hothers], hrests⟩
  · rintro ⟨rfl, rfl⟩
    rfl

end

/-! ## 2. The two ways to write a setting -/

/-- A setting written as a flag and the value behind it. -/
def flagged (flag : String) : Option String → List String
  | some value => [flag, value]
  | none => []

/-- The flag of such a setting takes one argument. -/
def flagArity (flag : String) (argument : String) : Option Nat :=
  if argument = flag then some 1 else none

/-- A setting written as one argument, with a fixed start. -/
def joined (start : String) (value : Option String) : List String :=
  value.toList.map fun value => start ++ value

/-- An argument of such a setting takes none. -/
def joinedArity (start : String) (argument : String) : Option Nat :=
  if Text.startsWith argument start then some 0 else none

theorem Text.startsWith_append (start text : String) : startsWith (start ++ text) start = true := by
  rw [startsWith, String.toList_append, List.isPrefixOf_iff_prefix]
  exact List.prefix_append _ _

theorem flagged_inj {flag : String} {a b : Option String} :
    flagged flag a = flagged flag b ↔ a = b := by
  cases a <;> cases b <;> simp [flagged]

theorem joined_inj {start : String} {a b : Option String} :
    joined start a = joined start b ↔ a = b := by
  cases a <;> cases b <;> simp [joined]

theorem optionalGroup_flagged (flag : String) (value : Option String) :
    OptionalGroup (flagArity flag) (flagged flag value) := by
  cases value with
  | none => exact .absent
  | some value => exact .present (if_pos rfl)

theorem optionalGroup_joined (start : String) (value : Option String) :
    OptionalGroup (joinedArity start) (joined start value) := by
  cases value with
  | none => exact .absent
  | some value => exact .present (if_pos (Text.startsWith_append start value))

theorem startsOutside_flagged {arity : String → Option Nat} {flag : String}
    (h : arity flag = none) (value : Option String) :
    StartsOutside arity (flagged flag value) := by
  cases value with
  | none => exact .nil
  | some value =>
    intro first hfirst
    cases hfirst
    exact h

theorem startsOutside_joined {arity : String → Option Nat} {start : String}
    (h : ∀ value, arity (start ++ value) = none) (value : Option String) :
    StartsOutside arity (joined start value) := by
  cases value with
  | none => exact .nil
  | some value =>
    intro first hfirst
    cases hfirst
    exact h value

/-- An argument with a fixed start is no flag that has another start. -/
theorem append_ne_of_startsWith {start flag : String} (h : Text.startsWith flag start = false)
    (value : String) : start ++ value ≠ flag := by
  rintro rfl
  rw [Text.startsWith_append] at h
  cases h

/-! ## 3. The words of each backend -/

/-- A target, with `all` counted as another one. -/
def Target.withAllAs (t other : Target) : Target :=
  match t with
  | .all => other
  | t => t

namespace Msvs

theorem arguments_eq (c : Configuration) (r : BuildRequest) :
    arguments c r = r.options.arguments ++
      ([(solution r.project).text, if r.options.rebuild then "/Rebuild" else "/Build",
        c.buildName] ++ (targetArguments r.target ++ flagged "/ProjectConfig" c.name?)) := by
  simp only [arguments, List.append_assoc]
  cases c.name? <;> rfl

theorem targetArguments_inj {t t' : Target} :
    targetArguments t = targetArguments t' ↔ t.withAllAs .default = t'.withAllAs .default := by
  cases t <;> cases t' <;> simp [targetArguments, Target.withAllAs]

theorem optionalGroup_targetArguments (t : Target) :
    OptionalGroup (flagArity "/Project") (targetArguments t) := by
  cases t with
  | default | all => exact .absent
  | named name => exact .present rfl

/-- The project, the verb and the name of the variant are always there; then come two flags. -/
theorem arguments_inj {c c' : Configuration} {r r' : BuildRequest}
    (project : r.project = r'.project) (extra : r.options.arguments = r'.options.arguments) :
    arguments c r = arguments c' r' ↔
      c = c' ∧ r.options.rebuild = r'.options.rebuild ∧
        r.target.withAllAs .default = r'.target.withAllAs .default := by
  have hgroups : targetArguments r.target ++ flagged "/ProjectConfig" c.name? =
      targetArguments r'.target ++ flagged "/ProjectConfig" c'.name? ↔
        r.target.withAllAs .default = r'.target.withAllAs .default ∧ c.name? = c'.name? := by
    have houtside (c : Configuration) :
        StartsOutside (flagArity "/Project") (flagged "/ProjectConfig" c.name?) :=
      startsOutside_flagged (by decide) c.name?
    rw [(optionalGroup_targetArguments _).append_inj (optionalGroup_targetArguments _)
      (houtside c) (houtside c'), targetArguments_inj, flagged_inj]
  rw [arguments_eq, arguments_eq, project, extra, List.append_right_inj]
  constructor
  · intro h
    obtain ⟨hfixed, h⟩ := List.append_inj h rfl
    obtain ⟨htarget, hname⟩ := hgroups.mp h
    refine ⟨Configuration.ext hname, ?_, htarget⟩
    cases hr : r.options.rebuild <;> cases hr' : r'.options.rebuild <;> simp [hr, hr'] at hfixed ⊢
  · rintro ⟨rfl, hrebuild, htarget⟩
    rw [hrebuild, hgroups.mpr ⟨htarget, rfl⟩]

end Msvs

namespace Xcode

/-- The flags for targets: every target, or the one that is named next. -/
def targetArity (argument : String) : Option Nat :=
  if argument = "-alltargets" then some 0 else flagArity "-target" argument

theorem arguments_eq (c : Configuration) (r : BuildRequest) :
    arguments c r = r.options.arguments ++ (["-project", (projectBundle r.project).text] ++
      (targetArguments r.target ++ (flagged "-configuration" c.name? ++
        joined "SYMROOT=" r.options.symroot.value?))) := by
  simp only [arguments, configurationArguments, List.append_assoc]
  cases c.name? <;> rfl

theorem targetArguments_inj {t t' : Target} : targetArguments t = targetArguments t' ↔ t = t' := by
  cases t <;> cases t' <;> simp [targetArguments]

theorem optionalGroup_targetArguments (t : Target) :
    OptionalGroup targetArity (targetArguments t) := by
  cases t with
  | default => exact .absent
  | all => exact .present rfl
  | named name => exact .present rfl

/-- A target, a variant and the root of the output follow each other. -/
theorem arguments_inj {c c' : Configuration} {r r' : BuildRequest}
    (project : r.project = r'.project) (extra : r.options.arguments = r'.options.arguments) :
    arguments c r = arguments c' r' ↔
      c = c' ∧ r.target = r'.target ∧ r.options.symroot.value? = r'.options.symroot.value? := by
  have hroot (value : Option String) :
      StartsOutside (flagArity "-configuration") (joined "SYMROOT=" value) :=
    startsOutside_joined (fun _ => if_neg (append_ne_of_startsWith (by decide) _)) value
  have hrest (name value : Option String) :
      StartsOutside targetArity (flagged "-configuration" name ++ joined "SYMROOT=" value) := by
    refine (startsOutside_flagged (by decide) name).append
      (startsOutside_joined (fun _ => ?_) value)
    rw [targetArity, flagArity, if_neg (append_ne_of_startsWith (by decide) _),
      if_neg (append_ne_of_startsWith (by decide) _)]
  rw [arguments_eq, arguments_eq, project, extra, List.append_right_inj, List.append_right_inj,
    (optionalGroup_targetArguments _).append_inj (optionalGroup_targetArguments _)
      (hrest _ _) (hrest _ _),
    (optionalGroup_flagged _ _).append_inj (optionalGroup_flagged _ _) (hroot _) (hroot _),
    targetArguments_inj, flagged_inj, joined_inj, Configuration.ext_iff]
  exact and_left_comm

end Xcode

namespace Make

/-- Whether a target is written like the choice of a variant. -/
def readsAsVariant : Target → Bool
  | .named name => Text.startsWith name "BUILDTYPE="
  | .default | .all => false

theorem targetArguments_inj {t t' : Target} :
    targetArguments t = targetArguments t' ↔
      t.withAllAs (.named allName) = t'.withAllAs (.named allName) := by
  cases t <;> cases t' <;> simp [targetArguments, Target.withAllAs]

theorem startsOutside_targetArguments {t : Target} (h : readsAsVariant t = false) :
    StartsOutside (joinedArity "BUILDTYPE=") (targetArguments t) := by
  intro first hfirst
  cases t with
  | default => cases hfirst
  | all => cases hfirst; decide
  | named name =>
    cases hfirst
    exact if_neg (by rw [← readsAsVariant, h]; exact Bool.false_ne_true)

/-- A variant and a target follow each other, behind the makefile. -/
theorem arguments_inj {c c' : Configuration} {r r' : BuildRequest}
    (project : r.project = r'.project) (extra : r.options.arguments = r'.options.arguments)
    (h : readsAsVariant r.target = false) (h' : readsAsVariant r'.target = false)
    (hasMakefile : Bool) :
    arguments c r hasMakefile = arguments c' r' hasMakefile ↔
      c = c' ∧ r.target.withAllAs (.named allName) = r'.target.withAllAs (.named allName) := by
  simp only [arguments, plainArguments, project, extra, List.append_assoc, List.append_right_inj]
  rw [← joined, ← joined, (optionalGroup_joined _ _).append_inj (optionalGroup_joined _ _)
      (startsOutside_targetArguments h) (startsOutside_targetArguments h'),
    joined_inj, targetArguments_inj, Configuration.ext_iff]

end Make

namespace Scons

/-- Whether the first word of a target is written like the choice of a variant. -/
def readsAsVariant : Target → Bool
  | .named name => (Text.words name).head?.any fun word => Text.startsWith word "--mode="
  | .default | .all => false

theorem startsOutside_targetArguments {t : Target} (h : readsAsVariant t = false) :
    StartsOutside (joinedArity "--mode=") (targetArguments t) := by
  intro first hfirst
  cases t with
  | default => cases hfirst
  | all => cases hfirst; decide
  | named name =>
    have hword : (Text.words name).head? = some first := hfirst
    rw [readsAsVariant, hword, Option.any_some] at h
    exact if_neg (by rw [h]; exact Bool.false_ne_true)

/-- A variant and the words of a target follow each other, behind the directory. -/
theorem arguments_inj {c c' : Configuration} {r r' : BuildRequest}
    (project : r.project = r'.project) (extra : r.options.arguments = r'.options.arguments)
    (h : readsAsVariant r.target = false) (h' : readsAsVariant r'.target = false) :
    arguments c r = arguments c' r' ↔
      c = c' ∧ targetArguments r.target = targetArguments r'.target := by
  simp only [arguments, project, extra, List.append_assoc, List.append_right_inj]
  rw [← joined, ← joined, (optionalGroup_joined _ _).append_inj (optionalGroup_joined _ _)
      (startsOutside_targetArguments h) (startsOutside_targetArguments h'),
    joined_inj, Configuration.ext_iff]

end Scons

/-! ## 4. All backends -/

/-- **The arguments tell which build was asked for.**  For one project and one list of
arguments of the caller, two requests lead to the same arguments exactly if
they are the same as far as the tool has words for them.  Visual Studio has
none for every target and makes no difference between that and the default;
make has the name `all`, and SCons takes a target's name for a list of words. -/
theorem arguments_determine_request {c c' : Configuration} {r r' : BuildRequest}
    (project : r.project = r'.project) (extra : r.options.arguments = r'.options.arguments) :
    (Msvs.arguments c r = Msvs.arguments c' r' ↔
      c = c' ∧ r.options.rebuild = r'.options.rebuild ∧
        r.target.withAllAs .default = r'.target.withAllAs .default) ∧
    (Xcode.arguments c r = Xcode.arguments c' r' ↔
      c = c' ∧ r.target = r'.target ∧
        r.options.symroot.value? = r'.options.symroot.value?) ∧
    (Make.readsAsVariant r.target = false → Make.readsAsVariant r'.target = false →
      ∀ hasMakefile, Make.arguments c r hasMakefile = Make.arguments c' r' hasMakefile ↔
        c = c' ∧ r.target.withAllAs (.named "all") = r'.target.withAllAs (.named "all")) ∧
    (Scons.readsAsVariant r.target = false → Scons.readsAsVariant r'.target = false →
      (Scons.arguments c r = Scons.arguments c' r' ↔
        c = c' ∧ Scons.targetArguments r.target = Scons.targetArguments r'.target)) :=
  ⟨Msvs.arguments_inj project extra, Xcode.arguments_inj project extra,
    fun h h' hasMakefile => Make.arguments_inj project extra h h' hasMakefile,
    fun h h' => Scons.arguments_inj project extra h h'⟩

/-- A target that is named like a flag is not taken for it: to build it is not to build
everything in a variant of that name. -/
theorem arguments_determine_request_of_flag :
    let c : Configuration := .ofName? (some "/ProjectConfig")
    let r : BuildRequest := { project := ⟨"p.gyp"⟩, target := .named "/ProjectConfig" }
    let r' : BuildRequest := { project := ⟨"p.gyp"⟩, target := .all }
    r.project = r'.project ∧ r.options.arguments = r'.options.arguments ∧
      Make.readsAsVariant r.target = false ∧ Make.readsAsVariant r'.target = false ∧
      Scons.readsAsVariant r.target = false ∧ Scons.readsAsVariant r'.target = false ∧
      Msvs.arguments .unset r ≠ Msvs.arguments c r' ∧
      Xcode.arguments .unset r ≠ Xcode.arguments c r' ∧
      Make.arguments .unset r false ≠ Make.arguments c r' false ∧
      Scons.arguments .unset r ≠ Scons.arguments c r' := by
  intro c r r'
  have hc : Configuration.unset ≠ c := by decide
  obtain ⟨hmsvs, hxcode, hmake, hscons⟩ :=
    @arguments_determine_request .unset c r r' rfl rfl
  have hr : Make.readsAsVariant r.target = false := by decide
  have hr' : Make.readsAsVariant r'.target = false := by decide
  have hw : Scons.readsAsVariant r.target = false := by decide
  have hw' : Scons.readsAsVariant r'.target = false := by decide
  exact ⟨rfl, rfl, hr, hr', hw, hw', fun h => hc (hmsvs.mp h).1, fun h => hc (hxcode.mp h).1,
    fun h => hc ((hmake hr hr' false).mp h).1, fun h => hc ((hscons hw hw').mp h).1⟩

/-- A target that is written like the choice of a variant is read as one. -/
example : Make.arguments .unset { project := ⟨"p.gyp"⟩, target := .named "BUILDTYPE=Debug" } true =
    Make.arguments (.ofName? (some "Debug")) { project := ⟨"p.gyp"⟩ } true := by
  decide

end CrossBuild
