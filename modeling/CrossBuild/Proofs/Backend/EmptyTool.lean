import CrossBuild.Proofs.Backend.Selection
import CrossBuild.Proofs.Path.Components

/-!
# An empty driver in the settings

A driver that is set to the empty text is to count as one that is not set.  The search through
candidates passes over it, but where no other candidate leads to a path the fallback is the
first of all, and that is the empty one.  The search for Visual Studio does not look at
the text at all: it takes what is set, unless a release is asked for and installed.

So an empty driver does no harm where there is a driver besides it
(`Backend.HasOwnDriver`).  Nowhere else is the set-up the one without it, and there the
backend is left with a program that has no name (`Backend.select_of_empty_driver`).
-/
namespace CrossBuild

/-! ## 1. Where the empty path comes from -/

namespace Machine

variable {m : Machine} {p : Path}

theorem ne_empty_of_pathExists (h : m.pathExists p = true) : p ≠ ⟨""⟩ := by
  intro hp
  subst hp
  cases h

theorem ne_empty_of_isProgram (h : m.isProgram p = true) : p ≠ ⟨""⟩ := by
  intro hp
  subst hp
  cases h

end Machine

namespace Locator

variable {find : String → Option Path} {candidates : List String}

theorem ne_empty_of_find? {l : Locator} {m : Machine} {name : String} {path : Path}
    (h : l.find? m name = some path) : path ≠ ⟨""⟩ :=
  Machine.ne_empty_of_isProgram (mem_places_of_find? h).1

theorem Leads.ne_empty {candidate : String} {path : Path}
    (hfind : ∀ name path, find name = some path → path ≠ ⟨""⟩)
    (h : Leads find candidate path) : path ≠ ⟨""⟩ := by
  rcases h.isAbsolute_or_found with habsolute | hfound
  · intro hempty
    exact Path.text_ne_empty_of_isAbsolute habsolute (congrArg Path.text hempty)
  · exact hfind _ _ hfound

/-- A list resolves to the empty path only by falling back to it. -/
theorem path?_resolve_eq_empty_iff (hfind : ∀ name path, find name = some path → path ≠ ⟨""⟩) :
    (resolve find candidates).path? = some ⟨""⟩ ↔
      candidates.head? = some "" ∧ ∀ c ∈ candidates, ∀ path, ¬Leads find c path := by
  unfold resolve
  cases hfound : candidates.findSome? (candidatePath? find) with
  | some path =>
    obtain ⟨c, ⟨before, after, hcandidates, -, -⟩, hleads⟩ :=
      findSome?_candidatePath?_eq_some_iff.mp hfound
    constructor
    · intro hpath
      exact absurd (Option.some.inj hpath) (hleads.ne_empty hfind)
    · intro ⟨_, hnone⟩
      exact absurd hleads (hnone c (by simp [hcandidates]) path)
  | none =>
    have hnone := findSome?_candidatePath?_eq_none_iff.mp hfound
    cases candidates with
    | nil => simp [ToolResolution.path?]
    | cons first rest =>
      constructor
      · intro hpath
        exact ⟨congrArg some (congrArg Path.text (Option.some.inj hpath)), hnone⟩
      · intro ⟨hfirst, _⟩
        exact congrArg (fun c => some (Path.mk c)) (Option.some.inj hfirst)

/-- A first candidate that leads nowhere is nothing to a list in which another one leads
to a path. -/
theorem resolve_cons_of_leads {first : String} (hfirst : ∀ path, ¬Leads find first path)
    (h : ∃ c ∈ candidates, ∃ path, Leads find c path) :
    resolve find (first :: candidates) = resolve find candidates := by
  have hscan : (first :: candidates).findSome? (candidatePath? find) =
      candidates.findSome? (candidatePath? find) := by
    rw [List.findSome?_cons, candidatePath?_eq_none_iff.mpr hfirst]
  unfold resolve
  rw [hscan]
  cases hfound : candidates.findSome? (candidatePath? find) with
  | some path => rfl
  | none =>
    obtain ⟨c, hc, path, hleads⟩ := h
    exact absurd hleads (findSome?_candidatePath?_eq_none_iff.mp hfound c hc path)

end Locator

namespace VisualStudio.Discovery

variable {d : Discovery} {m : Machine} {r : Release} {path : Path} {s : Selection}

theorem Driver.ne_empty (h : d.Driver m r path) : path ≠ ⟨""⟩ := by
  obtain ⟨root, ⟨_, _, _, hroot, _⟩, rfl⟩ := h
  exact Machine.ne_empty_of_pathExists hroot

theorem driver_eq_none (h : d.generic? m = none) : d.driver = none := by
  cases hdriver : d.driver with
  | none => rfl
  | some path => simp [generic?, hdriver] at h

/-- A search chooses the empty path only where it is what is set. -/
theorem Chosen.path?_eq_empty_iff (h : d.Chosen m s) :
    s.resolution.path? = some ⟨""⟩ ↔ d.driver = some ⟨""⟩ ∧ d.pinned? m = none := by
  cases h with
  | pinned release =>
    have hpath := (pinned?_eq_some_iff.mp release).2.ne_empty
    simp [ToolResolution.path?, hpath, release]
  | found unpinned driver =>
    cases generic?_eq_some_iff.mp driver with
    | configured given => simp [ToolResolution.path?, given, unpinned]
    | searched unset searchPath _ first =>
      obtain ⟨_, _, _, hprogram, _⟩ := first
      simp [ToolResolution.path?, unset, Machine.ne_empty_of_isProgram hprogram]
  | probed _ driverless release =>
    have hpath := (probed?_eq_some_iff.mp release).2.ne_empty
    simp [ToolResolution.path?, hpath, driver_eq_none driverless]
  | notFound _ driverless =>
    simp [ToolResolution.path?, driver_eq_none driverless]

theorem outcome_eq_of_pinned (h : d.pinned? m = some (r, path)) :
    (d.outcome m).1 = ⟨.pinned path r.version, r.generation⟩ := by
  have hchosen := d.chosen_outcome m
  cases hs : (d.outcome m).1 with
  | mk resolution generation =>
    rw [hs] at hchosen
    cases hchosen with
    | pinned release =>
      rw [h] at release
      cases release
      rfl
    | found unpinned | probed unpinned | notFound unpinned =>
      -- Any other source comes in only where no release is pinned.
      rw [h] at unpinned
      cases unpinned

end VisualStudio.Discovery

/-! ## 2. Drivers besides the one in the settings -/

/-- The settings with the driver of a format's builds set, or left out. -/
def Settings.withDriver (s : Settings) (driver : Option Path) : Format → Settings
  | .gypd => s
  | .make => { s with tools := { s.tools with make := driver } }
  | .msvs => { s with tools := { s.tools with devenv := driver } }
  | .scons => { s with tools := { s.tools with scons := driver } }
  | .xcode => { s with tools := { s.tools with xcodebuild := driver } }

theorem Settings.toolFor_withDriver (s : Settings) (driver : Option Path) {format : Format}
    (h : format ≠ .gypd) : (s.withDriver driver format).toolFor format = driver := by
  cases format with
  | gypd => exact absurd rfl h
  | make | msvs | scons | xcode => rfl

theorem Settings.msvs_withDriver (s : Settings) (driver : Option Path) (format : Format) :
    (s.withDriver driver format).msvs = s.msvs := by
  cases format <;> rfl

namespace Backend

open VisualStudio

variable {format : Format} {locator : Locator} {settings : Settings} {m : Machine}

/-- Where a format has no need of a driver in the settings: it builds nothing, a name of its
driver is found by the search, or the release that is asked for is installed. -/
inductive HasOwnDriver (locator : Locator) (settings : Settings) (m : Machine) : Format → Prop where
  | nothing : HasOwnDriver locator settings m .gypd
  | named {format : Format} {build : ToolResolution → Backend} {names : List String}
    {name : String} {path : Path} (tool : Named format build names) (listed : name ∈ names)
    (found : locator.find? m name = some path) : HasOwnDriver locator settings m format
  | release {r : Release} (requested : (discovery locator settings).Requests r)
    (installed : (discovery locator settings).Installed m r) : HasOwnDriver locator settings m .msvs

/-- What is set as the driver has no part in it. -/
theorem HasOwnDriver.of_msvs_eq {s s' : Settings} (hmsvs : s'.msvs = s.msvs)
    (h : HasOwnDriver locator s m format) : HasOwnDriver locator s' m format := by
  cases h with
  | nothing => exact .nothing
  | named tool listed found => exact .named tool listed found
  | release requested installed =>
    have hversion : (discovery locator s').version = (discovery locator s).version :=
      congrArg MsvsSettings.version hmsvs
    have hroots : (discovery locator s').roots = (discovery locator s).roots :=
      congrArg (fun msvs : MsvsSettings =>
        if msvs.roots.isEmpty then defaultRoots else msvs.roots) hmsvs
    refine .release ⟨requested.1, hversion.trans requested.2⟩ ?_
    rw [Discovery.Installed, hroots]
    exact installed

theorem hasOwnDriver_withDriver_iff {driver : Option Path} :
    HasOwnDriver locator (settings.withDriver driver format) m format ↔
      HasOwnDriver locator settings m format := by
  have hmsvs := settings.msvs_withDriver driver format
  exact ⟨.of_msvs_eq hmsvs.symm, .of_msvs_eq hmsvs⟩

theorem Named.ne_gypd {build : ToolResolution → Backend} {names : List String}
    (h : Named format build names) : format ≠ .gypd := by
  cases h <;> decide

theorem Named.names_unique {build build' : ToolResolution → Backend} {names names' : List String}
    (h : Named format build names) (h' : Named format build' names') : names = names' := by
  cases h <;> cases h' <;> rfl

/-- The names of a driver are looked up on the search path. -/
theorem Named.leads_iff {build : ToolResolution → Backend} {names : List String}
    (h : Named format build names) {find : String → Option Path} {name : String} {path : Path}
    (hname : name ∈ names) : Locator.Leads find name path ↔ find name = some path := by
  have hbare : name ≠ "" ∧ (Path.mk name).isAbsolute = false := by
    revert name
    cases h <;> decide
  constructor
  · intro hleads
    cases hleads with
    | absolute given => simp [hbare.2] at given
    | searched _ _ found => exact found
  · intro hfound
    exact .searched hbare.1 hbare.2 hfound

theorem Named.hasOwnDriver_iff {build : ToolResolution → Backend} {names : List String}
    (h : Named format build names) : HasOwnDriver locator settings m format ↔
      ∃ name ∈ names, ∃ path, Locator.Leads (locator.find? m) name path := by
  constructor
  · intro hown
    cases hown with
    | nothing => exact absurd rfl h.ne_gypd
    | named tool listed found =>
      rw [tool.names_unique h] at listed
      exact ⟨_, listed, _, (h.leads_iff listed).mpr found⟩
    | release => exact absurd rfl h.ne_msvs
  · intro ⟨name, hname, path, hleads⟩
    exact .named h hname ((h.leads_iff hname).mp hleads)

theorem hasOwnDriver_msvs_iff : HasOwnDriver locator settings m .msvs ↔
    ∃ r, (discovery locator settings).Requests r ∧ (discovery locator settings).Installed m r := by
  constructor
  · intro hown
    cases hown with
    | named tool => exact absurd rfl tool.ne_msvs
    | release requested installed => exact ⟨_, requested, installed⟩
  · intro ⟨r, requested, installed⟩
    exact .release requested installed

/-! ## 3. Set-ups with an empty driver -/

/-- A tool with a name is left without a program only where an empty driver is the fallback. -/
theorem Named.path?_resolve_eq_empty_iff {build : ToolResolution → Backend} {names : List String}
    (h : Named format build names) :
    (Locator.resolve (locator.find? m) (candidates (settings.toolFor format) names)).path? =
        some ⟨""⟩ ↔
      settings.toolFor format = some ⟨""⟩ ∧ ¬HasOwnDriver locator settings m format := by
  rw [h.hasOwnDriver_iff, Locator.path?_resolve_eq_empty_iff fun _ _ => Locator.ne_empty_of_find?]
  cases settings.toolFor format with
  | none =>
    -- The first candidate is the first name of the tool then, and no name is empty.
    have hhead : names.head? ≠ some "" := by cases h <;> decide
    simp [candidates, hhead]
  | some driver =>
    obtain ⟨text⟩ := driver
    have hempty (path : Path) : ¬Locator.Leads (locator.find? m) "" path :=
      Locator.not_leads_iff.mpr (.inl rfl) path
    simp only [candidates, Option.toList_some, List.map_cons, List.map_nil, List.singleton_append,
      List.head?_cons, List.forall_mem_cons, Option.some.injEq, Path.mk.injEq, not_exists, not_and]
    constructor
    · intro ⟨htext, _, hnames⟩
      exact ⟨htext, hnames⟩
    · intro ⟨htext, hnames⟩
      subst htext
      exact ⟨rfl, hempty, hnames⟩

/-- A backend is left with the empty program exactly if that is what is set, and there is no
driver besides it. -/
theorem selected_empty_iff (format : Format) (locator : Locator) (settings : Settings)
    (m : Machine) :
    (∃ b, selected format locator settings m = .ok b ∧ b.tool.path? = some ⟨""⟩) ↔
      settings.toolFor format = some ⟨""⟩ ∧ ¬HasOwnDriver locator settings m format := by
  rcases format_cases format with rfl | rfl | ⟨build, names, hnamed⟩
  · have hgypd : selected .gypd locator settings m = .ok gypd := rfl
    simp [hgypd, tool, ToolResolution.path?, Settings.toolFor]
  · let d := discovery locator settings
    have hdriver : settings.toolFor .msvs = d.driver := rfl
    rw [hasOwnDriver_msvs_iff, ← Discovery.pinned?_eq_none_iff, hdriver,
      ← (d.chosen_outcome m).path?_eq_empty_iff, selected_msvs]
    split
    · rename_i hnone
      simp [d, hnone, ToolResolution.path?]
    · simp [d, tool]
  · rw [← hnamed.path?_resolve_eq_empty_iff, selected_named locator settings m hnamed]
    simp [hnamed.tool_eq]

/-- Where there is another driver, an empty one makes no difference. -/
theorem selected_of_hasOwnDriver (h : HasOwnDriver locator settings m format) :
    selected format locator (settings.withDriver (some ⟨""⟩) format) m =
      selected format locator (settings.withDriver none format) m := by
  cases h with
  | nothing => rfl
  | @named _ build _ _ _ tool listed found =>
    rw [selected_named _ _ _ tool, selected_named _ _ _ tool,
      settings.toolFor_withDriver _ tool.ne_gypd, settings.toolFor_withDriver _ tool.ne_gypd]
    have hresolve := Locator.resolve_cons_of_leads (Locator.not_leads_iff.mpr (.inl rfl))
      ⟨_, listed, _, (tool.leads_iff listed).mpr found⟩
    exact congrArg (fun t => Except.ok (build t)) hresolve
  | release requested installed =>
    -- The release is looked for before the driver, and found.
    obtain ⟨path, hdriver⟩ := Discovery.installed_iff.mp installed
    have hpinned := Discovery.pinned?_eq_some_iff.mpr ⟨requested, hdriver⟩
    have houtcome (driver : Option Path) := Discovery.outcome_eq_of_pinned
      (d := discovery locator (settings.withDriver driver .msvs)) hpinned
    rw [selected_msvs, selected_msvs, houtcome, houtcome]
    rfl

/-- **An empty driver is no driver where there is another one.**  The set-up with an empty
driver is the one without any exactly if the format has a driver of its own; where it has
not, and nowhere else, a backend is left with the empty program. -/
theorem select_of_empty_driver (format : Format) (locator : Locator) (settings : Settings)
    (m : Machine) :
    let outcome (driver : Option Path) :=
      (m.perform (select format locator (settings.withDriver driver format))).1
    (outcome (some ⟨""⟩) = outcome none ↔ HasOwnDriver locator settings m format) ∧
      ((∃ b, (m.perform (select format locator settings)).1 = .ok b ∧
          b.tool.path? = some ⟨""⟩) ↔
        settings.toolFor format = some ⟨""⟩ ∧ ¬HasOwnDriver locator settings m format) := by
  intro outcome
  refine ⟨⟨fun hsame => ?_, selected_of_hasOwnDriver⟩, selected_empty_iff format locator settings m⟩
  refine Classical.byContradiction fun hown => ?_
  have hgypd : format ≠ .gypd := fun h => hown (h ▸ .nothing)
  -- Of the two set-ups only the one with an empty driver ends with the empty program.
  have hempty := (selected_empty_iff format locator (settings.withDriver (some ⟨""⟩) format) m).mpr
    ⟨settings.toolFor_withDriver _ hgypd, mt hasOwnDriver_withDriver_iff.mp hown⟩
  obtain ⟨b, hb, hpath⟩ := hempty
  have hunset := (selected_empty_iff format locator (settings.withDriver none format) m).mp
    ⟨b, hsame.symm.trans hb, hpath⟩
  rw [settings.toolFor_withDriver _ hgypd] at hunset
  cases hunset.1

/-- **An empty driver is kept as the fallback.**  Without make on the search path, the set-up for
it is left with a program that has no name, in the place of `make`. -/
theorem not_forall_empty_driver_unset :
    ¬ ∀ (format : Format) (locator : Locator) (settings : Settings) (m : Machine),
        (m.perform (select format locator (settings.withDriver (some ⟨""⟩) format))).1 =
          (m.perform (select format locator (settings.withDriver none format))).1 := by
  intro h
  let locator : Locator := { searchPath := none, base := ⟨"/home"⟩ }
  have hset : selected .make locator (({} : Settings).withDriver (some ⟨""⟩) .make) default =
      .ok (make (.fallback ⟨""⟩)) := rfl
  have hunset : selected .make locator (({} : Settings).withDriver none .make) default =
      .ok (make (.fallback ⟨"make"⟩)) := rfl
  have hsame := hset.symm.trans ((h .make locator {} default).trans hunset)
  exact absurd (Except.ok.inj hsame) (by decide)

end Backend

end CrossBuild
