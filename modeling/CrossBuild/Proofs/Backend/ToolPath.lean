import CrossBuild.Proofs.Backend.ProgramPath
import CrossBuild.Proofs.VisualStudio.Generation

/-!
# Where the path of a driver starts

A driver is looked for from the directory of the process, and run from the directory of the
build.  It is the same program if its path starts at the root.

A name with a separator in it is taken from the directory that the locator was made in, so its
path does.  A name of one part is joined onto a directory of the search path, and what the
search makes of that directory is not known here (`Machine.reading`).  If it looks in `bin` as
it is listed, the path is `bin/make` (`Locator.FindsRelative`).  A search that looks in absolute
directories only, as one does that reads them from where it starts, never finds such a path
(`Locator.LooksInAbsolute`).

The search for Visual Studio also takes paths out of the settings.  A driver that is set, or an
install root, may be relative, and is handed on as it was looked for, whatever the search does
(`Discovery.GivenRelative`).  From another directory it is another program.
-/
namespace CrossBuild

/-! ## 1. Paths from a directory -/

namespace Path

variable {p base : Path}

theorem isAbsolute_joinComponent (h : p.isAbsolute = true) (c : Component) :
    (p.joinComponent c).isAbsolute = true := by
  have hroot : (Path.mk "/").isAbsolute = true := by decide
  cases c with
  | root => exact hroot
  | here | up | name => simp [joinComponent, isAbsolute_join, h]

theorem isAbsolute_foldl_joinComponent (cs : List Component) (h : p.isAbsolute = true) :
    (cs.foldl joinComponent p).isAbsolute = true := by
  induction cs generalizing p with
  | nil => exact h
  | cons c cs ih => exact ih (isAbsolute_joinComponent h c)

theorem isAbsolute_absoluteFrom (p : Path) (h : base.isAbsolute = true) :
    (p.absoluteFrom base).isAbsolute = true := by
  unfold absoluteFrom
  split
  · assumption
  · exact isAbsolute_foldl_joinComponent _ h

end Path

/-! ## 2. What a search finds -/

namespace Locator

variable {l : Locator} {m : Machine} {name : String} {path : Path}

/-- The search looks in absolute directories only. -/
def LooksInAbsolute (l : Locator) (m : Machine) : Prop :=
  ∀ searchPath, l.searchPath = some searchPath → ∀ listed ∈ Text.splitOn ':' searchPath,
    (l.directory m listed).isAbsolute = true

/-- A search that reads directories from where it starts looks in absolute ones. -/
theorem looksInAbsolute_of_fromBase (hreading : m.reading = .fromBase)
    (hbase : l.base.isAbsolute = true) : l.LooksInAbsolute m := by
  intro searchPath _ listed _
  rw [directory, hreading]
  exact Path.isAbsolute_absoluteFrom _ hbase

/-- A search that takes directories as they are listed does so if they are listed as absolute
ones; an empty entry is none. -/
theorem looksInAbsolute_iff_of_asListed (hreading : m.reading = .asListed) :
    l.LooksInAbsolute m ↔ ∀ searchPath, l.searchPath = some searchPath →
      ∀ listed ∈ Text.splitOn ':' searchPath, (Path.mk listed).isAbsolute = true := by
  simp only [LooksInAbsolute, directory, hreading, SearchReading.asListed]

/-- A relative name of one part is found in a directory that the search has not made absolute. -/
structure FindsRelative (l : Locator) (m : Machine) (name : String) (path : Path) : Prop where
  found : l.find? m name = some path
  bare : (Path.mk name).components.length ≤ 1
  relative : (Path.mk name).isAbsolute = false
  entry : ∃ searchPath listed, l.searchPath = some searchPath ∧
    listed ∈ Text.splitOn ':' searchPath ∧ (l.directory m listed).isAbsolute = false ∧
      path = (l.directory m listed).join ⟨name⟩

theorem FindsRelative.isAbsolute_eq (h : l.FindsRelative m name path) :
    path.isAbsolute = false := by
  obtain ⟨_, _, -, -, hdirectory, rfl⟩ := h.entry
  rw [Path.isAbsolute_join, hdirectory, h.relative, Bool.or_false]

theorem LooksInAbsolute.not_findsRelative (habsolute : l.LooksInAbsolute m) :
    ¬l.FindsRelative m name path := by
  intro h
  obtain ⟨searchPath, listed, hknown, hlisted, hdirectory, -⟩ := h.entry
  cases hdirectory.symm.trans (habsolute searchPath hknown listed hlisted)

/-- What is found under a relative name starts at the root, or was found in a relative
directory. -/
theorem isAbsolute_or_findsRelative (hbase : l.base.isAbsolute = true)
    (hname : (Path.mk name).isAbsolute = false) (h : l.find? m name = some path) :
    path.isAbsolute = true ∨ l.FindsRelative m name path := by
  obtain ⟨-, searchPath, hknown, hplace⟩ := mem_places_of_find? h
  simp only [places] at hplace
  split at hplace
  · rw [List.mem_singleton.mp hplace]
    exact .inl (Path.isAbsolute_absoluteFrom _ hbase)
  · rename_i hfew
    obtain ⟨listed, hlisted, rfl⟩ := List.mem_map.mp hplace
    cases hdirectory : (l.directory m listed).isAbsolute with
    | true => exact .inl (by rw [Path.isAbsolute_join, hdirectory, Bool.true_or])
    | false =>
      exact .inr ⟨h, Nat.not_lt.mp hfew, hname, searchPath, listed, hknown, hlisted, hdirectory, rfl⟩

theorem Leads.isAbsolute_or_findsRelative (hbase : l.base.isAbsolute = true) {candidate : String}
    (h : Leads (l.find? m) candidate path) :
    path.isAbsolute = true ∨ l.FindsRelative m candidate path := by
  cases h with
  | absolute given verbatim => exact .inl (verbatim ▸ given)
  | searched _ relative found => exact Locator.isAbsolute_or_findsRelative hbase relative found

end Locator

namespace VisualStudio

theorem Release.isAbsolute_pathUnder {r : Release} (hr : r ∈ known) (root : Path) :
    (r.pathUnder root).isAbsolute = root.isAbsolute := by
  rw [pathUnder_eq_join, Path.isAbsolute_join, isAbsolute_relativePath hr, Bool.or_false]

namespace Discovery

/-- A driver whose path the settings give, and give from the directory of the process: it is the
one that is set, or that of a release below a root. -/
inductive GivenRelative (d : Discovery) (m : Machine) : ToolResolution → Prop where
  | configured {path : Path} (given : d.driver = some path)
    (relative : path.isAbsolute = false) : GivenRelative d m (.found path)
  | pinned {r : Release} {root : Path} (known : r ∈ Release.known)
    (first : IsFirst (IsUnder m r) d.roots root) (relative : root.isAbsolute = false) :
    GivenRelative d m (.pinned (r.pathUnder root) r.version)
  | probed {r : Release} {root : Path} (known : r ∈ Release.known)
    (first : IsFirst (IsUnder m r) d.roots root) (relative : root.isAbsolute = false) :
    GivenRelative d m (.probed (r.pathUnder root) r.version)

variable {d : Discovery} {m : Machine} {s : Selection} {path : Path}

theorem GivenRelative.isAbsolute_eq {tool : ToolResolution} (h : d.GivenRelative m tool)
    (hpath : tool.path? = some path) : path.isAbsolute = false := by
  cases h with
  | configured _ relative =>
    cases hpath
    exact relative
  | pinned known _ relative | probed known _ relative =>
    rw [← Option.some.inj hpath, Release.isAbsolute_pathUnder known]
    exact relative

/-- The path of a driver starts at the root, or is given otherwise, or was found in a relative
directory. -/
theorem Chosen.isAbsolute_or (hbase : d.locator.base.isAbsolute = true) (h : d.Chosen m s)
    (hpath : s.resolution.path? = some path) :
    path.isAbsolute = true ∨ d.GivenRelative m s.resolution ∨
      s.resolution = .found path ∧ d.locator.FindsRelative m driverName path := by
  cases habsolute : path.isAbsolute with
  | true => exact .inl rfl
  | false =>
    right
    cases h with
    | pinned release =>
      obtain ⟨⟨hr, -⟩, root, hfirst, rfl⟩ := pinned?_eq_some_iff.mp release
      rw [← Option.some.inj hpath, Release.isAbsolute_pathUnder hr] at habsolute
      exact .inl (.pinned hr hfirst habsolute)
    | found _ driver =>
      cases hpath
      cases hgeneric : d.driver with
      | some given =>
        rw [generic?, hgeneric] at driver
        cases driver
        exact .inl (.configured hgeneric habsolute)
      | none =>
        rw [generic?, hgeneric] at driver
        have hfound : d.locator.find? m driverName = some path := driver
        rcases Locator.isAbsolute_or_findsRelative hbase (by decide) hfound with h | h
        · rw [habsolute] at h
          cases h
        · exact .inr ⟨rfl, h⟩
    | probed _ _ release =>
      obtain ⟨⟨hr, -⟩, root, hfirst, rfl⟩ := probed?_eq_some_iff.mp release
      rw [← Option.some.inj hpath, Release.isAbsolute_pathUnder hr] at habsolute
      exact .inl (.probed hr hfirst habsolute)
    | notFound => cases hpath

end Discovery

end VisualStudio

/-! ## 3. The program of a build -/

theorem ToolResolution.exists_path_of_isLocated {t : ToolResolution} (h : t.isLocated = true) :
    ∃ path, t.path? = some path := by
  cases t with
  | pinned path | found path | probed path => exact ⟨path, rfl⟩
  | fallback | notFound => cases h

namespace Backend

open VisualStudio

variable {format : Format} {locator : Locator} {settings : Settings} {m : Machine} {b : Backend}
  {path : Path}

/-- A located driver whose path is left relative, by where it comes from: the settings give that
of Visual Studio, or it was found in a relative directory of the search path. -/
inductive StaysRelative (locator : Locator) (settings : Settings) (m : Machine) :
    Format → ToolResolution → Prop where
  | given {tool : ToolResolution} (relative : (discovery locator settings).GivenRelative m tool) :
    StaysRelative locator settings m .msvs tool
  | searched {format : Format} {name : String} {path : Path}
    (relative : locator.FindsRelative m name path) :
    StaysRelative locator settings m format (.found path)

theorem StaysRelative.isAbsolute_eq {tool : ToolResolution}
    (h : StaysRelative locator settings m format tool) (hpath : tool.path? = some path) :
    path.isAbsolute = false := by
  cases h with
  | given relative => exact relative.isAbsolute_eq hpath
  | searched relative =>
    cases hpath
    exact relative.isAbsolute_eq

/-- Where the search looks in absolute directories only, it is the settings that leave a driver
relative. -/
theorem staysRelative_iff_of_looksInAbsolute (habsolute : locator.LooksInAbsolute m)
    {tool : ToolResolution} : StaysRelative locator settings m format tool ↔
      format = .msvs ∧ (discovery locator settings).GivenRelative m tool := by
  constructor
  · intro h
    cases h with
    | given relative => exact ⟨rfl, relative⟩
    | searched relative => exact absurd relative habsolute.not_findsRelative
  · rintro ⟨rfl, relative⟩
    exact .given relative

/-- The path of a located driver starts at the root, unless it is left relative. -/
theorem isAbsolute_iff_of_selected (hbase : locator.base.isAbsolute = true)
    (h : selected format locator settings m = .ok b) (hlocated : b.tool.isLocated = true)
    (hpath : b.tool.path? = some path) :
    path.isAbsolute = true ↔ ¬StaysRelative locator settings m format b.tool := by
  have hor : path.isAbsolute = true ∨ StaysRelative locator settings m format b.tool := by
    rcases format_cases format with rfl | rfl | ⟨build, names, hnamed⟩
    · cases h
      cases hlocated
    · rw [selected_msvs] at h
      split at h
      · cases h
      · cases h
        have hfrom : (discovery locator settings).locator.base.isAbsolute = true := hbase
        have hchosen := (discovery locator settings).chosen_outcome m
        rcases hchosen.isAbsolute_or hfrom hpath with habsolute | hgiven | ⟨hfound, hsearched⟩
        · exact .inl habsolute
        · exact .inr (.given hgiven)
        · rw [tool, hfound]
          exact .inr (.searched hsearched)
    · rw [selected_named locator settings m hnamed] at h
      cases h
      rw [hnamed.tool_eq] at hlocated hpath ⊢
      obtain ⟨_, hfound, c, -, hleads⟩ := Locator.exists_leads_of_isLocated hlocated
      rw [hfound] at hpath ⊢
      cases hpath
      rcases hleads.isAbsolute_or_findsRelative hbase with habsolute | hsearched
      · exact .inl habsolute
      · exact .inr (.searched hsearched)
  constructor
  · intro habsolute hrelative
    cases habsolute.symm.trans (hrelative.isAbsolute_eq hpath)
  · exact hor.resolve_right

/-- What the system looks for to run a build is what the program denotes for the process, if it
starts at the root or the build is run where the process is. -/
theorem components_located_iff (b : Backend) (w : Workspace) (m : Machine) (request : BuildRequest)
    {program base : Path} (hbase : base.isAbsolute = true)
    (hdirectory : program.isAbsolute = false →
      (w.runDirectory request.options.chdir).isAbsolute = false) :
    ((b.buildCommand w m request program).located base).components =
        (base.join program).components ↔
      program.isAbsolute = true ∨
        ∀ c ∈ (w.runDirectory request.options.chdir).components, c = .here :=
  Path.components_seen_from_iff hbase hdirectory

/-- A build runs what a path denotes for the process, whatever directory it is run in, exactly
if the path starts at the root. -/
theorem isAbsolute_iff_builds (hpath : b.tool.path? = some path) :
    path.isAbsolute = true ↔ ∀ (w : Workspace) (executor : Executor) (m : Machine)
      (request : BuildRequest) (base : Path), base.isAbsolute = true →
      ∃ c es, m.perform (b.build w executor request) = (m.logged es).submit executor c ∧
        (c.located base).components = (base.join path).components := by
  constructor
  · intro habsolute w executor m request base hbase
    refine ⟨_, _, b.perform_build w executor m hpath request, ?_⟩
    refine (b.components_located_iff w m request hbase fun hrelative => ?_).mpr (.inl habsolute)
    rw [habsolute] at hrelative
    cases hrelative
  · intro h
    -- One directory with a name is enough to tell a relative path apart.
    let w : Workspace := { workdir := ⟨"w"⟩, affixes := .unix }
    let request : BuildRequest := { project := ⟨"hello.gyp"⟩ }
    have hbase : (Path.mk "/").isAbsolute = true := by decide
    have hrelative : (w.runDirectory request.options.chdir).isAbsolute = false := by decide
    have hname : .name "w" ∈ (w.runDirectory request.options.chdir).components := by decide
    obtain ⟨c, es, hbuild, hcomponents⟩ := h w Programs.executor default request ⟨"/"⟩ hbase
    have hc := Machine.submit_inj _ _
      ((b.perform_build w Programs.executor default hpath request).symm.trans hbuild)
    subst hc
    rcases (b.components_located_iff w default request hbase fun _ => hrelative).mp hcomponents with
      habsolute | hhere
    · exact habsolute
    · cases hhere _ hname

/-- A driver that is set is taken as it stands, if no release is asked for. -/
theorem selected_configured (locator : Locator) {settings : Settings} (m : Machine)
    (hset : settings.tools.devenv = some path) (hversion : settings.msvs.version = none) :
    selected .msvs locator settings m = .ok (msvs (.found path) (inferGeneration path)) := by
  have hrequested : (discovery locator settings).requested? = none := by
    rw [Discovery.requested?, discovery, Discovery.new, hversion]
    rfl
  have hdriver : (discovery locator settings).driver = some path := hset
  have houtcome : ((discovery locator settings).outcome m).1 =
      ⟨.found path, inferGeneration path⟩ := by
    simp [Discovery.outcome, hrequested, Discovery.unpinned, Discovery.generic?, hdriver]
  rw [selected_msvs, houtcome]
  rfl

/-- **When a located driver has an absolute path.**  A backend that is set up with a located
driver has the path of it.  The path starts at the root unless it is left relative
(`StaysRelative`), and only then a build may run another program than the one that was found.
Where the search looks in absolute directories only, it is left so exactly if the settings
name the driver of Visual Studio, or the root it is below, from the directory of the process. -/
theorem located_isAbsolute_iff (hbase : locator.base.isAbsolute = true)
    (hselect : (m.perform (select format locator settings)).1 = .ok b)
    (hlocated : b.tool.isLocated = true) :
    ∃ path, b.tool.path? = some path ∧
      (path.isAbsolute = true ↔ ¬StaysRelative locator settings m format b.tool) ∧
      (locator.LooksInAbsolute m → (path.isAbsolute = true ↔
        ¬(format = .msvs ∧ (discovery locator settings).GivenRelative m b.tool))) ∧
      (path.isAbsolute = true ↔ ∀ (w : Workspace) (executor : Executor) (m : Machine)
        (request : BuildRequest) (base : Path), base.isAbsolute = true →
        ∃ c es, m.perform (b.build w executor request) = (m.logged es).submit executor c ∧
          (c.located base).components = (base.join path).components) := by
  obtain ⟨path, hpath⟩ := ToolResolution.exists_path_of_isLocated hlocated
  have hiff := isAbsolute_iff_of_selected hbase hselect hlocated hpath
  refine ⟨path, hpath, hiff, fun habsolute => ?_, isAbsolute_iff_builds hpath⟩
  rw [hiff, staysRelative_iff_of_looksInAbsolute habsolute]

/-- A driver below `/vs`, set in the settings. -/
theorem located_isAbsolute_iff_of_configured :
    let locator : Locator := { searchPath := none, base := ⟨"/home"⟩ }
    let settings : Settings := { tools := { devenv := some ⟨"/vs/devenv.com"⟩ } }
    let b : Backend := .msvs (.found ⟨"/vs/devenv.com"⟩) (inferGeneration ⟨"/vs/devenv.com"⟩)
    locator.base.isAbsolute = true ∧
      ((default : Machine).perform (select .msvs locator settings)).1 = .ok b ∧
      b.tool.isLocated = true ∧ (Path.mk "/vs/devenv.com").isAbsolute = true ∧
      ¬StaysRelative locator settings default .msvs b.tool ∧
      ¬(discovery locator settings).GivenRelative default b.tool ∧
      ∀ (w : Workspace) (executor : Executor) (m : Machine) (request : BuildRequest) (base : Path),
        base.isAbsolute = true →
        ∃ c es, m.perform (b.build w executor request) = (m.logged es).submit executor c ∧
          (c.located base).components = (base.join ⟨"/vs/devenv.com"⟩).components := by
  intro locator settings b
  have hbase : locator.base.isAbsolute = true := by decide
  have hselect : ((default : Machine).perform (select .msvs locator settings)).1 = .ok b :=
    selected_configured locator default rfl rfl
  have hlocated : b.tool.isLocated = true := rfl
  obtain ⟨path, hpath, hstays, hgiven, hbuilds⟩ := located_isAbsolute_iff hbase hselect hlocated
  cases hpath
  have habsolute : (Path.mk "/vs/devenv.com").isAbsolute = true := by decide
  have hlooks : locator.LooksInAbsolute default := Locator.looksInAbsolute_of_fromBase rfl hbase
  exact ⟨hbase, hselect, hlocated, habsolute, hstays.mp habsolute,
    fun h => (hgiven hlooks).mp habsolute ⟨rfl, h⟩, hbuilds.mp habsolute⟩

/-- **A driver that is set is taken as it stands.**  Not every located driver has an absolute path:
one that is set to `vs/devenv.com` has that one. -/
theorem not_forall_located_isAbsolute :
    ¬ ∀ (format : Format) (locator : Locator) (settings : Settings) (m : Machine) (b : Backend)
        (path : Path), locator.base.isAbsolute = true →
        (m.perform (select format locator settings)).1 = .ok b → b.tool.isLocated = true →
        b.tool.path? = some path → path.isAbsolute = true := by
  intro h
  let locator : Locator := { searchPath := none, base := ⟨"/home"⟩ }
  let settings : Settings := { tools := { devenv := some ⟨"vs/devenv.com"⟩ } }
  let b : Backend := .msvs (.found ⟨"vs/devenv.com"⟩) (inferGeneration ⟨"vs/devenv.com"⟩)
  have hselect : ((default : Machine).perform (select .msvs locator settings)).1 = .ok b :=
    selected_configured locator default rfl rfl
  have habsolute := h .msvs locator settings default b _ (by decide) hselect rfl rfl
  exact absurd habsolute (by decide)

end Backend

end CrossBuild
