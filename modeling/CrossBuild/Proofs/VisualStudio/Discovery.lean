import CrossBuild.Backend
import CrossBuild.Proofs.Tool.Candidates

/-!
# Which Visual Studio is found

The search for a driver goes through loops within loops: releases, and roots
for each release, with one source after the other.  `Discovery.Finds` tells
what comes of it without them.  A release that was asked for and is there
wins; after it the driver that was configured, or else is on the search path;
after it the newest release that is there.  Wherever roots are gone through,
the first one counts.

The places that an error lists are gathered by loops of their own, and
`Discovery.Searches` says where each of them stands in the list.
-/
namespace CrossBuild

namespace VisualStudio

/-! ## 1. Releases -/

/-- The known releases stand in the order of their years, the newest first. -/
theorem Release.known_newest_first : Release.known.Pairwise fun r s => s.year < r.year := by
  decide

theorem Release.find?_version : ∀ r ∈ Release.known, Release.find? r.version = some r := by
  decide

theorem Release.find?_eq_some_iff {version : String} {r : Release} :
    Release.find? version = some r ↔ r ∈ Release.known ∧ version = r.version := by
  constructor
  · intro h
    have hversion := List.find?_some (p := fun s : Release => s.version == version) h
    exact ⟨List.mem_of_find?_eq_some h, (beq_iff_eq.mp hversion).symm⟩
  · rintro ⟨hr, rfl⟩
    exact Release.find?_version r hr

/-- Builds of a release go through MSBuild from 2010 on. -/
theorem Release.generation_eq_msbuild_iff (r : Release) :
    r.generation = .msbuild ↔ 2010 ≤ r.year := by
  rw [Release.generation, Generation.ofYear]
  split <;> simp_all

namespace Discovery

variable (d : Discovery) (m : Machine)

/-- The driver of a release is below a root. -/
def IsUnder (r : Release) (root : Path) : Prop :=
  m.pathExists (r.pathUnder root) = true

/-- A release is installed: its driver is below some root. -/
def Installed (r : Release) : Prop :=
  ∃ root ∈ d.roots, IsUnder m r root

/-- A known release is asked for. -/
def Requests (r : Release) : Prop :=
  r ∈ Release.known ∧ d.version = some r.version

/-- The driver of a release that is used: the one below the first root that has it. -/
def Driver (r : Release) (path : Path) : Prop :=
  ∃ root, IsFirst (IsUnder m r) d.roots root ∧ path = r.pathUnder root

/-- The driver that no release has to name: the configured one as it is given, and without
it the first program of that name on the search path. -/
inductive Generic (path : Path) : Prop where
  | configured (given : d.driver = some path)
  | searched (unset : d.driver = none) (searchPath : String)
    (known : d.locator.searchPath = some searchPath)
    (first : IsFirst (fun p => m.isProgram p = true)
      (d.locator.places m searchPath driverName) path)

/-- A known release that is installed, and none that is newer. -/
def Newest (r : Release) : Prop :=
  r ∈ Release.known ∧ d.Installed m r ∧ ∀ s ∈ Release.known, d.Installed m s → s.year ≤ r.year

/-- What a search finds, by what there is. -/
structure Finds (s : Selection) : Prop where
  /-- A release that is asked for and installed is taken, below the first root that has it. -/
  pinned : ∀ path version, s.resolution = .pinned path version ↔
    ∃ r, d.Requests r ∧ d.Driver m r path ∧ version = r.version
  /-- Otherwise the configured driver is, or the one on the search path. -/
  found : ∀ path, s.resolution = .found path ↔
    (¬∃ r, d.Requests r ∧ d.Installed m r) ∧ d.Generic m path
  /-- Otherwise the newest installed release is, below the first root that has it. -/
  probed : ∀ path version, s.resolution = .probed path version ↔
    (¬∃ r, d.Requests r ∧ d.Installed m r) ∧ (¬∃ p, d.Generic m p) ∧
      ∃ r, d.Newest m r ∧ d.Driver m r path ∧ version = r.version
  /-- Otherwise there is none. -/
  notFound : s.resolution = .notFound ↔
    (¬∃ r, d.Requests r ∧ d.Installed m r) ∧ (¬∃ p, d.Generic m p) ∧
      ∀ r ∈ Release.known, ¬d.Installed m r
  /-- The engine of a release goes by its year. -/
  generation : ∀ r ∈ Release.known, ∀ path,
    s.resolution = .pinned path r.version ∨ s.resolution = .probed path r.version →
      (s.generation = .msbuild ↔ 2010 ≤ r.year)

/-! ## 2. The sources of a driver -/

variable {d m} {r : Release} {path : Path}

theorem underRoots?_eq_some_iff : d.underRoots? m r = some path ↔ d.Driver m r path := by
  have hunder : IsUnder m r = fun root => m.pathExists (r.pathUnder root) = true := rfl
  rw [underRoots?, List.find?_map, Option.map_eq_some_iff, Driver, hunder]
  simp only [find?_eq_some_iff_isFirst, Function.comp_apply, eq_comm (b := path)]

theorem underRoots?_eq_none_iff : d.underRoots? m r = none ↔ ¬d.Installed m r := by
  simp [underRoots?, Installed, IsUnder]

/-- A release is installed exactly when there is a driver of it to use. -/
theorem installed_iff : d.Installed m r ↔ ∃ path, d.Driver m r path := by
  constructor
  · intro h
    cases hfound : d.underRoots? m r with
    | none => exact absurd h (underRoots?_eq_none_iff.mp hfound)
    | some path => exact ⟨path, underRoots?_eq_some_iff.mp hfound⟩
  · rintro ⟨path, root, ⟨before, after, hroots, hroot, -⟩, -⟩
    exact ⟨root, by simp [hroots], hroot⟩

theorem requested?_eq_some_iff : d.requested? = some r ↔ d.Requests r := by
  rw [requested?, Option.bind_eq_some_iff]
  constructor
  · rintro ⟨version, hversion, h⟩
    obtain ⟨hr, rfl⟩ := Release.find?_eq_some_iff.mp h
    exact ⟨hr, hversion⟩
  · rintro ⟨hr, hversion⟩
    exact ⟨r.version, hversion, Release.find?_version r hr⟩

theorem generic?_eq_some_iff : d.generic? m = some path ↔ d.Generic m path := by
  have hname : driverName ≠ "" := by decide
  rw [generic?]
  cases hd : d.driver with
  | some driver =>
    constructor
    · intro h
      exact .configured (hd.trans h)
    · rintro (h | h)
      · exact hd.symm.trans h
      · rw [hd] at h
        cases h
  | none =>
    have hfind : (none <|> d.locator.find? m driverName) = some path ↔
        ∃ searchPath, d.locator.searchPath = some searchPath ∧
          IsFirst (fun p => m.isProgram p = true)
            (d.locator.places m searchPath driverName) path := by
      have hnone : (none <|> d.locator.find? m driverName) = d.locator.find? m driverName := rfl
      rw [hnone, Locator.find?, if_neg hname, Option.bind_eq_some_iff]
      simp only [find?_eq_some_iff_isFirst]
    rw [hfind]
    constructor
    · rintro ⟨searchPath, hs, hfirst⟩
      exact .searched hd searchPath hs hfirst
    · rintro (h | ⟨-, searchPath, hs, hfirst⟩)
      · rw [hd] at h
        cases h
      · exact ⟨searchPath, hs, hfirst⟩

/-- Of releases in the order of their years, the first one installed is the newest. -/
theorem probed?_eq_some_iff :
    d.probed? m = some (r, path) ↔ d.Newest m r ∧ d.Driver m r path := by
  have hfound (s : Release) (x : Release × Path) :
      ((d.underRoots? m s).map fun p => (s, p)) = some x ↔ x.1 = s ∧ d.Driver m s x.2 := by
    obtain ⟨s', p⟩ := x
    rw [Option.map_eq_some_iff]
    simp only [underRoots?_eq_some_iff, Prod.mk.injEq]
    constructor
    · rintro ⟨_, hdriver, rfl, rfl⟩
      exact ⟨rfl, hdriver⟩
    · rintro ⟨rfl, hdriver⟩
      exact ⟨p, hdriver, rfl, rfl⟩
  rw [probed?, List.findSome?_eq_some_iff]
  simp only [hfound, Option.map_eq_none_iff, underRoots?_eq_none_iff]
  constructor
  · rintro ⟨newer, _, older, hknown, ⟨rfl, hdriver⟩, hnewer⟩
    refine ⟨⟨by simp [hknown], installed_iff.mpr ⟨path, hdriver⟩, fun s hs hinstalled => ?_⟩,
      hdriver⟩
    have hsorted := Release.known_newest_first
    rw [hknown] at hs hsorted
    rcases List.mem_append.mp hs with hs | hs
    · exact absurd hinstalled (hnewer s hs)
    · rcases List.mem_cons.mp hs with rfl | hs
      · exact Nat.le_refl _
      · exact Nat.le_of_lt ((List.pairwise_cons.mp (List.pairwise_append.mp hsorted).2.1).1 s hs)
  · rintro ⟨⟨hr, -, hnewest⟩, hdriver⟩
    obtain ⟨newer, older, hknown⟩ := List.append_of_mem hr
    refine ⟨newer, r, older, hknown, ⟨rfl, hdriver⟩, fun s hs hinstalled => ?_⟩
    have hsorted := Release.known_newest_first
    rw [hknown] at hsorted
    have hyear : r.year < s.year := (List.pairwise_append.mp hsorted).2.2 s hs r (by simp)
    have hle := hnewest s (by simp [hknown, hs]) hinstalled
    omega

theorem probed?_eq_none_iff : d.probed? m = none ↔ ∀ r ∈ Release.known, ¬d.Installed m r := by
  simp only [probed?, List.findSome?_eq_none_iff, Option.map_eq_none_iff, underRoots?_eq_none_iff]

/-! ## 3. The sources in their order -/

/-- The release that is asked for, with its driver, if it is installed. -/
def pinned? (d : Discovery) (m : Machine) : Option (Release × Path) :=
  d.requested?.bind fun r => (d.underRoots? m r).map fun path => (r, path)

theorem pinned?_eq_some_iff :
    d.pinned? m = some (r, path) ↔ d.Requests r ∧ d.Driver m r path := by
  rw [pinned?, Option.bind_eq_some_iff]
  simp only [Option.map_eq_some_iff, underRoots?_eq_some_iff, requested?_eq_some_iff,
    Prod.mk.injEq]
  constructor
  · rintro ⟨_, hrequests, _, hdriver, rfl, rfl⟩
    exact ⟨hrequests, hdriver⟩
  · rintro ⟨hrequests, hdriver⟩
    exact ⟨r, hrequests, path, hdriver, rfl, rfl⟩

theorem pinned?_eq_none_iff :
    d.pinned? m = none ↔ ¬∃ r, d.Requests r ∧ d.Installed m r := by
  rw [Option.eq_none_iff_forall_ne_some]
  simp only [Prod.forall, ne_eq, pinned?_eq_some_iff, installed_iff]
  constructor
  · rintro h ⟨r, hrequests, path, hdriver⟩
    exact h r path ⟨hrequests, hdriver⟩
  · rintro h r path ⟨hrequests, hdriver⟩
    exact h ⟨r, hrequests, path, hdriver⟩

theorem generic?_eq_none_iff : d.generic? m = none ↔ ¬∃ path, d.Generic m path := by
  rw [Option.eq_none_iff_forall_ne_some, not_exists]
  simp only [ne_eq, generic?_eq_some_iff]

/-- Which source a selection is from: the first one that has a driver. -/
inductive Chosen (d : Discovery) (m : Machine) : Selection → Prop where
  | pinned {r : Release} {path : Path} (release : d.pinned? m = some (r, path)) :
    Chosen d m ⟨.pinned path r.version, r.generation⟩
  | found {path : Path} (unpinned : d.pinned? m = none) (driver : d.generic? m = some path) :
    Chosen d m ⟨.found path, inferGeneration path⟩
  | probed {r : Release} {path : Path} (unpinned : d.pinned? m = none)
    (driverless : d.generic? m = none) (release : d.probed? m = some (r, path)) :
    Chosen d m ⟨.probed path r.version, r.generation⟩
  | notFound (unpinned : d.pinned? m = none) (driverless : d.generic? m = none)
    (bare : d.probed? m = none) : Chosen d m ⟨.notFound, .legacy⟩

theorem chosen_unpinned (h : d.pinned? m = none) : d.Chosen m (d.unpinned m).1 := by
  rw [unpinned]
  cases hg : d.generic? m with
  | some path => exact .found h hg
  | none =>
    simp only
    cases hp : d.probed? m with
    | some x => exact .probed h hg hp
    | none => exact .notFound h hg hp

theorem chosen_outcome (d : Discovery) (m : Machine) : d.Chosen m (d.outcome m).1 := by
  rw [outcome]
  cases hr : d.requested? with
  | none => exact chosen_unpinned (by rw [pinned?, hr]; rfl)
  | some r =>
    simp only
    cases hu : d.underRoots? m r with
    | some path => exact .pinned (by rw [pinned?, hr, Option.bind_some, hu]; rfl)
    | none => exact chosen_unpinned (by rw [pinned?, hr, Option.bind_some, hu]; rfl)

/-- The first source that has a driver decides, whatever the others have. -/
theorem Chosen.finds {s : Selection} (h : d.Chosen m s) : d.Finds m s := by
  have hpinned (path : Path) (version : String) :
      (∃ r, d.Requests r ∧ d.Driver m r path ∧ version = r.version) ↔
        ∃ r, d.pinned? m = some (r, path) ∧ version = r.version := by
    simp only [pinned?_eq_some_iff, and_assoc]
  have hprobed (path : Path) (version : String) :
      (∃ r, d.Newest m r ∧ d.Driver m r path ∧ version = r.version) ↔
        ∃ r, d.probed? m = some (r, path) ∧ version = r.version := by
    simp only [probed?_eq_some_iff, and_assoc]
  constructor
  case pinned =>
    intro path version
    rw [hpinned]
    cases h with
    | pinned h => simp [h, and_comm, eq_comm]
    | found h _ | probed h _ _ | notFound h _ _ => simp [h]
  case found =>
    intro path
    rw [← pinned?_eq_none_iff, ← generic?_eq_some_iff]
    cases h with
    | pinned h => simp [h]
    | found h hg => simp [h, hg]
    | probed h hg _ | notFound h hg _ => simp [h, hg]
  case probed =>
    intro path version
    rw [hprobed, ← pinned?_eq_none_iff, ← generic?_eq_none_iff]
    cases h with
    | pinned h => simp [h]
    | found h hg => simp [h, hg]
    | probed h hg hp => simp [h, hg, hp, and_comm, eq_comm]
    | notFound h hg hp => simp [h, hg, hp]
  case notFound =>
    rw [← pinned?_eq_none_iff, ← generic?_eq_none_iff, ← probed?_eq_none_iff]
    cases h with
    | pinned h => simp [h]
    | found h hg => simp [h, hg]
    | probed h hg hp | notFound h hg hp => simp [h, hg, hp]
  case generation =>
    intro r hr path hresolution
    -- A version names one known release, so the selection is of the release asked about.
    have hgeneration {s : Release} (hs : s ∈ Release.known) (hversion : s.version = r.version) :
        s.generation = .msbuild ↔ 2010 ≤ r.year := by
      have h := Release.find?_version s hs
      rw [hversion, Release.find?_version r hr] at h
      cases h
      exact r.generation_eq_msbuild_iff
    cases h with
    | @pinned s p h =>
      have hversion : s.version = r.version := by simp at hresolution; exact hresolution.2
      exact hgeneration (pinned?_eq_some_iff.mp h).1.1 hversion
    | @probed s p _ _ h =>
      have hversion : s.version = r.version := by simp at hresolution; exact hresolution.2
      exact hgeneration (probed?_eq_some_iff.mp h).1.1 hversion
    | found | notFound => simp at hresolution

/-! ## 4. What is logged -/

/-- The driver that no release pins is found without a warning. -/
theorem level_unpinned (d : Discovery) (m : Machine) :
    ∀ e ∈ (d.unpinned m).2, e.level = .debug := by
  rw [unpinned]
  cases d.generic? m with
  | some path => simp [Event.level]
  | none =>
    simp only
    cases d.probed? m <;> simp [Event.level]

/-- The warnings among events. -/
def warnings (es : List Event) : List Event :=
  es.filter fun e => e.level == .warn

theorem warnings_unpinned (d : Discovery) (m : Machine) : warnings (d.unpinned m).2 = [] := by
  rw [warnings, List.filter_eq_nil_iff]
  intro e he
  rw [level_unpinned d m e he]
  decide

/-- The only warning is on a known release that is asked for and not installed. -/
theorem warnings_outcome (d : Discovery) (m : Machine) :
    warnings (d.outcome m).2 =
      match d.requested? with
      | none => []
      | some r =>
        if (d.underRoots? m r).isSome then [] else [.releaseMissing r.version r.relativePath] := by
  rw [outcome]
  cases d.requested? with
  | none => exact warnings_unpinned d m
  | some r =>
    simp only
    cases d.underRoots? m r with
    | some path => rfl
    | none =>
      have hcons : warnings (.releaseMissing r.version r.relativePath :: (d.unpinned m).2) =
          .releaseMissing r.version r.relativePath :: warnings (d.unpinned m).2 := rfl
      rw [hcons, warnings_unpinned]
      rfl

theorem forM_log (es : List Event) (m : Machine) :
    (es.forM log : MachineM PUnit) m = (⟨⟩, m.logged es) := by
  induction es generalizing m with
  | nil => exact congrArg (Prod.mk _) m.logged_nil.symm
  | cons e es ih =>
    have hstep : ((e :: es).forM log : MachineM PUnit) m =
        (es.forM log : MachineM PUnit) (m.logged [e]) := rfl
    rw [hstep, ih, Machine.logged_logged]
    rfl

theorem run_eq (d : Discovery) (m : Machine) :
    d.run m = ((d.outcome m).1, m.logged (d.outcome m).2) := by
  have hrun : d.run m = ((d.outcome m).1, (((d.outcome m).2.forM log : MachineM PUnit) m).2) := rfl
  rw [hrun, forM_log]

/-! ## 5. The places that an error lists -/

/-- Where every place stands in the list of those that are looked at. -/
structure Searches (d : Discovery) (paths : List Path) : Prop where
  /-- The name on the search path is first. -/
  first : paths[0]? = some ⟨"devenv.com"⟩
  /-- Every known release follows below every root: all roots for one release, and then
  the next release. -/
  follows : ∀ i j r root, Release.known[i]? = some r → d.roots[j]? = some root →
    paths[1 + i * d.roots.length + j]? = some (r.pathUnder root)
  /-- There is nothing else. -/
  length_eq : paths.length = 1 + Release.known.length * d.roots.length
  /-- The releases come from the newest to the oldest. -/
  newest_first : Release.known.Pairwise fun r s => s.year < r.year

/-- In lists of one length that are put after each other, the entries of the `i`-th one
start after `i` of them. -/
theorem getElem?_flatMap_of_length {α β : Type} {f : α → List β} {n : Nat}
    (hf : ∀ a, (f a).length = n) {xs : List α} {i j : Nat} {a : α} (ha : xs[i]? = some a)
    (hj : j < n) : (xs.flatMap f)[i * n + j]? = (f a)[j]? := by
  induction xs generalizing i with
  | nil => simp at ha
  | cons x xs ih =>
    rw [List.flatMap_cons]
    cases i with
    | zero =>
      cases ha
      rw [Nat.zero_mul, Nat.zero_add, List.getElem?_append_left (by rw [hf]; exact hj)]
    | succ i =>
      have hshift : (i + 1) * n + j = (f x).length + (i * n + j) := by
        rw [hf, Nat.succ_mul]
        omega
      rw [hshift, List.getElem?_append_right (Nat.le_add_right _ _), Nat.add_sub_cancel_left]
      exact ih ha

theorem searches_searched (d : Discovery) : d.Searches d.searched := by
  have hlength (r : Release) : (d.roots.map r.pathUnder).length = d.roots.length :=
    List.length_map _
  constructor
  case first => rfl
  case follows =>
    intro i j r root hr hroot
    obtain ⟨hj, -⟩ := List.getElem?_eq_some_iff.mp hroot
    have hindex : 1 + i * d.roots.length + j = (i * d.roots.length + j) + 1 := by omega
    rw [searched, hindex, List.getElem?_cons_succ, getElem?_flatMap_of_length hlength hr hj,
      List.getElem?_map, hroot]
    rfl
  case length_eq =>
    rw [searched, List.length_cons, List.length_flatMap, List.map_congr_left fun r _ => hlength r,
      List.map_const', List.sum_replicate_nat, Nat.add_comm]
  case newest_first => exact Release.known_newest_first

/-! ## 6. The search as a whole -/

/-- When a search warns. -/
structure Warns (d : Discovery) (m : Machine) (es : List Event) : Prop where
  /-- A known release that is asked for and not installed is warned of, once. -/
  missing : ∀ r, d.Requests r → ¬d.Installed m r →
    warnings es = [.releaseMissing r.version r.relativePath]
  /-- Nothing else is. -/
  quiet : (∀ r, d.Requests r → d.Installed m r) → warnings es = []

theorem warns_outcome (d : Discovery) (m : Machine) : d.Warns m (d.outcome m).2 := by
  constructor
  case missing =>
    intro r hr hmissing
    rw [warnings_outcome, requested?_eq_some_iff.mpr hr]
    simp only [underRoots?_eq_none_iff.mpr hmissing]
    rfl
  case quiet =>
    intro h
    rw [warnings_outcome]
    cases hr : d.requested? with
    | none => rfl
    | some r =>
      obtain ⟨path, hdriver⟩ := installed_iff.mp (h r (requested?_eq_some_iff.mp hr))
      simp only [underRoots?_eq_some_iff.mpr hdriver]
      rfl

theorem Chosen.isLocated_eq {s : Selection} (h : d.Chosen m s) :
    s.resolution.isLocated = decide (s.resolution ≠ .notFound) := by
  cases h <;> rfl

theorem perform_ofDiscovery (d : Discovery) (m : Machine) :
    m.perform (Backend.ofDiscovery d) =
      (if (d.outcome m).1.resolution = .notFound then
        .error (.toolNotFound .msvs driverName d.searched)
      else .ok (.msvs (d.outcome m).1.resolution (d.outcome m).1.generation),
        m.logged (d.outcome m).2) := by
  have hlift : m.perform (liftM d.run : Verify Selection) = (.ok (d.run m).1, (d.run m).2) := rfl
  rw [Backend.ofDiscovery, Machine.perform_bind, hlift, run_eq]
  simp only [(chosen_outcome d m).isLocated_eq, decide_eq_true_eq]
  by_cases h : (d.outcome m).1.resolution = .notFound
  · rw [if_neg (not_not_intro h), if_pos h]
    rfl
  · rw [if_pos h, if_neg h]
    rfl

/-- **What a search for Visual Studio finds.**  It looks below the given roots, or below the
default ones if there are none, and finds a driver by the rules of `Finds`, with a
warning where `Warns` says so.  The backend cannot be set up exactly if nothing is found,
and then its error lists every place that there is, in the order of `Searches`. -/
theorem run_finds (locator : Locator) (roots : List Path) (version : Option String)
    (driver : Option Path) (m : Machine) :
    let d := Discovery.new locator roots version driver
    d.roots = (if roots = [] then defaultRoots else roots) ∧
    ∃ s es, d.run m = (s, m.logged es) ∧ d.Finds m s ∧ d.Warns m es ∧
      m.perform (Backend.ofDiscovery d) =
        (if s.resolution = .notFound then
          .error (.toolNotFound .msvs "devenv.com" d.searched)
        else .ok (.msvs s.resolution s.generation), m.logged es) ∧
      d.Searches d.searched := by
  intro d
  refine ⟨?_, (d.outcome m).1, (d.outcome m).2, d.run_eq m, (chosen_outcome d m).finds,
    d.warns_outcome m, d.perform_ofDiscovery m, d.searches_searched⟩
  cases roots <;> rfl

end Discovery

end VisualStudio

end CrossBuild
