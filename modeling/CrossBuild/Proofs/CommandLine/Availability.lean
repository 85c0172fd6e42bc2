import CrossBuild.Proofs.CommandLine.Format

/-!
# Which formats are available

Backends are set up in three places, each for itself.  A listing makes an entry of
every format and puts one of its own where the set-up fails, a check asks for a
single format and ends with an error, and a scenario keeps the backend.  All three
go by what `Backend.selected` says: it does not depend on the log, which is all
that one set-up changes for the next.

So a check succeeds exactly where the listing has an available entry
(`CommandLine.check_agrees_with_listing`).  Both read the settings of the current
directory first, and where these are faulty there is no listing, and no check
succeeds.
-/
namespace CrossBuild

/-! ## 1. Entries -/

namespace Summary

variable (locator : Locator) (settings : Settings) (m : Machine)

/-- The entry that is made of a set-up. -/
def ofSelected (format : Format) : Except VerifyError Backend → Summary
  | .ok b => ofBackend b
  | .error _ => unavailable format

theorem ofFormat_eq (format : Format) :
    ∃ es, ofFormat locator settings format m =
      (ofSelected format (Backend.selected format locator settings m), m.logged es) := by
  obtain ⟨es, hselect⟩ := Backend.perform_select format locator settings m
  have hrun : ofFormat locator settings format m =
      match m.perform (Backend.select format locator settings) with
      | (.ok b, m') => (ofBackend b, m')
      | (.error e, m') => (unavailable format, m'.logged [.unavailable format e.message]) := by
    rw [ofFormat]
    have hbind (k : Except VerifyError Backend → MachineM Summary) :
        ((Backend.select format locator settings).run >>= k : MachineM Summary) m =
          k (m.perform (Backend.select format locator settings)).1
            (m.perform (Backend.select format locator settings)).2 := rfl
    rw [hbind]
    rcases m.perform (Backend.select format locator settings) with ⟨r, m'⟩
    cases r <;> rfl
  rw [hrun, hselect]
  cases Backend.selected format locator settings m with
  | ok b => exact ⟨es, rfl⟩
  | error e => exact ⟨_, congrArg (Prod.mk _) (m.logged_logged _ _)⟩

/-- Entries are made one after the other, each as if it were the first. -/
theorem mapM_ofFormat (formats : List Format) :
    ∃ es, (formats.mapM (ofFormat locator settings) : MachineM (List Summary)) m =
      (formats.map fun f => ofSelected f (Backend.selected f locator settings m),
        m.logged es) := by
  induction formats generalizing m with
  | nil => exact ⟨[], congrArg (Prod.mk _) m.logged_nil.symm⟩
  | cons f formats ih =>
    obtain ⟨es, hfirst⟩ := ofFormat_eq locator settings m f
    obtain ⟨es', hrest⟩ := ih (m.logged es)
    simp only [Backend.selected_logged] at hrest
    have hstep : ((f :: formats).mapM (ofFormat locator settings) : MachineM (List Summary)) m =
        match ofFormat locator settings f m with
        | (s, m') =>
          match (formats.mapM (ofFormat locator settings) : MachineM (List Summary)) m' with
          | (rest, m'') => (s :: rest, m'') := by
      rw [List.mapM_cons]
      rfl
    refine ⟨es ++ es', ?_⟩
    rw [hstep, hfirst]
    simp only [hrest, Machine.logged_logged]
    rfl

/-- The entries of all formats. -/
def entries : List Summary :=
  Format.all.map fun f => ofSelected f (Backend.selected f locator settings m)

theorem all_eq : ∃ es, all locator settings m = (entries locator settings m, m.logged es) :=
  mapM_ofFormat locator settings m Format.all

theorem format_ofSelected (f : Format) :
    (ofSelected f (Backend.selected f locator settings m)).format = f := by
  have hselects := Backend.selects_selected f locator settings m
  cases hr : Backend.selected f locator settings m with
  | ok b => exact hselects.format_eq b hr
  | error e => rfl

/-- What an entry holds, by its format: the name of the tool, what the search for it leads to,
and the engine if it is Visual Studio's. -/
structure Holds (s : Summary) : Prop where
  /-- The data dump has no tool. -/
  gypd : s.format = .gypd → s.tool = "(none)" ∧ s.resolution = .notFound ∧ s.generation = none
  /-- A tool with names of its own goes by the first of them, and is looked for under all. -/
  named : ∀ build names, Backend.Named s.format build names → names.head? = some s.tool ∧
    s.resolution = Locator.resolve (locator.find? m)
      (Backend.candidates (settings.toolFor s.format) names) ∧
    s.generation = none
  /-- The driver of Visual Studio comes with the engine, unless there is none. -/
  msvs : s.format = .msvs →
    let found := ((Backend.discovery locator settings).outcome m).1
    s.tool = "devenv" ∧ s.resolution = found.resolution ∧
      s.generation = if found.resolution = .notFound then none else some found.generation

theorem holds_ofSelected (f : Format) :
    (ofSelected f (Backend.selected f locator settings m)).Holds locator settings m := by
  have hformat := format_ofSelected locator settings m f
  constructor
  case gypd =>
    intro h
    cases hformat.symm.trans h
    exact ⟨rfl, rfl, rfl⟩
  case named =>
    intro build names hnamed
    rw [hformat] at hnamed ⊢
    rw [Backend.selected_named locator settings m hnamed]
    cases hnamed <;> exact ⟨rfl, rfl, rfl⟩
  case msvs =>
    intro h found
    cases hformat.symm.trans h
    rw [Backend.selected_msvs]
    by_cases hnone : found.resolution = .notFound
    · rw [if_pos hnone, if_pos hnone]
      exact ⟨rfl, hnone.symm, rfl⟩
    · rw [if_neg hnone, if_neg hnone]
      exact ⟨rfl, rfl, rfl⟩

/-- What an entry says of its format. -/
structure Describes (s : Summary) : Prop where
  /-- It is that of the backend, if the backend can be set up. -/
  of_ok : ∀ b, Backend.selected s.format locator settings m = .ok b → s = ofBackend b
  /-- It has what the search for the tool leads to. -/
  holds : s.Holds locator settings m
  /-- Only Visual Studio can be missing, and is so if the search for it finds nothing. -/
  error_iff : (∃ e, Backend.selected s.format locator settings m = .error e) ↔
    s.format = .msvs ∧
      ((Backend.discovery locator settings).outcome m).1.resolution = .notFound
  /-- The entry in its place has the name of its tool, and nothing else. -/
  of_error : ∀ e, Backend.selected s.format locator settings m = .error e →
    s.resolution = .notFound ∧ s.generation = none ∧ s.isAvailable = false ∧
      ∀ b : Backend, b.format = s.format → s.tool = b.toolName
  /-- What is available can be run, the data dump aside. -/
  usable : s.isAvailable = true → s.format ≠ .gypd →
    ∃ b path, Backend.selected s.format locator settings m = .ok b ∧ b.requireTool = .ok path

theorem requireTool_of_isLocated {b : Backend} (h : b.tool.isLocated = true) :
    ∃ path, b.requireTool = .ok path := by
  rw [Backend.requireTool]
  cases hb : b.tool with
  | pinned path | found path | probed path => exact ⟨path, rfl⟩
  | fallback | notFound =>
    rw [hb] at h
    cases h

theorem describes_ofSelected (f : Format) :
    (ofSelected f (Backend.selected f locator settings m)).Describes locator settings m := by
  have hselects := Backend.selects_selected f locator settings m
  have hformat := format_ofSelected locator settings m f
  have herror : (∃ e, Backend.selected f locator settings m = .error e) ↔ f = .msvs ∧
      ((Backend.discovery locator settings).outcome m).1.resolution = .notFound := by
    constructor
    · rintro ⟨e, he⟩
      obtain ⟨hmsvs, hnone, -⟩ := (hselects.error_iff e).mp he
      exact ⟨hmsvs, hnone⟩
    · rintro ⟨hmsvs, hnone⟩
      exact ⟨_, (hselects.error_iff _).mpr ⟨hmsvs, hnone, rfl⟩⟩
  constructor
  case of_ok =>
    intro b hb
    rw [hformat] at hb
    rw [hb]
    rfl
  case holds => exact holds_ofSelected locator settings m f
  case error_iff =>
    rw [hformat]
    exact herror
  case of_error =>
    intro e he
    rw [hformat] at he ⊢
    obtain ⟨rfl, -⟩ := herror.mp ⟨e, he⟩
    rw [he]
    refine ⟨rfl, rfl, rfl, fun b hb => ?_⟩
    cases b with
    | msvs => rfl
    | gypd | make | scons | xcode => cases hb
  case usable =>
    intro havailable hgypd
    rw [hformat] at hgypd ⊢
    cases hr : Backend.selected f locator settings m with
    | error e =>
      obtain ⟨rfl, -⟩ := herror.mp ⟨e, hr⟩
      rw [hr] at havailable
      cases havailable
    | ok b =>
      rw [hr] at havailable
      have hb : b.format ≠ .gypd := by
        rw [hselects.format_eq b hr]
        exact hgypd
      have hlocated : b.tool.isLocated = true := by
        simpa [isAvailable, ofSelected, ofBackend, hb] using havailable
      obtain ⟨path, hpath⟩ := requireTool_of_isLocated hlocated
      exact ⟨b, path, rfl, hpath⟩

/-- A format has one entry. -/
theorem filter_entries (f : Format) :
    (entries locator settings m).filter (fun s => s.format = f) =
      [ofSelected f (Backend.selected f locator settings m)] := by
  have hone : Format.all.filter (fun g => decide (g = f)) = [f] := by
    cases f <;> rfl
  rw [entries, List.filter_map]
  simp only [Function.comp_def, format_ofSelected, hone, List.map_cons, List.map_nil]

theorem mem_entries_iff {s : Summary} :
    s ∈ entries locator settings m ↔
      s = ofSelected s.format (Backend.selected s.format locator settings m) := by
  constructor
  · intro h
    have hfilter : s ∈ (entries locator settings m).filter (fun t => t.format = s.format) :=
      List.mem_filter.mpr ⟨h, by simp⟩
    rw [filter_entries] at hfilter
    exact List.mem_singleton.mp hfilter
  · intro h
    rw [h]
    exact List.mem_map.mpr ⟨s.format, s.format.mem_all, rfl⟩

end Summary

/-! ## 2. Command lines -/

theorem ProgramError.exitStatus_ne_zero (e : ProgramError) : e.exitStatus ≠ 0 := by
  cases e with
  | verification e =>
    refine Int.natCast_ne_zero.mpr ?_
    rw [VerifyError.exitStatus]
    split <;> decide
  | system cause => exact Int.one_ne_zero

namespace CommandLine

/-- A command line ends as its task does. -/
theorem run_ends (executor : Executor) (color : Bool) (c : CommandLine) (m : Machine) :
    let t : Terminal := { verbose := c.verbose, shown := m.events.length }
    let ending := (m.performProgram t (c.perform executor)).1
    (run executor color c m).1.exit =
        (match ending.1 with
          | .ok status => status
          | .error e => e.exitStatus) ∧
      (run executor color c m).1.stdout = ending.2.stdout := by
  intro t ending
  have hrun : run executor color c m =
      (let x := Id.run (StateT.run (StateT.run ((c.perform executor).run >>=
        conclude (color && !c.noColor)) t) m)
      ({ exit := x.1.1, stdout := x.1.2.stdout, stderr := x.1.2.stderr }, x.2)) := rfl
  have hending : ending = (Id.run (StateT.run (StateT.run (c.perform executor).run t) m)).1 := rfl
  rw [hrun, hending]
  simp only [StateT.run_bind, Id.run_bind]
  rcases Id.run (StateT.run (StateT.run (c.perform executor).run t) m) with ⟨⟨r, t'⟩, m'⟩
  cases r <;> exact ⟨rfl, rfl⟩

theorem perform_currentDirectory (m : Machine) :
    m.perform currentDirectory = (m.currentDirectory.mapError .io, m) := by
  simp only [currentDirectory, Machine.perform_bind, Machine.perform_get]
  cases m.currentDirectory <;> rfl

/-- A task that opens no scenario finds the current directory by itself, or fails by itself. -/
theorem performProgram_processDirectory_bind {α : Type} (m : Machine) (t : Terminal)
    (k : Path → Program α) :
    m.performProgram t (processDirectory >>= k) =
      match m.currentDirectory with
      | .ok directory => m.performProgram t (k directory)
      | .error e => ((.error (.system e), t), m) := by
  have hrun : Id.run (StateT.run (StateT.run processDirectory.run t) m) =
      ((m.currentDirectory.mapError .system, t), m) := by
    have hread : Id.run (StateT.run (StateT.run processDirectory.run t) m) =
        Id.run (StateT.run (StateT.run (ExceptT.run
          (match m.currentDirectory with
            | .ok directory => (pure directory : Program Path)
            | .error e => throw (.system e))) t) m) := rfl
    rw [hread]
    cases m.currentDirectory <;> rfl
  rw [Machine.performProgram, ExceptT.run_bind, StateT.run_bind, StateT.run_bind, Id.run_bind,
    hrun]
  cases m.currentDirectory <;> rfl

/-- Reading settings leaves nothing behind but events. -/
theorem perform_discover (m : Machine) (directory : Path) :
    ∃ r es, m.perform (Settings.discover directory) = (r, m.logged es) := by
  obtain ⟨-, -, hdiscover⟩ := Settings.discover_layers m none directory
  have hperform : m.perform (Settings.discover directory) = _ :=
    hdiscover.trans (Settings.perform_discoverWith _ _ _)
  exact ⟨_, _, hperform⟩

/-- The listing of a machine has these entries: its settings are those of the current
directory, and its tools are looked for in the environment. -/
def Lists (m : Machine) (entries : List Summary) : Prop :=
  ∃ directory settings, m.currentDirectory = .ok directory ∧
    (m.perform (Settings.discover directory)).1 = .ok settings ∧
    (Summary.all (.ofEnvironment m) settings m).1 = entries

variable {m : Machine} {directory : Path}

theorem fst_all (locator : Locator) (settings : Settings) (m : Machine) :
    (Summary.all locator settings m).1 = Summary.entries locator settings m := by
  obtain ⟨es, h⟩ := Summary.all_eq locator settings m
  rw [h]

theorem summaries_eq_ok_iff {entries : List Summary} :
    (m.perform (summaries directory)).1 = .ok entries ↔
      ∃ settings, (m.perform (Settings.discover directory)).1 = .ok settings ∧
        entries = Summary.entries (.ofEnvironment m) settings m := by
  have hlift (t : MachineM (List Summary)) (m : Machine) :
      m.perform (liftM t : Verify (List Summary)) = (.ok (t m).1, (t m).2) := rfl
  obtain ⟨r, es, hsettings⟩ := perform_discover m directory
  rw [summaries, Machine.perform_bind, hsettings]
  cases r with
  | error e =>
    constructor
    · rintro ⟨⟩
    · rintro ⟨_, ⟨⟩, -⟩
  | ok settings =>
    have henvironment : Locator.ofEnvironment (m.logged es) = .ofEnvironment m := rfl
    simp only [Machine.perform_bind, Machine.perform_get, henvironment, hlift, fst_all,
      Summary.entries, Backend.selected_logged]
    constructor
    · rintro ⟨⟩
      exact ⟨settings, rfl, rfl⟩
    · rintro ⟨_, ⟨⟩, rfl⟩
      rfl

theorem lists_iff {entries : List Summary} :
    Lists m entries ↔ ∃ directory, m.currentDirectory = .ok directory ∧
      (m.perform (summaries directory)).1 = .ok entries := by
  simp only [Lists, summaries_eq_ok_iff, fst_all, exists_and_left, eq_comm (b := entries)]

theorem summaryOf_eq_ok_iff {format : Format} {s : Summary} :
    (m.perform (summaryOf directory format)).1 = .ok s ↔ ∃ settings b,
      (m.perform (Settings.discover directory)).1 = .ok settings ∧
      Backend.selected format (.ofEnvironment m) settings m = .ok b ∧ s = .ofBackend b := by
  obtain ⟨r, es, hsettings⟩ := perform_discover m directory
  rw [summaryOf, Machine.perform_bind, hsettings]
  cases r with
  | error e =>
    constructor
    · rintro ⟨⟩
    · rintro ⟨_, _, ⟨⟩, -⟩
  | ok settings =>
    have henvironment : Locator.ofEnvironment (m.logged es) = .ofEnvironment m := rfl
    obtain ⟨es', hselect⟩ :=
      Backend.perform_select format (.ofEnvironment m) settings (m.logged es)
    simp only [Machine.perform_bind, Machine.perform_get, henvironment, hselect,
      Backend.selected_logged]
    constructor
    · intro h
      cases hr : Backend.selected format (.ofEnvironment m) settings m with
      | error e =>
        rw [hr] at h
        cases h
      | ok b =>
        rw [hr] at h
        cases h
        exact ⟨settings, b, rfl, hr, rfl⟩
    · rintro ⟨_, b, ⟨⟩, hr, rfl⟩
      rw [hr]
      rfl

/-- A listing succeeds if there are entries, and prints them. -/
theorem perform_listFormats (json : Bool) (m : Machine) (t : Terminal) :
    (∀ entries, Lists m entries → (m.performProgram t (listFormats json)).1 =
      (.ok 0, { t with
        stdout := t.stdout ++ if json then Listing.json entries else Listing.table entries })) ∧
    ((¬∃ entries, Lists m entries) →
      ∃ e, (m.performProgram t (listFormats json)).1.1 = .error e) := by
  simp only [lists_iff]
  rw [listFormats, performProgram_processDirectory_bind]
  cases m.currentDirectory with
  | error e =>
    refine ⟨?_, fun _ => ⟨.system e, rfl⟩⟩
    rintro _ ⟨_, ⟨⟩, -⟩
  | ok directory =>
    simp only [performProgram_onMachine_bind]
    rcases hsummaries : m.perform (summaries directory) with ⟨r, m'⟩
    cases r with
    | error e =>
      refine ⟨?_, fun _ => ⟨.verification e, rfl⟩⟩
      rintro _ ⟨_, ⟨⟩, h⟩
      rw [hsummaries] at h
      cases h
    | ok entries =>
      refine ⟨?_, fun h => absurd ⟨entries, directory, rfl, by rw [hsummaries]⟩ h⟩
      rintro _ ⟨_, ⟨⟩, h⟩
      rw [hsummaries] at h
      cases h
      rfl

/-- A text names a format that can be built. -/
def Checks (m : Machine) (text : String) : Prop :=
  ∃ format directory s, Format.parse? text = some format ∧ m.currentDirectory = .ok directory ∧
    (m.perform (summaryOf directory format)).1 = .ok s ∧ s.isAvailable = true

theorem perform_checkFormat (text : String) (m : Machine) (t : Terminal) :
    (Checks m text → (m.performProgram t (checkFormat text)).1.1 = .ok 0) ∧
    (¬Checks m text → ∃ e, (m.performProgram t (checkFormat text)).1.1 = .error e) := by
  rw [checkFormat, readFormat, performProgram_onMachine_bind, Machine.perform_liftExcept]
  cases hparse : Format.parse? text with
  | none =>
    refine ⟨?_, fun _ => ⟨.verification (.unknownFormat text), rfl⟩⟩
    rintro ⟨_, _, _, hformat, -⟩
    cases hparse.symm.trans hformat
  | some format =>
    simp only [performProgram_processDirectory_bind]
    cases hd : m.currentDirectory with
    | error e =>
      refine ⟨?_, fun _ => ⟨.system e, rfl⟩⟩
      rintro ⟨_, _, _, -, hdirectory, -⟩
      cases hd.symm.trans hdirectory
    | ok directory =>
      simp only [performProgram_onMachine_bind]
      rcases hsummary : m.perform (summaryOf directory format) with ⟨r, m'⟩
      -- There is one format and one directory to check.
      have hchecks : Checks m text ↔ ∃ s, r = .ok s ∧ s.isAvailable = true := by
        constructor
        · rintro ⟨_, _, s, hformat, hdirectory, hs, havailable⟩
          cases hparse.symm.trans hformat
          cases hd.symm.trans hdirectory
          rw [hsummary] at hs
          exact ⟨s, hs, havailable⟩
        · rintro ⟨s, rfl, havailable⟩
          exact ⟨format, directory, s, hparse, hd, by rw [hsummary], havailable⟩
      rw [hchecks]
      cases r with
      | error e =>
        refine ⟨?_, fun _ => ⟨.verification e, rfl⟩⟩
        rintro ⟨_, ⟨⟩, -⟩
      | ok s =>
        cases havailable : s.isAvailable with
        | true =>
          refine ⟨fun _ => ?_, fun h => absurd ⟨s, rfl, havailable⟩ h⟩
          simp only [havailable]
          rfl
        | false =>
          refine ⟨?_, fun _ => ⟨.verification s.missingTool, ?_⟩⟩
          · rintro ⟨_, ⟨⟩, h⟩
            cases havailable.symm.trans h
          · simp only [havailable]
            rfl

/-- What can be built is what the listing has as available. -/
theorem checks_iff {text : String} :
    Checks m text ↔ ∃ format entries, Format.parse? text = some format ∧ Lists m entries ∧
      ∃ s ∈ entries, s.format = format ∧ s.isAvailable = true := by
  simp only [Checks, summaryOf_eq_ok_iff, lists_iff, summaries_eq_ok_iff]
  constructor
  · rintro ⟨format, directory, _, hparse, hd, ⟨settings, b, hsettings, hb, rfl⟩, havailable⟩
    have hformat : b.format = format :=
      (Backend.selects_selected _ _ _ m).format_eq b hb
    refine ⟨format, _, hparse, ⟨directory, hd, settings, hsettings, rfl⟩, .ofBackend b, ?_,
      hformat, havailable⟩
    have hsame : (Summary.ofBackend b).format = format := hformat
    rw [Summary.mem_entries_iff, hsame, hb]
    rfl
  · rintro ⟨format, _, hparse, ⟨directory, hd, settings, hsettings, rfl⟩, s, hs, rfl, havailable⟩
    rw [Summary.mem_entries_iff] at hs
    cases hr : Backend.selected s.format (.ofEnvironment m) settings m with
    | ok b =>
      rw [hr] at hs
      exact ⟨s.format, directory, s, hparse, hd, ⟨settings, b, hsettings, hr, hs⟩, havailable⟩
    | error e =>
      -- An entry of a set-up that failed is not available.
      have hdescribes := Summary.describes_ofSelected (.ofEnvironment m) settings m s.format
      rw [← hs] at hdescribes
      cases havailable.symm.trans (hdescribes.of_error e hr).2.2.1

theorem exit_eq_of_ok {executor : Executor} {color : Bool} {c : CommandLine} {status : Int}
    (h : (m.performProgram { verbose := c.verbose, shown := m.events.length }
      (c.perform executor)).1.1 = .ok status) : (run executor color c m).1.exit = status := by
  rw [(run_ends executor color c m).1, h]

theorem exit_ne_of_error {executor : Executor} {color : Bool} {c : CommandLine}
    {e : ProgramError}
    (h : (m.performProgram { verbose := c.verbose, shown := m.events.length }
      (c.perform executor)).1.1 = .error e) : (run executor color c m).1.exit ≠ 0 := by
  rw [(run_ends executor color c m).1, h]
  exact e.exitStatus_ne_zero

/-- **The listing and the check agree with the set-up of backends.**  A listing has one entry
for each format, in their order, and each tells what comes of setting up the backend.
The command that lists prints these entries for the settings of the current directory
and the environment, if the settings can be read, and a check succeeds exactly if its
text names a format whose entry there is available. -/
theorem check_agrees_with_listing :
    (∀ (locator : Locator) (settings : Settings) (m : Machine), ∃ entries es,
      Summary.all locator settings m = (entries, m.logged es) ∧
      entries.map Summary.format = Format.all ∧
      ∀ f : Format, ∃ s, entries.filter (fun s => s.format = f) = [s] ∧ s.format = f ∧
        s.Describes locator settings m) ∧
    ∀ (executor : Executor) (color : Bool) (c : CommandLine) (m : Machine),
      (∀ json, c.task = .formats json →
        ((run executor color c m).1.exit = 0 ↔ ∃ entries, Lists m entries) ∧
        ∀ entries, Lists m entries → (run executor color c m).1.stdout =
          if json then Listing.json entries else Listing.table entries) ∧
      ∀ text, c.task = .check text →
        ((run executor color c m).1.exit = 0 ↔
          ∃ f entries, Format.parse? text = some f ∧ Lists m entries ∧
            ∃ s ∈ entries, s.format = f ∧ s.isAvailable = true) := by
  refine ⟨fun locator settings m => ?_, fun executor color c m =>
    ⟨fun json htask => ?_, fun text htask => ?_⟩⟩
  · obtain ⟨es, hall⟩ := Summary.all_eq locator settings m
    refine ⟨_, es, hall, ?_, fun f => ?_⟩
    · rw [Summary.entries, List.map_map]
      have hid : Summary.format ∘ (fun f => Summary.ofSelected f
          (Backend.selected f locator settings m)) = id :=
        funext fun f => Summary.format_ofSelected locator settings m f
      rw [hid, List.map_id]
    · exact ⟨_, Summary.filter_entries locator settings m f,
        Summary.format_ofSelected locator settings m f,
        Summary.describes_ofSelected locator settings m f⟩
  · have hperform : c.perform executor = listFormats json := by rw [perform, htask]
    obtain ⟨hok, herror⟩ :=
      perform_listFormats json m { verbose := c.verbose, shown := m.events.length }
    rw [← hperform] at hok herror
    constructor
    · constructor
      · intro hexit
        apply Classical.byContradiction
        intro h
        obtain ⟨e, he⟩ := herror h
        exact exit_ne_of_error he hexit
      · rintro ⟨entries, h⟩
        exact exit_eq_of_ok (congrArg Prod.fst (hok entries h))
    · intro entries h
      rw [(run_ends executor color c m).2, hok entries h]
      exact String.empty_append
  · have hperform : c.perform executor = checkFormat text := by rw [perform, htask]
    obtain ⟨hok, herror⟩ :=
      perform_checkFormat text m { verbose := c.verbose, shown := m.events.length }
    rw [← hperform] at hok herror
    rw [← checks_iff]
    constructor
    · intro hexit
      apply Classical.byContradiction
      intro h
      obtain ⟨e, he⟩ := herror h
      exact exit_ne_of_error he hexit
    · exact fun h => exit_eq_of_ok (hok h)

/-- The data dump needs nothing: where there are no files at all, it is listed as available,
and a check of it succeeds. -/
theorem check_agrees_with_listing_of_gypd :
    let m : Machine := { files := .empty }
    let executor : Executor := fun m _ => { files := m.files, outcome := .ok {} }
    (∃ entries, Lists m entries) ∧
      (run executor false { task := .formats false } m).1.exit = 0 ∧
      (run executor false { task := .check " GyPD " } m).1.exit = 0 := by
  intro m executor
  have hsound : ¬(Settings.fileState m (Settings.projectPath ⟨"/"⟩)).Faulty := by
    rw [fileState_projectPath_root rfl]
    rintro ⟨⟩
  obtain ⟨hdiscovers, -, hdiscover⟩ :=
    Settings.discover_layers m (some (Settings.globalPath m)) ⟨"/"⟩
  have hsettings := (hdiscovers.layered _).mpr ⟨hsound, Settings.layered_spec _ _ _⟩
  rw [← hdiscover] at hsettings
  have hlists : ∃ entries, Lists m entries := ⟨_, ⟨"/"⟩, _, rfl, hsettings, rfl⟩
  obtain ⟨hentries, hrun⟩ := check_agrees_with_listing
  refine ⟨hlists, ((hrun executor false { task := .formats false } m).1 false rfl).1.mpr hlists,
    ((hrun executor false { task := .check " GyPD " } m).2 " GyPD " rfl).mpr ?_⟩
  obtain ⟨_, directory, settings, hd, hs, rfl⟩ := hlists
  obtain ⟨entries, es, hall, -, hone⟩ := hentries (.ofEnvironment m) settings m
  obtain ⟨s, hfilter, hformat, -⟩ := hone .gypd
  have hmem : s ∈ entries := (List.mem_filter.mp (hfilter ▸ List.mem_singleton.mpr rfl)).1
  have havailable : s.isAvailable = true := by
    rw [Summary.isAvailable, hformat]
    rfl
  refine ⟨.gypd, entries, by decide, ⟨directory, settings, hd, hs, ?_⟩, s, hmem, hformat,
    havailable⟩
  rw [hall]

end CommandLine

end CrossBuild
