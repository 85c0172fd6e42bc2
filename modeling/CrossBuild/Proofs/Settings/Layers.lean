import CrossBuild.Proofs.Machine.Perform
import CrossBuild.Proofs.Settings.Merge

/-!
# The settings that hold in a project

A file of settings is absent, unreadable, broken or well formed
(`Settings.FileState`), and the two layers of files treat the same file
differently: the global one is passed over with a warning where the
project's is an error.  What holds in the end is told key by key
(`Settings.Layered`).
-/
namespace CrossBuild.Settings

/-! ## 1. The state of a file -/

/-- What a file of settings is to whoever reads it. -/
inductive FileState where
  /-- There is none. -/
  | absent
  /-- It cannot be read. -/
  | unreadable (cause : FileError)
  /-- Its text is malformed, or has a value of the wrong type. -/
  | broken (text : String) (fault : ReadFault)
  /-- It holds settings. -/
  | wellFormed (settings : Settings)

/-- The state of the file at a path. -/
def fileState (m : Machine) (path : Path) : FileState :=
  if m.pathExists path then
    match m.readText path with
    | .error cause => .unreadable cause
    | .ok text =>
      match ofText text with
      | .error fault => .broken text fault
      | .ok s => .wellFormed s
  else .absent

/-- The state of the global file, which may be nowhere. -/
def globalState (m : Machine) : Option Path → FileState
  | some path => fileState m path
  | none => .absent

namespace FileState

/-- There is a file, and it gives no settings. -/
inductive Faulty : FileState → Prop where
  | unreadable (cause : FileError) : Faulty (.unreadable cause)
  | broken (text : String) (fault : ReadFault) : Faulty (.broken text fault)

/-- The settings in a file, if it is well formed. -/
def settings : FileState → Settings
  | wellFormed s => s
  | absent | unreadable _ | broken _ _ => {}

theorem Faulty.settings_eq {s : FileState} (h : s.Faulty) : s.settings = {} := by
  cases h <;> rfl

/-- Why a file is passed over in the global layer. -/
def failure? (path : Path) : FileState → Option Failure
  | unreadable cause => some (.readConfig path cause)
  | broken text fault => some (.parseConfig path (fault.report text))
  | absent | wellFormed _ => none

/-- The error that a file is in the layer of a project. -/
def error? (path : Path) : FileState → Option VerifyError
  | unreadable cause => some (.io cause)
  | broken _ fault => some (.config path fault.fault)
  | absent | wellFormed _ => none

theorem not_faulty_iff {s : FileState} : ¬s.Faulty ↔ s = absent ∨ ∃ t, s = wellFormed t := by
  constructor
  · intro h
    cases s with
    | absent => exact .inl rfl
    | wellFormed t => exact .inr ⟨t, rfl⟩
    | unreadable cause => exact absurd (.unreadable cause) h
    | broken text fault => exact absurd (.broken text fault) h
  · rintro (rfl | ⟨t, rfl⟩) <;> rintro ⟨⟩

/-- A file is passed over exactly when it is faulty. -/
theorem failure?_eq_none_iff {path : Path} {s : FileState} :
    s.failure? path = none ↔ ¬s.Faulty := by
  cases s <;> simp [not_faulty_iff, failure?]

/-- It is an error to a project in the same case. -/
theorem error?_eq_none_iff {path : Path} {s : FileState} :
    s.error? path = none ↔ ¬s.Faulty := by
  cases s <;> simp [not_faulty_iff, error?]

end FileState

variable {m : Machine} {path : Path}

theorem fileState_of_not_exists (h : m.pathExists path = false) : fileState m path = .absent := by
  rw [fileState, h]
  rfl

/-- What there is gives its settings, or the failure for which it is passed over. -/
theorem load_eq (h : m.pathExists path = true) :
    load m path =
      match (fileState m path).failure? path with
      | some failure => .error failure
      | none => .ok (fileState m path).settings := by
  rw [load, fileState, if_pos h]
  cases m.readText path with
  | error cause => rfl
  | ok text =>
    simp only
    cases ofText text <;> rfl

/-- What there is gives its settings, or the error that it is to a project. -/
theorem loadChecked_eq (h : m.pathExists path = true) :
    loadChecked m path =
      match (fileState m path).error? path with
      | some e => .error e
      | none => .ok (fileState m path).settings := by
  rw [loadChecked, fileState, if_pos h]
  cases m.readText path with
  | error cause => rfl
  | ok text =>
    simp only
    cases ofText text <;> rfl

/-! ## 2. The two layers of files -/

/-- What is logged on the global file. -/
def warnings (m : Machine) : Option Path → List Event
  | some path =>
    ((fileState m path).failure? path).toList.map fun failure => .configIgnored path failure.full
  | none => []

/-- The global file gives its settings or none, and at most one warning. -/
theorem run_loadOrDefault (m : Machine) (path : Path) :
    loadOrDefault path m = ((fileState m path).settings, m.logged (warnings m (some path))) := by
  have hget (k : Machine → MachineM Settings) : (get >>= k : MachineM Settings) m = k m m := rfl
  rw [loadOrDefault, hget, warnings]
  cases h : m.pathExists path with
  | false =>
    rw [fileState_of_not_exists h]
    exact congrArg (Prod.mk _) m.logged_nil.symm
  | true =>
    rw [load_eq h]
    cases hs : fileState m path with
    | absent | wellFormed s => exact congrArg (Prod.mk _) m.logged_nil.symm
    | unreadable cause | broken text fault => rfl

/-- The project's file is an error, or is put over what is there. -/
theorem perform_loadOver (m : Machine) (base : Settings) (project : Path) :
    m.perform (loadOver base project) =
      (match (fileState m project).error? project with
        | some e => .error e
        | none => .ok (base.merge (fileState m project).settings), m) := by
  simp only [loadOver, Machine.perform_bind, Machine.perform_get]
  cases h : m.pathExists project with
  | false =>
    rw [if_neg Bool.false_ne_true, fileState_of_not_exists h]
    rfl
  | true =>
    rw [if_pos rfl, Machine.perform_bind, loadChecked_eq h, Machine.perform_liftExcept]
    cases (fileState m project).error? project <;> rfl

/-- The files give the error of the project's one, or its settings over those of the
global one. -/
theorem perform_loadLayers (m : Machine) (global : Option Path) (project : Path) :
    m.perform (loadLayers global project) =
      (match (fileState m project).error? project with
        | some e => .error e
        | none => .ok ((({} : Settings).merge (globalState m global).settings).merge
            (fileState m project).settings),
        m.logged (warnings m global)) := by
  cases global with
  | none =>
    have h : m.perform (loadLayers none project) = _ :=
      perform_loadOver m (({} : Settings).merge {}) project
    rw [h, warnings, Machine.logged_nil]
    rfl
  | some path =>
    have hload : loadLayers (some path) project =
        (liftM (loadOrDefault path) : Verify Settings) >>= fun lower =>
          loadOver (({} : Settings).merge lower) project := rfl
    have hlift : m.perform (liftM (loadOrDefault path) : Verify Settings) =
        (.ok (loadOrDefault path m).1, (loadOrDefault path m).2) := rfl
    rw [hload, Machine.perform_bind, hlift, run_loadOrDefault]
    exact perform_loadOver (m.logged (warnings m (some path))) _ project

/-! ## 3. What holds in the end -/

/-- The settings of the global file, of the project's and of the environment, the later
ones over the earlier ones. -/
def layered (env : Environment) (own shared : Settings) : Settings :=
  ((({} : Settings).merge shared).merge own).merge (ofEnvironment env)

theorem perform_discoverWith (m : Machine) (global : Option Path) (project : Path) :
    m.perform (discoverWith global project) =
      (match (fileState m (projectPath project)).error? (projectPath project) with
        | some e => .error e
        | none => .ok (layered m.environment (fileState m (projectPath project)).settings
            (globalState m global).settings),
        m.logged (warnings m global)) := by
  simp only [discoverWith, Machine.perform_bind, Machine.perform_get, perform_loadLayers]
  cases (fileState m (projectPath project)).error? (projectPath project) <;> rfl

/-- Where settings come from, key by key. -/
structure Layered (env : Environment) (own shared s : Settings) : Prop where
  /-- A key has the value of its variable if that is not empty, else the project's, else
  the global one. -/
  value? : ∀ k : Key, s.value? k =
    (k.setBy?.bind env.nonempty? <|> own.value? k <|> shared.value? k)
  /-- The install roots are the project's, or the global ones if it names none. -/
  roots : s.msvs.roots = if own.msvs.roots = [] then shared.msvs.roots else own.msvs.roots

theorem layered_spec (env : Environment) (own shared : Settings) :
    Layered env own shared (layered env own shared) := by
  constructor
  case value? =>
    intro k
    have hbottom : (shared.value? k <|> none) = shared.value? k := by
      cases shared.value? k <;> rfl
    rw [layered, value?_merge, value?_merge, value?_merge, value?_ofEnvironment, value?_empty,
      hbottom]
  case roots =>
    have hbottom : (({} : Settings).merge shared).msvs.roots = shared.msvs.roots := by
      rw [roots_merge]
      split
      · rename_i h
        exact h.symm
      · rfl
    have hvariables : (ofEnvironment env).msvs.roots = [] := rfl
    rw [layered, roots_merge, hvariables, if_pos rfl, roots_merge, hbottom]

/-- There is only one way to take settings from the layers. -/
theorem Layered.unique {env : Environment} {own shared s t : Settings}
    (hs : Layered env own shared s) (ht : Layered env own shared t) : s = t :=
  ext_value? (fun k => (hs.value? k).trans (ht.value? k).symm) (hs.roots.trans ht.roots.symm)

/-- How the discovery of settings ends, by the states of the two files. -/
structure Discovers (m : Machine) (global : Option Path) (file : Path)
    (own shared : FileState) (result : Except VerifyError Settings × Machine) : Prop where
  /-- There are settings exactly if the project has no file or a well formed one. -/
  ok_iff : (∃ s, result.1 = .ok s) ↔ own = .absent ∨ ∃ s, own = .wellFormed s
  /-- A project's file that cannot be read is an error of the system. -/
  unreadable : ∀ cause, own = .unreadable cause → result.1 = .error (.io cause)
  /-- A broken one is named with its fault. -/
  broken : ∀ text fault, own = .broken text fault →
    result.1 = .error (.config file fault.fault)
  /-- The settings are told key by key. -/
  layered : ∀ s, result.1 = .ok s ↔
    ¬own.Faulty ∧ Layered m.environment own.settings shared.settings s
  /-- A global file without a fault leaves no trace. -/
  quiet : ¬shared.Faulty → result.2 = m
  /-- A faulty one is warned of, once. -/
  warned : shared.Faulty → ∃ path reason, global = some path ∧
    (Event.configIgnored path reason).level = .warn ∧
      result.2 = m.logged [.configIgnored path reason]

theorem warnings_of_not_faulty {m : Machine} {global : Option Path}
    (h : ¬(globalState m global).Faulty) : warnings m global = [] := by
  cases global with
  | none => rfl
  | some path =>
    have hf : (fileState m path).failure? path = none := FileState.failure?_eq_none_iff.mpr h
    rw [warnings, hf]
    rfl

theorem warnings_of_faulty {m : Machine} {global : Option Path}
    (h : (globalState m global).Faulty) :
    ∃ path reason, global = some path ∧ warnings m global = [.configIgnored path reason] := by
  cases global with
  | none => cases h
  | some path =>
    cases hf : (fileState m path).failure? path with
    | none => exact absurd h (FileState.failure?_eq_none_iff.mp hf)
    | some failure => exact ⟨path, failure.full, rfl, by rw [warnings, hf]; rfl⟩

theorem discovers_discoverWith (m : Machine) (global : Option Path) (project : Path) :
    Discovers m global (projectPath project) (fileState m (projectPath project))
      (globalState m global) (m.perform (discoverWith global project)) := by
  rw [perform_discoverWith]
  constructor
  case ok_iff =>
    rw [← FileState.not_faulty_iff, ← FileState.error?_eq_none_iff]
    cases (fileState m (projectPath project)).error? (projectPath project) <;> simp
  case unreadable | broken =>
    cases fileState m (projectPath project) <;> simp [FileState.error?]
  case layered =>
    intro s
    rw [← FileState.error?_eq_none_iff]
    cases (fileState m (projectPath project)).error? (projectPath project) with
    | some e => simp
    | none =>
      have hlayered := layered_spec m.environment (fileState m (projectPath project)).settings
        (globalState m global).settings
      constructor
      · intro h
        cases h
        exact ⟨rfl, hlayered⟩
      · rintro ⟨-, h⟩
        exact congrArg Except.ok (hlayered.unique h)
  case quiet =>
    intro h
    simp only [warnings_of_not_faulty h, Machine.logged_nil]
  case warned =>
    intro h
    obtain ⟨path, reason, hglobal, hwarnings⟩ := warnings_of_faulty h
    exact ⟨path, reason, hglobal, rfl, by simp only [hwarnings]⟩

/-- **The settings that hold in a project.**  They are found unless the project's file
is faulty, which is an error and leaves nothing; every key then has the value of
the highest layer that sets it.  A faulty global file counts for as much as
none, but for one warning. -/
theorem discover_layers (m : Machine) (global : Option Path) (project : Path) :
    let own := fileState m (projectPath project)
    let shared := globalState m global
    let result := m.perform (discoverWith global project)
    Discovers m global (projectPath project) own shared result ∧
    (shared.Faulty → ∀ (m' : Machine) (global' : Option Path),
      m'.environment = m.environment → fileState m' (projectPath project) = own →
        globalState m' global' = .absent →
          m'.perform (discoverWith global' project) = (result.1, m')) ∧
    m.perform (discover project) = m.perform (discoverWith (some (globalPath m)) project) := by
  intro own shared result
  refine ⟨discovers_discoverWith m global project, ?_, ?_⟩
  · intro hfaulty m' global' henvironment hown habsent
    have hnone : ¬(globalState m' global').Faulty := by
      rw [habsent]
      intro h
      cases h
    have hsettings : shared.settings = (globalState m' global').settings := by
      rw [hfaulty.settings_eq, habsent]
      rfl
    -- Both sides are told by the same settings; only the warnings differ.
    have hresult : result = _ := perform_discoverWith m global project
    rw [hresult, perform_discoverWith, warnings_of_not_faulty hnone, Machine.logged_nil, hown,
      henvironment, ← hsettings]
  · rw [discover, Machine.perform_bind, Machine.perform_get]

end CrossBuild.Settings
