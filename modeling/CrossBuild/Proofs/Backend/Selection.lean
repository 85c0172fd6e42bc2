import CrossBuild.Proofs.VisualStudio.Discovery

/-!
# What a format's backend is set up with

Setting up a backend only looks at the machine and writes to its log, so what comes of
it is a function of the machine (`Backend.selected`), and the log has no part in it.
There are three kinds of it.  Where nothing is built there is no tool; a tool that has a
name of its own is one of a list of candidates, which always resolves to something
(`Backend.Named`); and the driver of Visual Studio has to be found.
-/
namespace CrossBuild.Backend

open VisualStudio

/-! ## 1. Tools with a name -/

/-- The formats whose tool has a name: what their backend is made of it, and the names to
look for. -/
inductive Named : Format → (ToolResolution → Backend) → List String → Prop where
  | make : Named .make make Make.candidates
  | scons : Named .scons scons Scons.candidates
  | xcode : Named .xcode xcode Xcode.candidates

/-- A format builds nothing, or with Visual Studio, or with a tool that has a name. -/
theorem format_cases (format : Format) :
    format = .gypd ∨ format = .msvs ∨ ∃ build names, Named format build names := by
  cases format with
  | gypd => exact .inl rfl
  | msvs => exact .inr (.inl rfl)
  | make => exact .inr (.inr ⟨_, _, .make⟩)
  | scons => exact .inr (.inr ⟨_, _, .scons⟩)
  | xcode => exact .inr (.inr ⟨_, _, .xcode⟩)

namespace Named

variable {format : Format} {build : ToolResolution → Backend} {names : List String}

theorem format_eq (h : Named format build names) (tool : ToolResolution) :
    (build tool).format = format := by
  cases h <;> rfl

theorem tool_eq (h : Named format build names) (tool : ToolResolution) :
    (build tool).tool = tool := by
  cases h <;> rfl

theorem ne_msvs (h : Named format build names) : format ≠ .msvs := by
  cases h <;> decide

theorem find_eq (h : Named format build names) (locator : Locator) (settings : Settings) :
    find format locator settings = do
      return build (← locator.locate (candidates (settings.toolFor format) names)) := by
  cases h <;> rfl

end Named

/-! ## 2. Set-ups -/

variable (format : Format) (locator : Locator) (settings : Settings) (m : Machine)

/-- What comes of setting up the backend of a format. -/
def selected : Except VerifyError Backend :=
  (m.perform (select format locator settings)).1

/-- What `select` ends with is what `find` ends with. -/
theorem selected_eq_find :
    selected format locator settings m = (m.perform (find format locator settings)).1 := by
  rw [selected, select, Machine.perform_bind]
  rcases m.perform (find format locator settings) with ⟨r, m'⟩
  cases r <;> rfl

theorem perform_find_named {format : Format} {build : ToolResolution → Backend}
    {names : List String} (h : Named format build names) :
    let candidates := candidates (settings.toolFor format) names
    let tool := Locator.resolve (locator.find? m) candidates
    m.perform (find format locator settings) =
      (.ok (build tool), m.logged (Locator.resolutionEvents candidates tool)) := by
  intro candidates tool
  have hlocate : m.perform (liftM (locator.locate candidates) : Verify ToolResolution) =
      (.ok (locator.locate candidates m).1, (locator.locate candidates m).2) := rfl
  rw [h.find_eq, Machine.perform_bind, hlocate, Locator.locate_eq]
  rfl

theorem selected_named {format : Format} {build : ToolResolution → Backend}
    {names : List String} (h : Named format build names) :
    selected format locator settings m =
      .ok (build (Locator.resolve (locator.find? m)
        (candidates (settings.toolFor format) names))) := by
  rw [selected_eq_find, perform_find_named locator settings m h]

theorem selected_msvs :
    selected .msvs locator settings m =
      if ((discovery locator settings).outcome m).1.resolution = .notFound then
        .error (.toolNotFound .msvs driverName (discovery locator settings).searched)
      else .ok (msvs ((discovery locator settings).outcome m).1.resolution
        ((discovery locator settings).outcome m).1.generation) := by
  rw [selected_eq_find]
  exact congrArg Prod.fst ((discovery locator settings).perform_ofDiscovery m)

/-- Only the log tells that a backend was set up. -/
theorem perform_select :
    ∃ es, m.perform (select format locator settings) =
      (selected format locator settings m, m.logged es) := by
  -- `find` only adds to the log, and `select` adds its own line if there is a backend.
  obtain ⟨r, es, hfind⟩ : ∃ r es, m.perform (find format locator settings) = (r, m.logged es) := by
    rcases format_cases format with rfl | rfl | ⟨build, names, hnamed⟩
    · exact ⟨.ok gypd, [], congrArg (Prod.mk _) m.logged_nil.symm⟩
    · exact ⟨_, _, (discovery locator settings).perform_ofDiscovery m⟩
    · exact ⟨_, _, perform_find_named locator settings m hnamed⟩
  rw [selected_eq_find, select, Machine.perform_bind, hfind]
  cases r with
  | error e => exact ⟨es, rfl⟩
  | ok b => exact ⟨_, congrArg (Prod.mk _) (m.logged_logged es _)⟩

theorem selected_logged (es : List Event) :
    selected format locator settings (m.logged es) = selected format locator settings m := by
  rcases format_cases format with rfl | rfl | ⟨build, names, hnamed⟩
  · rfl
  · rw [selected_msvs, selected_msvs]
    rfl
  · rw [selected_named _ _ _ hnamed, selected_named _ _ _ hnamed]
    rfl

/-! ## 3. What can go wrong -/

/-- How the set-up of a backend ends: it is that of the format, unless the format is the one
whose tool has no name to fall back to, and the search finds nothing. -/
structure Selects (format : Format) (d : Discovery) (m : Machine)
    (r : Except VerifyError Backend) : Prop where
  error_iff : ∀ e, r = .error e ↔ format = .msvs ∧ (d.outcome m).1.resolution = .notFound ∧
    e = .toolNotFound .msvs driverName d.searched
  format_eq : ∀ b, r = .ok b → b.format = format

theorem selects_selected :
    Selects format (discovery locator settings) m (selected format locator settings m) := by
  rcases format_cases format with rfl | rfl | ⟨build, names, hnamed⟩
  · have hgypd : selected .gypd locator settings m = .ok gypd := rfl
    exact ⟨fun e => by simp [hgypd], fun b hb => by cases hb; rfl⟩
  · rw [selected_msvs]
    refine ⟨fun e => ?_, fun b hb => ?_⟩
    · split <;> simp_all [eq_comm]
    · split at hb
      · cases hb
      · cases hb
        rfl
  · rw [selected_named _ _ _ hnamed]
    refine ⟨fun e => by simp [hnamed.ne_msvs], fun b hb => ?_⟩
    cases hb
    exact hnamed.format_eq _

end CrossBuild.Backend
