import CrossBuild.Settings.Load

/-!
# Settings key by key

Most settings may be left open: each of them is a key with a value or none
(`Settings.value?`).  The install roots are a list, where an empty one says
nothing.  Putting one layer over another is the same on every key: the upper
layer's value wins, if it has one (`Settings.value?_merge`).
-/
namespace CrossBuild.Settings

/-- The settings that may be left open. -/
inductive Key where
  | format
  | generator
  | configuration
  | make
  | scons
  | xcodebuild
  | devenv
  | release
  deriving DecidableEq, Repr

/-- What settings say for a key, as a text. -/
def value? (s : Settings) : Key → Option String
  | .format => s.format
  | .generator => s.generator.map Path.text
  | .configuration => s.configuration
  | .make => s.tools.make.map Path.text
  | .scons => s.tools.scons.map Path.text
  | .xcodebuild => s.tools.xcodebuild.map Path.text
  | .devenv => s.tools.devenv.map Path.text
  | .release => s.msvs.version

/-- The environment variable that sets a key, if there is one. -/
def Key.setBy? : Key → Option String
  | format => some formatVariable
  | generator => some generatorVariable
  | release => some releaseVariable
  | configuration | make | scons | xcodebuild | devenv => none

/-- The keys and the roots are all that settings hold. -/
theorem ext_value? {s t : Settings} (hvalue : ∀ k, s.value? k = t.value? k)
    (hroots : s.msvs.roots = t.msvs.roots) : s = t := by
  have htext {a b : Option Path} (h : a.map Path.text = b.map Path.text) : a = b :=
    Option.map_injective (fun p q hpq => by cases p; cases q; cases hpq; rfl) h
  obtain ⟨format, generator, configuration, ⟨make, scons, xcodebuild, devenv⟩,
    ⟨version, roots⟩⟩ := s
  obtain ⟨_, _, _, ⟨_, _, _, _⟩, ⟨_, _⟩⟩ := t
  cases hvalue .format
  cases htext (hvalue .generator)
  cases hvalue .configuration
  cases htext (hvalue .make)
  cases htext (hvalue .scons)
  cases htext (hvalue .xcodebuild)
  cases htext (hvalue .devenv)
  cases hvalue .release
  cases hroots
  rfl

variable (lower upper : Settings) (k : Key)

theorem value?_empty : ({} : Settings).value? k = none := by
  cases k <;> rfl

/-- On every key, the upper layer's value wins if it has one. -/
theorem value?_merge : (lower.merge upper).value? k = (upper.value? k <|> lower.value? k) := by
  have hmap (a b : Option Path) :
      (a <|> b).map Path.text = (a.map Path.text <|> b.map Path.text) := by
    cases a <;> rfl
  cases k with
  | format | configuration | release => rfl
  | generator | make | scons | xcodebuild | devenv => exact hmap _ _

/-- So do its roots, if it names any; they do not add to the lower ones. -/
theorem roots_merge : (lower.merge upper).msvs.roots =
    if upper.msvs.roots = [] then lower.msvs.roots else upper.msvs.roots := by
  simp only [merge, MsvsSettings.merge, List.isEmpty_iff]

/-- The environment sets a key through its variable, unless that one is empty. -/
theorem value?_ofEnvironment (env : Environment) :
    (ofEnvironment env).value? k = k.setBy?.bind env.nonempty? := by
  cases k with
  | format | release => rfl
  | configuration | make | scons | xcodebuild | devenv => rfl
  | generator =>
    have htext : Path.text ∘ Path.mk = id := rfl
    simp only [value?, ofEnvironment, Key.setBy?, Option.map_map, htext, Option.map_id,
      Option.bind_some, id]

end CrossBuild.Settings
