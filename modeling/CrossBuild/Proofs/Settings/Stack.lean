import CrossBuild.Proofs.Settings.Layers
import Mathlib.Data.List.Induction

/-!
# Settings in any number of layers

Putting layers one over another is a monoid: settings that say nothing are its
unit, and how the layers are bracketed does not count.  A stack of layers
(`Settings.stacked`) is therefore read from its top: every key has its value
from the last layer that sets it.

Keys and install roots are treated alike, as views of settings
(`Settings.IsView`).  All that is used of a view is that it shows nothing in
empty settings, and of two layers the upper one first.
-/
namespace CrossBuild.Settings

/-! ## 1. The laws of merging -/

/-- The install roots, if settings name any. -/
def roots? (s : Settings) : Option (List Path) :=
  if s.msvs.roots = [] then none else some s.msvs.roots

theorem roots?_eq_some_iff {s : Settings} {roots : List Path} :
    s.roots? = some roots ↔ roots ≠ [] ∧ s.msvs.roots = roots := by
  by_cases h : s.msvs.roots = []
  · simp only [roots?, h, if_true, reduceCtorEq, false_iff, not_and]
    exact fun hne he => hne he.symm
  · simp only [roots?, h, if_false, Option.some_inj]
    exact ⟨fun he => ⟨he ▸ h, he⟩, And.right⟩

theorem roots?_eq_none_iff {s : Settings} : s.roots? = none ↔ s.msvs.roots = [] := by
  simp [roots?]

/-- A view shows something of settings, or nothing: nothing of the empty ones, and of two
layers the upper one first. -/
structure IsView {α : Type} (view : Settings → Option α) : Prop where
  empty : view {} = none
  merge (lower upper : Settings) : view (lower.merge upper) = (view upper <|> view lower)

theorem isView_value? (k : Key) : IsView fun s => s.value? k :=
  ⟨value?_empty k, fun lower upper => value?_merge lower upper k⟩

theorem isView_roots? : IsView roots? := by
  constructor
  case empty => rfl
  case merge =>
    intro lower upper
    by_cases h : upper.msvs.roots = [] <;> simp [roots?, roots_merge, h]

/-- Settings that look the same in every view are the same. -/
theorem ext_views {s t : Settings}
    (h : ∀ {α : Type} {view : Settings → Option α}, IsView view → view s = view t) : s = t := by
  refine ext_value? (fun k => h (isView_value? k)) ?_
  have hroots := h isView_roots?
  cases ht : t.roots? with
  | none => rw [roots?_eq_none_iff.mp ht, roots?_eq_none_iff.mp (hroots.trans ht)]
  | some roots =>
    rw [(roots?_eq_some_iff.mp ht).2, (roots?_eq_some_iff.mp (hroots.trans ht)).2]

@[simp] theorem merge_empty (s : Settings) : s.merge {} = s := by
  apply ext_views
  intro α view h
  rw [h.merge, h.empty]
  rfl

@[simp] theorem empty_merge (s : Settings) : ({} : Settings).merge s = s := by
  apply ext_views
  intro α view h
  rw [h.merge, h.empty]
  cases view s <;> rfl

theorem merge_assoc (a b c : Settings) : (a.merge b).merge c = a.merge (b.merge c) := by
  apply ext_views
  intro α view h
  simp only [h.merge]
  cases view c <;> rfl

/-! ## 2. Stacks -/

/-- Layers put one over another, the first of them at the bottom. -/
def stacked (layers : List Settings) : Settings :=
  layers.foldl merge {}

theorem stacked_concat (layers : List Settings) (top : Settings) :
    stacked (layers ++ [top]) = (stacked layers).merge top := by
  simp only [stacked, List.foldl_append, List.foldl_cons, List.foldl_nil]

/-- Two stacks can be put one over the other as they are. -/
theorem stacked_append (below above : List Settings) :
    stacked (below ++ above) = (stacked below).merge (stacked above) := by
  induction above using List.reverseRecOn with
  | nil => rw [List.append_nil, show stacked [] = {} from rfl, merge_empty]
  | append_singleton above top ih =>
    rw [← List.append_assoc, stacked_concat, stacked_concat, ih, merge_assoc]

/-- `v` is what a view shows of the last of the layers of which it shows anything. -/
def LastShown {α : Type} (view : Settings → Option α) (layers : List Settings) (v : α) : Prop :=
  ∃ below layer above, layers = below ++ layer :: above ∧ view layer = some v ∧
    ∀ upper ∈ above, view upper = none

namespace IsView

variable {α : Type} {view : Settings → Option α}

/-- A stack is read from its top. -/
theorem view_stacked (h : IsView view) (layers : List Settings) :
    view (stacked layers) = layers.reverse.findSome? view := by
  induction layers using List.reverseRecOn with
  | nil => exact h.empty
  | append_singleton layers top ih =>
    rw [stacked_concat, h.merge, ih, List.reverse_append, List.reverse_singleton,
      List.singleton_append, List.findSome?_cons]
    cases view top <;> rfl

theorem stacked_eq_some_iff (h : IsView view) {layers : List Settings} {v : α} :
    view (stacked layers) = some v ↔ LastShown view layers v := by
  rw [h.view_stacked, List.findSome?_eq_some_iff]
  constructor
  · rintro ⟨above, layer, below, hlayers, hv, habove⟩
    refine ⟨below.reverse, layer, above.reverse, ?_, hv, fun upper hupper => ?_⟩
    · rw [← layers.reverse_reverse, hlayers]
      simp
    · exact habove upper (List.mem_reverse.mp hupper)
  · rintro ⟨below, layer, above, rfl, hv, habove⟩
    refine ⟨above.reverse, layer, below.reverse, by simp, hv, fun upper hupper => ?_⟩
    exact habove upper (List.mem_reverse.mp hupper)

theorem stacked_eq_none_iff (h : IsView view) {layers : List Settings} :
    view (stacked layers) = none ↔ ∀ layer ∈ layers, view layer = none := by
  rw [h.view_stacked, List.findSome?_eq_none_iff]
  simp only [List.mem_reverse]

end IsView

/-! ## 3. What a stack says -/

/-- Settings that set nothing. -/
def IsSilent (s : Settings) : Prop :=
  (∀ k, s.value? k = none) ∧ s.msvs.roots = []

theorem IsSilent.eq_empty {s : Settings} (h : s.IsSilent) : s = {} :=
  ext_value? (fun k => (h.1 k).trans (value?_empty k).symm) h.2

/-- What holds in a stack of layers. -/
structure LastWins (layers : List Settings) (s : Settings) : Prop where
  /-- A key has the value of the last layer that sets it. -/
  value_iff : ∀ k v, s.value? k = some v ↔ LastShown (fun layer => layer.value? k) layers v
  /-- It has none exactly if no layer sets it. -/
  unset_iff : ∀ k, s.value? k = none ↔ ∀ layer ∈ layers, layer.value? k = none
  /-- The install roots are those of the last layer that names any. -/
  roots_iff : ∀ roots, roots ≠ [] ∧ s.msvs.roots = roots ↔ LastShown roots? layers roots
  /-- There are none exactly if no layer names any. -/
  rootless_iff : s.msvs.roots = [] ↔ ∀ layer ∈ layers, layer.msvs.roots = []

theorem lastWins_stacked (layers : List Settings) : LastWins layers (stacked layers) where
  value_iff k _ := (isView_value? k).stacked_eq_some_iff
  unset_iff k := (isView_value? k).stacked_eq_none_iff
  roots_iff _ := roots?_eq_some_iff.symm.trans isView_roots?.stacked_eq_some_iff
  rootless_iff := by
    rw [← roots?_eq_none_iff, isView_roots?.stacked_eq_none_iff]
    simp only [roots?_eq_none_iff]

/-- The settings of a project are a stack of three layers. -/
theorem lastWins_layered (env : Environment) (own shared : Settings) :
    LastWins [shared, own, ofEnvironment env] (layered env own shared) :=
  lastWins_stacked [shared, own, ofEnvironment env]

/-- **Layers of settings are a monoid, and the last layer that sets a key wins.**  Empty
settings change nothing above or below others, and layers may be merged in any
bracketing.  In a stack, every key has the value of the last layer that sets it, and
the install roots are those of the last layer that names any; a layer that sets
nothing can be taken out. -/
theorem merge_monoid_lastWins :
    (∀ s : Settings, s.merge {} = s) ∧
    (∀ s : Settings, ({} : Settings).merge s = s) ∧
    (∀ a b c : Settings, (a.merge b).merge c = a.merge (b.merge c)) ∧
    (∀ layers : List Settings, LastWins layers (layers.foldl merge {})) ∧
    (∀ (below above : List Settings) (silent : Settings), silent.IsSilent →
      (below ++ silent :: above).foldl merge {} = (below ++ above).foldl merge {}) := by
  refine ⟨merge_empty, empty_merge, merge_assoc, lastWins_stacked, ?_⟩
  intro below above silent hsilent
  rw [hsilent.eq_empty, ← stacked, ← stacked]
  calc stacked (below ++ {} :: above)
      = (stacked below).merge (stacked ([{}] ++ above)) := stacked_append below _
    _ = (stacked below).merge ((stacked [{}]).merge (stacked above)) := by rw [stacked_append]
    _ = (stacked below).merge (stacked above) := by
      rw [show stacked [{}] = {} from rfl, empty_merge]
    _ = stacked (below ++ above) := (stacked_append below above).symm

/-- A silent layer in the middle of three: the format is the top one's, the variant and the
install roots are the bottom one's. -/
theorem merge_monoid_lastWins_of_silent :
    let bottom : Settings :=
      { format := some "make", configuration := some "Debug", msvs := { roots := [⟨"C:/VS"⟩] } }
    let top : Settings := { format := some "xcode" }
    ({} : Settings).IsSilent ∧
      [bottom, {}, top].foldl merge {} = [bottom, top].foldl merge {} ∧
      ([bottom, {}, top].foldl merge {}).value? .format = some "xcode" ∧
      ([bottom, {}, top].foldl merge {}).value? .configuration = some "Debug" := by
  intro bottom top
  have hsilent : ({} : Settings).IsSilent := ⟨value?_empty, rfl⟩
  obtain ⟨-, -, -, hlast, hremove⟩ := merge_monoid_lastWins
  refine ⟨hsilent, hremove [bottom] [top] {} hsilent, ?_, ?_⟩
  · exact ((hlast [bottom, {}, top]).value_iff .format "xcode").mpr
      ⟨[bottom, {}], top, [], rfl, rfl, by simp⟩
  · refine ((hlast [bottom, {}, top]).value_iff .configuration "Debug").mpr
      ⟨[], bottom, [{}, top], rfl, rfl, ?_⟩
    intro upper hupper
    simp only [List.mem_cons, List.not_mem_nil, or_false] at hupper
    rcases hupper with rfl | rfl <;> rfl

end CrossBuild.Settings
