import CrossBuild.Proofs.Machine.Perform
import CrossBuild.Tool.Locator

/-!
# Which candidate becomes the tool

The candidates for a tool are gone through in order, and the first one that leads
to a path is taken: an absolute one leads to itself, any other one to what the
search finds under its name, and the empty one nowhere (`Locator.Leads`).

The fallback is another matter.  It is the first entry of the whole list, so it may
well be one that was passed over, and the list counts for it in a second way: what is
appended can only help where nothing was found, and an entry that leads nowhere
can be left out unless it is the first.

All of this is so for any search (`Locator.resolves_resolve`).  A machine has a part
in it only by what its search finds, and the log by the one warning of a fallback.
-/
namespace CrossBuild

/-! ## 1. The first of a list -/

/-- An entry of a list with a property that no entry before it has. -/
def IsFirst {α : Type} (p : α → Prop) (xs : List α) (x : α) : Prop :=
  ∃ before after, xs = before ++ x :: after ∧ p x ∧ ∀ y ∈ before, ¬p y

theorem find?_eq_some_iff_isFirst {α : Type} {p : α → Bool} {xs : List α} {x : α} :
    xs.find? p = some x ↔ IsFirst (fun y => p y = true) xs x := by
  rw [List.find?_eq_some_iff_append]
  constructor
  · rintro ⟨hp, before, after, hxs, hbefore⟩
    exact ⟨before, after, hxs, hp, fun y hy => by simpa using hbefore y hy⟩
  · rintro ⟨before, after, hxs, hp, hbefore⟩
    exact ⟨hp, before, after, hxs, fun y hy => by simpa using hbefore y hy⟩

theorem findSome?_eq_some_iff_isFirst {α β : Type} {f : α → Option β} {xs : List α} {y : β} :
    xs.findSome? f = some y ↔ ∃ x, IsFirst (fun x => ∃ y, f x = some y) xs x ∧ f x = some y := by
  rw [List.findSome?_eq_some_iff]
  constructor
  · intro ⟨before, x, after, hxs, hx, hbefore⟩
    refine ⟨x, ⟨before, after, hxs, ⟨y, hx⟩, fun z hz => ?_⟩, hx⟩
    simp [hbefore z hz]
  · intro ⟨x, ⟨before, after, hxs, _, hbefore⟩, hx⟩
    refine ⟨before, x, after, hxs, hx, fun z hz => ?_⟩
    simpa [Option.eq_none_iff_forall_ne_some] using hbefore z hz

namespace Locator

/-! ## 2. What a candidate leads to -/

variable {find : String → Option Path} {candidate : String} {candidates : List String}
  {path : Path}

/-- A candidate is given as an absolute path, or the search finds it. -/
inductive Leads (find : String → Option Path) (candidate : String) (path : Path) : Prop where
  | absolute (given : (Path.mk candidate).isAbsolute = true) (verbatim : path = ⟨candidate⟩)
  | searched (nonempty : candidate ≠ "") (relative : (Path.mk candidate).isAbsolute = false)
    (found : find candidate = some path)

theorem candidatePath?_eq_some_iff :
    candidatePath? find candidate = some path ↔ Leads find candidate path := by
  unfold candidatePath?
  by_cases hempty : candidate = ""
  · subst hempty
    simp only [if_true]
    constructor
    · intro h
      cases h
    · intro h
      cases h with
      | absolute given => exact absurd given (by decide)
      | searched nonempty => exact absurd rfl nonempty
  · cases habsolute : (Path.mk candidate).isAbsolute with
    | true =>
      simp only [hempty, if_false, if_true, Option.some.injEq]
      constructor
      · intro h
        exact .absolute habsolute h.symm
      · intro h
        cases h with
        | absolute _ verbatim => exact verbatim.symm
        | searched _ relative => simp [habsolute] at relative
    | false =>
      simp only [hempty, if_false, Bool.false_eq_true]
      constructor
      · intro h
        exact .searched hempty habsolute h
      · intro h
        cases h with
        | absolute given => simp [habsolute] at given
        | searched _ _ found => exact found

theorem candidatePath?_eq_none_iff :
    candidatePath? find candidate = none ↔ ∀ path, ¬Leads find candidate path := by
  simp [Option.eq_none_iff_forall_ne_some, candidatePath?_eq_some_iff]

/-- The candidates that lead nowhere: the empty one, and what the search does not find. -/
theorem not_leads_iff : (∀ path, ¬Leads find candidate path) ↔
    candidate = "" ∨ (Path.mk candidate).isAbsolute = false ∧ find candidate = none := by
  rw [← candidatePath?_eq_none_iff]
  unfold candidatePath?
  split
  · simp_all
  · split <;> simp_all

theorem Leads.isAbsolute_or_found (h : Leads find candidate path) :
    path.isAbsolute = true ∨ find candidate = some path := by
  cases h with
  | absolute given verbatim => exact .inl (verbatim ▸ given)
  | searched _ _ found => exact .inr found

/-! ## 3. What a list resolves to -/

/-- How a list of candidates resolves. -/
structure Resolves (find : String → Option Path) (candidates : List String)
    (r : ToolResolution) : Prop where
  /-- The first candidate that leads to a path is taken. -/
  found : ∀ path, r = .found path ↔
    ∃ c, IsFirst (fun c => ∃ path, Leads find c path) candidates c ∧ Leads find c path
  /-- Where none does, the first one of all is kept, whatever it is. -/
  fallback : ∀ name, r = .fallback name ↔
    (∀ c ∈ candidates, ∀ path, ¬Leads find c path) ∧
      ∃ first rest, candidates = first :: rest ∧ name = ⟨first⟩
  /-- There is no tool only if there are no candidates. -/
  notFound : r = .notFound ↔ candidates = []

theorem findSome?_candidatePath?_eq_some_iff :
    candidates.findSome? (candidatePath? find) = some path ↔
      ∃ c, IsFirst (fun c => ∃ path, Leads find c path) candidates c ∧ Leads find c path := by
  simp only [findSome?_eq_some_iff_isFirst, candidatePath?_eq_some_iff]

theorem findSome?_candidatePath?_eq_none_iff :
    candidates.findSome? (candidatePath? find) = none ↔
      ∀ c ∈ candidates, ∀ path, ¬Leads find c path := by
  simp only [List.findSome?_eq_none_iff, candidatePath?_eq_none_iff]

theorem resolves_resolve (find : String → Option Path) (candidates : List String) :
    Resolves find candidates (resolve find candidates) := by
  -- The fallback looks at the list a second time, so the scan and the list are split apart.
  unfold resolve
  constructor
  case found =>
    intro path
    rw [← findSome?_candidatePath?_eq_some_iff]
    cases candidates.findSome? (candidatePath? find) with
    | some p => simp
    | none => cases candidates <;> simp
  case fallback =>
    intro name
    rw [← findSome?_candidatePath?_eq_none_iff]
    cases candidates.findSome? (candidatePath? find) with
    | some p => simp
    | none => cases candidates <;> simp [eq_comm]
  case notFound =>
    cases candidates with
    | nil => simp
    | cons first rest => cases (first :: rest).findSome? (candidatePath? find) <;> simp

/-- Of a list nothing but what one of its candidates leads to is located. -/
theorem exists_leads_of_isLocated (h : (resolve find candidates).isLocated = true) :
    ∃ path, resolve find candidates = .found path ∧ ∃ c ∈ candidates, Leads find c path := by
  unfold resolve at h ⊢
  cases hfound : candidates.findSome? (candidatePath? find) with
  | some path =>
    obtain ⟨c, hc, hpath⟩ := List.exists_of_findSome?_eq_some hfound
    exact ⟨path, rfl, c, hc, candidatePath?_eq_some_iff.mp hpath⟩
  | none =>
    rw [hfound] at h
    cases candidates <;> cases h

/-- What is found is not changed by what comes after it. -/
theorem resolve_append (h : resolve find candidates = .found path) (more : List String) :
    resolve find (candidates ++ more) = .found path := by
  rw [(resolves_resolve find _).found] at h ⊢
  obtain ⟨c, ⟨before, after, rfl, hc, hbefore⟩, hpath⟩ := h
  exact ⟨c, ⟨before, after ++ more, by simp, hc, hbefore⟩, hpath⟩

/-- An entry after the first one does nothing if it leads nowhere: neither the search nor the
fallback comes to it. -/
theorem resolve_remove {first skipped : String} {before after : List String}
    (h : ∀ path, ¬Leads find skipped path) :
    resolve find (first :: (before ++ after)) =
      resolve find (first :: (before ++ skipped :: after)) := by
  have hskipped := candidatePath?_eq_none_iff.mpr h
  have hscan : (first :: (before ++ skipped :: after)).findSome? (candidatePath? find) =
      (first :: (before ++ after)).findSome? (candidatePath? find) := by
    simp [List.findSome?_cons, List.findSome?_append, hskipped]
  simp only [resolve, hscan]

/-! ## 4. The search on a machine -/

theorem mem_places_of_find? {l : Locator} {m : Machine} {name : String}
    (h : l.find? m name = some path) :
    m.isProgram path = true ∧
      ∃ searchPath, l.searchPath = some searchPath ∧ path ∈ l.places m searchPath name := by
  unfold find? at h
  split at h
  · cases h
  · obtain ⟨searchPath, hknown, hfound⟩ := Option.bind_eq_some_iff.mp h
    exact ⟨List.find?_some hfound, searchPath, hknown, List.mem_of_find?_eq_some hfound⟩

/-- What is logged for a resolution. -/
def resolutionEvents (candidates : List String) : ToolResolution → List Event
  | .fallback name => [.noCandidate candidates name]
  | _ => []

theorem locate_eq (l : Locator) (candidates : List String) (m : Machine) :
    l.locate candidates m =
      (resolve (l.find? m) candidates,
        m.logged (resolutionEvents candidates (resolve (l.find? m) candidates))) := by
  have hget (k : Machine → MachineM ToolResolution) : (get >>= k : MachineM _) m = k m m := rfl
  unfold locate
  rw [hget]
  cases resolve (l.find? m) candidates with
  | fallback name => rfl
  | pinned | found | probed | notFound => exact congrArg (Prod.mk _) m.logged_nil.symm

/-- **The first candidate that leads to a path.**  A list of candidates resolves by it, and
without one to the fallback, with one warning, or to nothing if the list is empty; nothing
else is logged.  More candidates do not change what is found, and a candidate that
is empty or not found, other than the first, can be left out of any list. -/
theorem locate_takes_first (l : Locator) (candidates : List String) (m : Machine) :
    ∃ r es, l.locate candidates m = (r, m.logged es) ∧
      Resolves (l.find? m) candidates r ∧
      (∀ name, r = .fallback name →
        es = [.noCandidate candidates name] ∧ (Event.noCandidate candidates name).level = .warn) ∧
      ((∀ name, r ≠ .fallback name) → es = []) ∧
      (∀ path more, r = .found path → (l.locate (candidates ++ more) m).1 = r) ∧
      ∀ first before skipped after, candidates = first :: (before ++ skipped :: after) →
        skipped = "" ∨ (Path.mk skipped).isAbsolute = false ∧ l.find? m skipped = none →
        (l.locate (first :: (before ++ after)) m).1 = r := by
  refine ⟨_, _, l.locate_eq candidates m, resolves_resolve _ _, ?_, ?_, ?_, ?_⟩
  · intro name h
    rw [h]
    exact ⟨rfl, rfl⟩
  · intro h
    cases hr : resolve (l.find? m) candidates with
    | fallback name => exact absurd hr (h name)
    | pinned | found | probed | notFound => rfl
  · intro path more h
    rw [locate_eq, h]
    exact resolve_append h more
  · rintro first before skipped after rfl h
    rw [locate_eq]
    exact resolve_remove (not_leads_iff.mpr h)

/-- The empty candidate is passed over, and kept as the fallback all the same. -/
example (m : Machine) :
    let l : Locator := { searchPath := none, base := ⟨"/"⟩ }
    (l.locate ["", "make", "/bin/gmake"] m).1 = .found ⟨"/bin/gmake"⟩ ∧
      (l.locate ["", "make"] m).1 = .fallback ⟨""⟩ :=
  ⟨rfl, rfl⟩

end Locator

end CrossBuild
