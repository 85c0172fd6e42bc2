import CrossBuild.Proofs.Files.Joined
import CrossBuild.Proofs.Path.Parent

/-!
# Directories that are made

A directory that is asked for where there is none is made together with those
above it.  Its path comes to a directory that is there and goes on with the names of
the ones that are not (`FileTree.Continues`); afterwards it leads to the last of them,
and everything else is as it was (`FileTree.Grows`).

The names are made from the first to the last, although the last one is tried
first: it fails as long as the others are missing, and the path is taken
apart from its end.
-/
namespace CrossBuild

namespace Path

/-! ## 1. Components and the parent -/

/-- The components of a path tell what it starts from, and what it adds. -/
theorem lead_below_of_components {p d : Path} {l : List Component}
    (h : d.components = p.lead ++ l) (hl : ∀ c ∈ l, c = .up ∨ ∃ s, c = .name s) :
    d.lead = p.lead ∧ d.below = l := by
  let inner (c : Component) : Bool := 2 ≤ c.rank
  have hlead (q : Path) : ∀ c ∈ q.lead, inner c = false := by
    rcases q.lead_cases with hq | hq | hq <;> rw [hq] <;> simp [inner, Component.rank]
  have hinner {m : List Component} (hm : ∀ c ∈ m, c = .up ∨ ∃ s, c = .name s) :
      ∀ c ∈ m, inner c = true := by
    intro c hc
    rcases hm c hc with rfl | ⟨s, rfl⟩ <;> rfl
  have hsplit (q : Path) {m : List Component} (hm : ∀ c ∈ m, c = .up ∨ ∃ s, c = .name s) :
      (q.lead ++ m).partition inner = (m, q.lead) := by
    rw [List.partition_eq_filter_filter, List.filter_append, List.filter_append,
      List.filter_eq_nil_iff.mpr (fun c hc => by simp [hlead q c hc]),
      List.filter_eq_self.mpr (hinner hm),
      List.filter_eq_self.mpr (fun c hc => by simp [hlead q c hc]),
      List.filter_eq_nil_iff.mpr (fun c hc => by simp [hinner hm c hc])]
    simp
  have hboth : (d.lead ++ d.below).partition inner = (d.below, d.lead) :=
    hsplit d fun c => mem_below
  rw [← components_eq, h, hsplit p hl] at hboth
  exact ⟨(Prod.mk.inj hboth).2.symm, (Prod.mk.inj hboth).1.symm⟩

theorem length_splitAfter_le (sep : Char) (piece s : List Char) :
    (Text.splitAfter sep piece s).length ≤ s.length + 1 := by
  induction s generalizing piece with
  | nil => simp [Text.splitAfter]
  | cons c s ih =>
    rw [Text.splitAfter]
    split
    · exact Nat.succ_le_succ (ih [])
    · exact Nat.le_succ_of_le (ih _)

theorem length_segments_le (p : Path) : p.segments.length ≤ p.text.length + 1 := by
  rw [segments, Text.splitOn, List.length_map]
  exact length_splitAfter_le _ _ _

end Path

namespace FileTree

variable {t t' t₁ : FileTree} {directory base place start : Place} {p : Path}
variable {names before after : List String} {name : String}

/-! ## 2. Paths that go on with new names -/

/-- A path comes to a directory that is there, and goes on with names that are not; it does not
end with `.`. -/
structure Continues (t : FileTree) (directory : Place) (p : Path) (base : Place)
    (names : List String) : Prop where
  way : ∃ start segments, t.Begins directory p start ∧ t.Way linkLimit start segments base ∧
    p.below = segments.filterMap Path.innerComponent? ++ names.map .name
  there : t.lookup? base = some .directory
  isFileName : ∀ name ∈ names, IsFileName name
  absent : ∀ name, names.head? = some name → t.lookup? (base ++ [name]) = none
  last : ∀ name, names.getLast? = some name → ∃ before after,
    p.segments = before ++ name :: after ∧ ∀ segment ∈ after, segment = ""

/-- An absolute path of names goes on from the directory that the first of them name. -/
theorem Sound.continues (h : t.Sound) (hbegins : t.Begins directory p [])
    (hbelow : p.below = (base ++ names).map .name) (hbase : t.lookup? base = some .directory)
    (hnames : ∀ name ∈ names, IsFileName name)
    (habsent : ∀ name ∈ names.head?, t.lookup? (base ++ [name]) = none)
    (hlast : ∀ name ∈ names.getLast?, ∃ before after,
      p.segments = before ++ name :: after ∧ ∀ segment ∈ after, segment = "") :
    t.Continues directory p base names := by
  have hfilter := Path.filterMap_names (h.isFileName_of_below (p := []) hbase)
  have hway : t.Way linkLimit [] base ([] ++ base) := h.way_of_names hbase
  exact ⟨⟨[], base, hbegins, hway, by rw [hbelow, List.map_append, hfilter]⟩, hbase, hnames,
    habsent, hlast⟩

/-- The directories down to a place are there, and nothing else has changed. -/
structure Grows (t : FileTree) (place : Place) (t' : FileTree) : Prop where
  sound : t'.Sound
  keeps : t.Keeps t'
  made : ∀ q, q <+: place → t'.lookup? q = some .directory
  rest : ∀ q, ¬q <+: place → t'.lookup? q = t.lookup? q

/-- One more directory, in the last one that is there. -/
theorem Grows.put (h : t.Grows place t₁) (hname : IsFileName name)
    (habsent : t.lookup? (place ++ [name]) = none) :
    t.Grows (place ++ [name]) (t₁.put (place ++ [name]) .directory) := by
  have hroot := ne_root_of_concat place name
  have hfree : t₁.lookup? (place ++ [name]) = none := by
    rw [h.rest _ fun hinitial => by simpa [Nat.not_succ_le_self] using hinitial.length_le, habsent]
  have hkeeps : t₁.Keeps (t₁.put (place ++ [name]) .directory) :=
    keeps_put hroot fun old hold => by cases hfree.symm.trans hold
  constructor
  case sound =>
    exact h.sound.put (h.made place List.prefix_rfl) hname fun old hold => by
      cases hfree.symm.trans hold
  case keeps => exact h.keeps.trans hkeeps
  case made =>
    intro q hq
    rcases List.prefix_concat_iff.mp hq with rfl | hq
    · rw [lookup?_put hroot, if_pos rfl]
    · exact hkeeps.directory (h.made q hq)
  case rest =>
    intro q hq
    have hne : q ≠ place ++ [name] := by
      rintro rfl
      exact hq List.prefix_rfl
    rw [lookup?_put hroot, if_neg hne]
    exact h.rest q fun hq' => hq (hq'.trans (List.prefix_append place [name]))

/-- The directories that are there already. -/
theorem Sound.grows (h : t.Sound) (hplace : t.lookup? place = some .directory) :
    t.Grows place t where
  sound := h
  keeps := .refl t
  made q hq := by
    obtain ⟨r, rfl⟩ := hq
    by_cases hr : r = []
    · rwa [hr, List.append_nil] at hplace
    · exact h.directory_of_below hr hplace
  rest _ _ := rfl

/-- Nothing has changed below the place. -/
theorem Grows.below (h : t.Grows place t') {r : Place} (hr : r ≠ []) :
    t'.lookup? (place ++ r) = t.lookup? (place ++ r) := by
  refine h.rest _ fun hinitial => hr (List.length_eq_zero_iff.mp ?_)
  have hlength := hinitial.length_le
  rw [List.length_append] at hlength
  omega

/-- Nothing but directories is new. -/
theorem Grows.old (h : t.Grows place t') {q : Place} {e : Entry} (hq : t'.lookup? q = some e)
    (he : e ≠ .directory) : t.lookup? q = some e := by
  by_cases hinitial : q <+: place
  · exact absurd (Option.some.inj (hq.symm.trans (h.made q hinitial))) he
  · rwa [h.rest q hinitial] at hq

/-- What follows a segment that is a name are blanks, if the name is the last component. -/
theorem Continues.split (h : t.Continues directory p base (names ++ [name])) :
    ∃ start segments before after, t.Begins directory p start ∧
      t.Way linkLimit start segments base ∧ p.segments = before ++ name :: after ∧
      (∀ segment ∈ after, segment = "") ∧ before.filterMap Path.innerComponent? =
        segments.filterMap Path.innerComponent? ++ names.map .name := by
  obtain ⟨start, segments, hbegins, hway, hbelow⟩ := h.way
  obtain ⟨before, after, hsegments, hafter⟩ := h.last name (by simp)
  have hname := (h.isFileName name (by simp)).toIsName
  have hblank : after.filterMap Path.innerComponent? = [] :=
    List.filterMap_eq_nil_iff.mpr fun segment hmem =>
      Path.innerComponent?_eq_none.mpr (.inl (hafter segment hmem))
  rw [Path.below, hsegments, List.filterMap_append, hname.filterMap_cons, hblank, List.map_append,
    ← List.append_assoc] at hbelow
  exact ⟨start, segments, before, after, hbegins, hway, hsegments, hafter,
    (List.append_inj' hbelow rfl).1⟩

/-- A new name that another one is below is not found. -/
theorem Continues.not_found (h : t.Continues directory p base (names ++ [name]))
    (hnames : names ≠ []) : t.makeDirectory directory p = .error .notFound := by
  obtain ⟨start, segments, before, after, hbegins, hway, hsegments, hafter, hbefore⟩ := h.split
  obtain ⟨first, rest, rfl⟩ := List.exists_cons_of_ne_nil hnames
  obtain ⟨above, more, rfl, habove, hmore⟩ := List.filterMap_eq_append_iff.mp hbefore
  obtain ⟨blanks, segment, others, rfl, hblanks, hsegment, -⟩ :=
    List.filterMap_eq_cons_iff.mp hmore
  obtain ⟨rfl, -⟩ := Path.innerComponent?_eq_name_iff.mp hsegment
  have hfirst : IsName segment := (h.isFileName segment (by simp)).toIsName
  have habsent : t.lookup? (base ++ [segment]) = none := h.absent segment rfl
  have hwalk : t.walkFrom directory true p (above ++ (blanks ++ segment :: others)) =
      if others.all (· == "") then .ok (base ++ [segment]) else .error .notFound := by
    rw [hbegins.walkFrom]
    refine (hway.congr h.there habove).walk_append h.there fun n => ?_
    rw [walk_stays hblanks, walk, if_neg hfirst.not_blank, if_neg hfirst.ne_up,
      if_neg hfirst.not_long]
    simp only [habsent]
  have hslot : t.slot directory p = .error .notFound := by
    rw [slot_eq hsegments hafter (h.isFileName name (by simp)).toIsName, hwalk]
    cases others.all (· == "") <;> simp [habsent]
  rw [makeDirectory, hslot]

/-! ## 3. Making them -/

theorem Begins.of_prefix {d : Path} (h : t.Begins directory p start)
    (hinitial : d.text.toList <+: p.text.toList) (hne : d.text ≠ "") (hlead : d.lead = p.lead) :
    t.Begins directory d start := by
  have habsolute : d.isAbsolute = p.isAbsolute := by
    rw [Bool.eq_iff_iff, Path.isAbsolute_iff_lead, Path.isAbsolute_iff_lead, hlead]
  refine ⟨?_, hne, ?_, ?_⟩
  · have hnul := h.hasNul
    simp only [Path.hasNul, List.contains_eq_mem, decide_eq_false_iff_not] at hnul ⊢
    exact fun hmem => hnul (hinitial.mem hmem)
  · obtain ⟨rest, hrest⟩ := hinitial
    have htext : p.text = d.text ++ String.ofList rest := by
      rw [← String.toList_inj, ← hrest, String.toList_append, String.toList_ofList]
    have hsize := h.size
    rw [htext, String.utf8ByteSize_append] at hsize
    omega
  · rw [habsolute]
    exact h.start

/-- The parent of such a path goes on with all names but the last. -/
theorem Continues.parent (h : t.Continues directory p base (names ++ [name]))
    (hnames : names ≠ []) :
    ∃ d, p.parent? = some d ∧ t.Continues directory d base names := by
  obtain ⟨start, segments, hbegins, hway, hbelow⟩ := h.way
  rw [List.map_append, ← List.append_assoc] at hbelow
  have hcomponents : p.components = p.lead ++ (segments.filterMap Path.innerComponent? ++
      names.map .name) ++ [.name name] := by
    rw [Path.components_eq, hbelow, ← List.append_assoc]
    rfl
  obtain ⟨d, hparent, hd⟩ := Path.parent?_components hcomponents
  obtain ⟨hlead, hbelow'⟩ := Path.lead_below_of_components hd fun c hc =>
    Path.mem_below (p := p) (by rw [hbelow]; exact List.mem_append_left _ hc)
  have hne : d.text ≠ "" := by
    intro hempty
    have hd' : d = Path.ofChars [] := Path.ext_toList (by rw [hempty]; rfl)
    rw [hd', Path.below_nil] at hbelow'
    exact hnames (List.map_eq_nil_iff.mp (List.append_eq_nil_iff.mp hbelow'.symm).2)
  refine ⟨d, hparent, ?_⟩
  constructor
  case way => exact ⟨start, segments,
    hbegins.of_prefix (Path.parent?_prefix hparent) hne hlead, hway, hbelow'⟩
  case there => exact h.there
  case isFileName => exact fun n hn => h.isFileName n (List.mem_append_left _ hn)
  case absent =>
    obtain ⟨first, rest, rfl⟩ := List.exists_cons_of_ne_nil hnames
    exact h.absent
  case last =>
    intro n hn
    obtain ⟨front, rfl⟩ := List.getLast?_eq_some_iff.mp hn
    rw [List.map_append, ← List.append_assoc, ← List.append_assoc] at hcomponents
    obtain ⟨before, hbefore⟩ := Path.segments_parent? hcomponents hparent
    exact ⟨before, [], hbefore, nofun⟩

/-- Nothing is below a name that is not there. -/
theorem Continues.absent_below (h : t.Continues directory p base names) (hsound : t.Sound)
    (hnames : names ≠ []) (r : Place) : t.lookup? (base ++ (names ++ r)) = none := by
  obtain ⟨first, rest, rfl⟩ := List.exists_cons_of_ne_nil hnames
  have habsent := h.absent first rfl
  cases he : t.lookup? (base ++ (first :: rest ++ r)) with
  | none => rfl
  | some e =>
    rw [List.cons_append, List.append_cons] at he
    by_cases hbelow : rest ++ r = []
    · rw [hbelow, List.append_nil, habsent] at he
      cases he
    · cases habsent.symm.trans (hsound.directory_of_below hbelow he)

/-- Once the others are there, the last name is made. -/
theorem Continues.makeDirectory (h : t.Continues directory p base (names ++ [name]))
    (hsound : t.Sound) (hgrows : t.Grows (base ++ names) t₁) :
    ∃ t', t₁.makeDirectory directory p = .ok t' ∧ t.Grows (base ++ (names ++ [name])) t' := by
  obtain ⟨start, segments, before, after, hbegins, hway, hsegments, hafter, hbefore⟩ := h.split
  have hname := h.isFileName name (by simp)
  have hthere : t₁.lookup? (base ++ names) = some .directory := hgrows.made _ List.prefix_rfl
  have habsent : t.lookup? (base ++ names ++ [name]) = none := by
    have habsent := h.absent_below hsound (by simp) []
    rwa [List.append_nil, ← List.append_assoc] at habsent
  have hfree : t₁.lookup? (base ++ names ++ [name]) = none := by
    rw [hgrows.rest _ fun hinitial => by simpa [Nat.not_succ_le_self] using hinitial.length_le,
      habsent]
  have hway' : t₁.Way linkLimit start before (base ++ names) := by
    refine ((hway.keeps hgrows.keeps).append (hgrows.keeps.directory h.there) fun n =>
      hgrows.sound.way_of_names hthere).congr hthere ?_
    rw [hbefore, List.filterMap_append, Path.filterMap_names fun n hn =>
      h.isFileName n (List.mem_append_left _ hn)]
  refine ⟨_, makeDirectory_of_way (hbegins.keeps hgrows.keeps) hway' hthere hsegments hafter
    hname.toIsName hfree, ?_⟩
  rw [← List.append_assoc]
  exact hgrows.put hname habsent

theorem Continues.ne_empty (h : t.Continues directory p base names) : p.text ≠ "" := by
  obtain ⟨_, _, hbegins, -⟩ := h.way
  exact hbegins.ne_empty

/-- A single name is made without any parent. -/
theorem Continues.makeDirectories_of_single (h : t.Continues directory p base [name])
    (hsound : t.Sound) (n : Nat) :
    ∃ t', makeDirectoriesUpTo directory n t p = (.ok (), t') ∧ t.Grows (base ++ [name]) t' := by
  have hgrows : t.Grows (base ++ []) t := (List.append_nil base).symm ▸ hsound.grows h.there
  have hlast : t.Continues directory p base ([] ++ [name]) := h
  obtain ⟨t', hmake, hgrows'⟩ := hlast.makeDirectory hsound hgrows
  refine ⟨t', ?_, hgrows'⟩
  rw [makeDirectoriesUpTo.eq_def]
  simp only [h.ne_empty, if_false, hmake]

/-- A directory is made with those above it that are missing. -/
theorem Continues.makeDirectories (h : t.Continues directory p base names) (hsound : t.Sound)
    (hnames : names ≠ []) {n : Nat} (hn : names.length ≤ n + 1) :
    ∃ t', makeDirectoriesUpTo directory n t p = (.ok (), t') ∧ t.Grows (base ++ names) t' := by
  -- Induction on the parents that may be tried: the last name is made after the others.
  induction n generalizing p names with
  | zero =>
    obtain ⟨name, rfl⟩ := List.length_eq_one_iff.mp
      (Nat.le_antisymm hn (List.length_pos_iff.mpr hnames))
    exact h.makeDirectories_of_single hsound 0
  | succ n ih =>
    rcases List.eq_nil_or_concat names with rfl | ⟨front, name, rfl⟩
    · exact absurd rfl hnames
    rw [List.concat_eq_append] at *
    by_cases hfront : front = []
    · rw [hfront] at h ⊢
      exact h.makeDirectories_of_single hsound (n + 1)
    · obtain ⟨d, hparent, hd⟩ := h.parent hfront
      obtain ⟨t₁, hmake₁, hgrows₁⟩ := ih hd hfront (by simpa using hn)
      obtain ⟨t', hmake, hgrows⟩ := h.makeDirectory hsound hgrows₁
      refine ⟨t', ?_, hgrows⟩
      rw [makeDirectoriesUpTo.eq_def]
      simp only [h.ne_empty, if_false, h.not_found hfront, hparent, hmake₁, hmake, ne_eq,
        not_true_eq_false]

/-- The path of the new directory leads to it. -/
theorem Continues.leads (h : t.Continues directory p base names)
    (hgrows : t.Grows (base ++ names) t') : t'.Leads directory p (base ++ names) := by
  obtain ⟨start, segments, hbegins, hway, hbelow⟩ := h.way
  have hthere := hgrows.made _ List.prefix_rfl
  refine ⟨⟨start, hbegins.keeps hgrows.keeps, ?_⟩, hthere⟩
  refine ((hway.keeps hgrows.keeps).append (hgrows.keeps.directory h.there) fun n =>
    hgrows.sound.way_of_names hthere).congr hthere ?_
  rw [List.filterMap_append, Path.filterMap_names h.isFileName, ← hbelow]
  rfl

/-- There is nothing at the path before. -/
theorem Continues.pathExists (h : t.Continues directory p base names) (hsound : t.Sound)
    (hnames : names ≠ []) (hgrows : t.Grows (base ++ names) t') :
    t.pathExists directory p = false := by
  rw [Bool.eq_false_iff, ne_eq, pathExists_iff]
  rintro ⟨e, he⟩
  obtain ⟨start, q, hbegins, hway, hq⟩ := entryAt_eq_ok_iff.mp he
  obtain ⟨start', hbegins', hway'⟩ := (h.leads hgrows).way
  -- A way along the path would be kept, and so end at the new directory.
  cases (hbegins.keeps hgrows.keeps).unique hbegins'
  cases (hway.keeps hgrows.keeps).walk.symm.trans hway'.walk
  have habsent := h.absent_below hsound hnames []
  rw [List.append_nil, hq] at habsent
  cases habsent

/-- A path of a directory that is there, or of one that can be made where it says. -/
inductive IsDestination (t : FileTree) (directory : Place) (p : Path) : Place → Prop where
  | there {place : Place} (leads : t.Leads directory p place) : IsDestination t directory p place
  | absent {base : Place} {names : List String} (continues : t.Continues directory p base names)
    (ne_nil : names ≠ []) : IsDestination t directory p (base ++ names)

end FileTree

namespace Machine

open FileTree

/-- A directory that is missing is made, with those above it that are. -/
theorem perform_ensureDirectory_of_continues {m : Machine} {p : Path} {base : Place}
    {names : List String} (h : m.files.Continues m.directory p base names)
    (hsound : m.files.Sound) (hnames : names ≠ []) :
    ∃ files, m.perform (ensureDirectory p) = (.ok (), { m with files }) ∧
      m.files.Grows (base ++ names) files := by
  have hlength : names.length ≤ p.text.length + 1 := by
    obtain ⟨start, segments, -, -, hbelow⟩ := h.way
    have hle := List.length_filterMap_le Path.innerComponent? p.segments
    rw [← Path.below, hbelow, List.length_append, List.length_map] at hle
    have hsegments := p.length_segments_le
    omega
  obtain ⟨files, hmake, hgrows⟩ := h.makeDirectories hsound hnames hlength
  refine ⟨files, ?_, hgrows⟩
  have habsent : m.pathExists p = false := h.pathExists hsound hnames hgrows
  rw [perform_ensureDirectory, if_neg (by simp [habsent]), FileTree.makeDirectories, hmake]
  rfl

theorem perform_ensureDirectory_of_leads {m : Machine} {p : Path} {place : Place}
    (h : m.files.Leads m.directory p place) : m.perform (ensureDirectory p) = (.ok (), m) := by
  obtain ⟨⟨start, hbegins, hway⟩, hthere⟩ := h
  have hexists : m.pathExists p = true :=
    pathExists_iff.mpr ⟨_, entryAt_eq_ok_iff.mpr ⟨start, place, hbegins, hway, hthere⟩⟩
  rw [perform_ensureDirectory, if_pos hexists]

/-- A path that is stopped on its way is no directory's. -/
theorem perform_ensureDirectory_of_blocked {m : Machine} {p : Path}
    (h : m.files.Blocked m.directory p) :
    ∃ e, m.perform (ensureDirectory p) = (.error (.makeDirectory p e), m) := by
  obtain ⟨e, hentry⟩ := h.entryAt
  obtain ⟨e', hmake⟩ := h.makeDirectories p.text.length
  have habsent : m.pathExists p = false := by
    rw [Machine.pathExists, FileTree.pathExists, hentry]
  refine ⟨e', ?_⟩
  rw [perform_ensureDirectory, if_neg (by simp [habsent]), FileTree.makeDirectories, hmake]
  rfl

/-- Afterwards the path leads to the directory, and nothing else has changed. -/
theorem perform_ensureDirectory_of_isDestination {m : Machine} {p : Path} {place : Place}
    (h : m.files.IsDestination m.directory p place) (hsound : m.files.Sound) :
    ∃ files, m.perform (ensureDirectory p) = (.ok (), { m with files }) ∧
      m.files.Grows place files ∧ files.Leads m.directory p place := by
  cases h with
  | there hleads =>
    exact ⟨m.files, perform_ensureDirectory_of_leads hleads, hsound.grows hleads.there, hleads⟩
  | absent hcontinues hnames =>
    obtain ⟨files, hperform, hgrows⟩ :=
      perform_ensureDirectory_of_continues hcontinues hsound hnames
    exact ⟨files, hperform, hgrows, hcontinues.leads hgrows⟩

end Machine

end CrossBuild
