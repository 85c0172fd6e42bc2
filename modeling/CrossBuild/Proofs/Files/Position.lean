import CrossBuild.Proofs.Files.Creation

/-!
# Places that path texts name

Where there are no links, the text of a path alone says where the path leads: a name goes
down, `..` goes up, and nothing else counts (`Path.place`).  The walk along the path may
fail, but it ends nowhere else (`FileTree.Way.eq_follow`).

The directories above that place are not the only ones that the text passes through
(`Path.Passes`): `x/../y` passes through `x`.  So if the directories above a path are made,
`x` is made with them.  Whatever becomes of making them, all else is as before
(`Machine.ensureDirectory_adds`).
-/
namespace CrossBuild

/-! ## 1. Places by text -/

namespace Place

/-- Where a component leads to from a directory. -/
def step (place : Place) : Path.Component → Place
  | .name s => place ++ [s]
  | .up => place.dropLast
  | .root | .here => place

/-- Where components lead to, one after the other. -/
def follow (place : Place) (cs : List Path.Component) : Place :=
  cs.foldl step place

@[simp] theorem follow_nil (place : Place) : place.follow [] = place := rfl

@[simp] theorem follow_cons (place : Place) (c : Path.Component) (cs : List Path.Component) :
    place.follow (c :: cs) = (place.step c).follow cs := rfl

theorem follow_append (place : Place) (cs ds : List Path.Component) :
    place.follow (cs ++ ds) = (place.follow cs).follow ds :=
  List.foldl_append

/-- The places of the directories above an entry. -/
def Above (place q : Place) : Prop :=
  q <+: place ∧ q ≠ place

end Place

namespace Path

/-- The directory that a path text counts from. -/
def start (p : Path) (directory : Place) : Place :=
  if p.isAbsolute then [] else directory

/-- The place that a path text names. -/
def place (p : Path) (directory : Place) : Place :=
  (p.start directory).follow p.below

/-- A path text passes through a place on its way to the one that it names. -/
def Passes (p : Path) (directory q : Place) : Prop :=
  ∃ cs rest, p.below = cs ++ rest ∧ rest ≠ [] ∧ q = (p.start directory).follow cs

variable {p d : Path} {directory q : Place}

/-- The parent of a path has its components but the last, or an empty text. -/
theorem below_of_parent? (h : p.parent? = some d) :
    d.text = "" ∨ d.isAbsolute = p.isAbsolute ∧ ∃ c, p.below = d.below ++ [c] := by
  rcases List.eq_nil_or_concat p.below with hbelow | ⟨cs, c, hbelow⟩
  · left
    have hcomponents : p.components = p.lead := by
      rw [components_eq, hbelow, List.append_nil]
    rw [parent?, hcomponents] at h
    rcases p.lead_cases with hlead | hlead | hlead <;> rw [hlead] at h
    · cases h
    · cases h
    · cases h
      rfl
  · right
    rw [List.concat_eq_append] at hbelow
    have hinner : ∀ c' ∈ cs ++ [c], c' = .up ∨ ∃ s, c' = .name s := fun c' hc' =>
      mem_below (p := p) (hbelow ▸ hc')
    have hcomponents : p.components = p.lead ++ cs ++ [c] := by
      rw [components_eq, hbelow, List.append_assoc]
    obtain ⟨chars, hparent, hd, -⟩ := parent?_spec (hinner c (by simp)) hcomponents
    cases h.symm.trans hparent
    obtain ⟨hlead, hcs⟩ :=
      lead_below_of_components hd fun c' hc' => hinner c' (List.mem_append_left _ hc')
    refine ⟨?_, c, hcs ▸ hbelow⟩
    rw [Bool.eq_iff_iff, isAbsolute_iff_lead, isAbsolute_iff_lead, hlead]

/-- A path passes through what its parent names, and through what that one passes. -/
theorem Passes.of_parent? (h : p.parent? = some d) (hne : d.text ≠ "")
    (hq : q = d.place directory ∨ d.Passes directory q) : p.Passes directory q := by
  obtain ⟨habsolute, c, hbelow⟩ := (below_of_parent? h).resolve_left hne
  have hstart : d.start directory = p.start directory := by rw [start, start, habsolute]
  rcases hq with rfl | ⟨cs, rest, hd, -, rfl⟩
  · exact ⟨d.below, [c], hbelow, by simp, by rw [place, hstart]⟩
  · exact ⟨cs, rest ++ [c], by rw [hbelow, hd, List.append_assoc], by simp, by rw [hstart]⟩

theorem not_mem_of_mem_splitAfter (sep : Char) {piece s cs : List Char} (hpiece : sep ∉ piece)
    (h : cs ∈ Text.splitAfter sep piece s) : sep ∉ cs ∧ ∀ c ∈ cs, c ∈ piece ∨ c ∈ s := by
  induction s generalizing piece with
  | nil =>
    rw [Text.splitAfter, List.mem_singleton] at h
    subst h
    simpa using hpiece
  | cons c s ih =>
    rw [Text.splitAfter] at h
    split at h
    · rcases List.mem_cons.mp h with rfl | h
      · exact ⟨by simpa using hpiece, fun c hc => .inl (List.mem_reverse.mp hc)⟩
      · obtain ⟨hsep, hmem⟩ := ih List.not_mem_nil h
        exact ⟨hsep, fun c hc => .inr (List.mem_cons_of_mem _ ((hmem c hc).resolve_left (by simp)))⟩
    · rename_i hne
      obtain ⟨hsep, hmem⟩ := ih (by simp [hpiece, Ne.symm hne]) h
      refine ⟨hsep, fun d hd => ?_⟩
      rcases hmem d hd with hd | hd
      · rcases List.mem_cons.mp hd with rfl | hd
        · exact .inr List.mem_cons_self
        · exact .inl hd
      · exact .inr (List.mem_cons_of_mem _ hd)

/-- A segment that is a name is one that an entry can have. -/
theorem isFileName_of_mem_segments {name : String} (hnul : p.hasNul = false)
    (hmem : name ∈ p.segments) (hname : FileTree.IsName name) : FileTree.IsFileName name := by
  rw [segments, Text.splitOn] at hmem
  obtain ⟨cs, hcs, rfl⟩ := List.mem_map.mp hmem
  obtain ⟨hsep, hall⟩ := not_mem_of_mem_splitAfter separator List.not_mem_nil hcs
  refine ⟨hname, by rwa [String.toList_ofList], fun hzero => ?_⟩
  rw [String.toList_ofList] at hzero
  have hzero' := (hall _ hzero).resolve_left (by simp)
  simp only [hasNul, List.contains_eq_mem, decide_eq_false_iff_not] at hnul
  exact hnul hzero'

end Path

namespace FileTree

variable {t t' t₁ : FileTree} {links : Nat} {directory start parent q : Place}
variable {segments : List String} {p : Path} {name : String} {new more : Place → Prop}

/-- A tree of directories and files. -/
def Plain (t : FileTree) : Prop :=
  ∀ q target, t.lookup? q ≠ some (.link target)

/-- Without links a way ends where the components of its segments lead. -/
theorem Way.eq_follow (hplain : t.Plain) (h : t.Way links start segments q) :
    q = start.follow (segments.filterMap Path.innerComponent?) := by
  induction h with
  | done => rfl
  | stay hblank _ ih =>
    rw [List.filterMap_cons_none (Path.innerComponent?_eq_none.mpr hblank)]
    exact ih
  | up _ ih => exact ih
  | down hname _ _ ih =>
    rw [hname.filterMap_cons]
    exact ih
  | file hname _ =>
    rw [hname.filterMap_cons]
    rfl
  | follow _ hthere _ _ _ => exact absurd hthere (hplain _ _)

theorem Begins.eq_start (h : t.Begins directory p start) : start = p.start directory := by
  rw [Path.start]
  rcases h.start with ⟨habsolute, rfl⟩ | ⟨habsolute, -, rfl⟩ <;> simp [habsolute]

/-- The slot of a path is at the place that its text names. -/
theorem IsSlot.place_eq (hplain : t.Plain) (h : t.IsSlot directory p parent name) :
    p.place directory = parent ++ [name] := by
  obtain ⟨start, before, after, hbegins, hway, hsegments, hafter⟩ := h.way
  have hname : Path.innerComponent? name = some (.name name) :=
    Path.innerComponent?_eq_name_iff.mpr ⟨rfl, h.ne_empty, h.ne_here, h.ne_up⟩
  have hblank : after.filterMap Path.innerComponent? = [] :=
    List.filterMap_eq_nil_iff.mpr fun segment hmem =>
      Path.innerComponent?_eq_none.mpr (.inl (hafter segment hmem))
  rw [Path.place, Path.below, hsegments, List.filterMap_append, List.filterMap_cons_some hname,
    hblank, Place.follow_append, ← hbegins.eq_start, ← hway.eq_follow hplain]
  rfl

/-! ## 2. Trees with more directories -/

/-- A place is as before, or there is a directory where nothing stood and where one may be new. -/
def AsBefore (t : FileTree) (new : Place → Prop) (t' : FileTree) (q : Place) : Prop :=
  t'.lookup? q = t.lookup? q ∨ t.lookup? q = none ∧ t'.lookup? q = some .directory ∧ new q

/-- Nothing but directories has been added to a tree. -/
structure Adds (t : FileTree) (new : Place → Prop) (t' : FileTree) : Prop where
  sound : t'.Sound
  plain : t'.Plain
  asBefore : ∀ q, t.AsBefore new t' q

theorem AsBefore.mono (h : t.AsBefore new t' q) (hmore : t.lookup? q = none → new q → more q) :
    t.AsBefore more t' q := by
  rcases h with h | ⟨hnone, hthere, hnew⟩
  · exact .inl h
  · exact .inr ⟨hnone, hthere, hmore hnone hnew⟩

theorem Adds.mono (h : t.Adds new t') (hmore : ∀ q, t.lookup? q = none → new q → more q) :
    t.Adds more t' :=
  ⟨h.sound, h.plain, fun q => (h.asBefore q).mono (hmore q)⟩

theorem Adds.refl (hsound : t.Sound) (hplain : t.Plain) : t.Adds new t :=
  ⟨hsound, hplain, fun _ => .inl rfl⟩

theorem AsBefore.trans (h : t.AsBefore new t₁ q) (h' : t₁.AsBefore new t' q) :
    t.AsBefore new t' q := by
  rcases h with h | ⟨hnone, hthere, hnew⟩
  · rcases h' with h' | ⟨hnone, hthere, hnew⟩
    · exact .inl (h'.trans h)
    · exact .inr ⟨h ▸ hnone, hthere, hnew⟩
  · rcases h' with h' | ⟨hnone', -, -⟩
    · exact .inr ⟨hnone, h'.trans hthere, hnew⟩
    · cases hthere.symm.trans hnone'

theorem Adds.trans (h : t.Adds new t₁) (h' : t₁.Adds new t') : t.Adds new t' :=
  ⟨h'.sound, h'.plain, fun q => (h.asBefore q).trans (h'.asBefore q)⟩

/-- A directory is made in an existing one, at the place that its path names. -/
theorem makeDirectory_adds (hsound : t.Sound) (hplain : t.Plain)
    (h : t.makeDirectory directory p = .ok t') : t.Adds (· = p.place directory) t' := by
  obtain ⟨parent, name, hslot, hname, hnothing, rfl⟩ := makeDirectory_eq_ok h
  have hroot := ne_root_of_concat parent name
  obtain ⟨start, before, after, hbegins, -, hsegments, -⟩ := hslot.way
  have hfileName : IsFileName name :=
    Path.isFileName_of_mem_segments hbegins.hasNul (by simp [hsegments]) hname
  constructor
  case sound =>
    exact hsound.put hslot.parent hfileName fun old hold => by cases hnothing.symm.trans hold
  case plain =>
    intro q target
    rw [lookup?_put hroot]
    split
    · simp
    · exact hplain q target
  case asBefore =>
    intro q
    rw [AsBefore, lookup?_put hroot, hslot.place_eq hplain]
    by_cases hq : q = parent ++ [name]
    · exact .inr ⟨hq ▸ hnothing, if_pos hq, hq⟩
    · exact .inl (if_neg hq)

/-- What making a parent adds is passed through by the path. -/
theorem Adds.of_parent? {d : Path} {n : Nat} (hsound : t.Sound) (hplain : t.Plain)
    (hparent : p.parent? = some d)
    (h : t.Adds (fun q => q = d.place directory ∨ d.Passes directory q)
      (makeDirectoriesUpTo directory n t d).2) :
    t.Adds (p.Passes directory) (makeDirectoriesUpTo directory n t d).2 := by
  by_cases hempty : d.text = ""
  · have hnothing : makeDirectoriesUpTo directory n t d = (.ok (), t) := by
      rw [makeDirectoriesUpTo.eq_def]
      simp only [hempty, if_true]
    rw [hnothing]
    exact .refl hsound hplain
  · exact h.mono fun q _ => .of_parent? hparent hempty

/-- The directories that are missing are made where the path passes, and at its own place. -/
theorem makeDirectoriesUpTo_adds (n : Nat) (hsound : t.Sound) (hplain : t.Plain) :
    t.Adds (fun q => q = p.place directory ∨ p.Passes directory q)
      (makeDirectoriesUpTo directory n t p).2 := by
  -- Induction on the parents that are tried; the path's own directory comes after them.
  fun_induction makeDirectoriesUpTo directory n t p with
  | case1 | case3 | case7 => exact .refl hsound hplain
  | case2 n t p hne made hmade =>
    exact (makeDirectory_adds hsound hplain hmade).mono fun q _ => .inl
  | case4 t p hne e hmake hnotFound n parent hparent e' t' hparents ih =>
    have hpassed := (ih hsound hplain).of_parent? hsound hplain hparent
    rw [hparents] at hpassed
    exact hpassed.mono fun q _ => .inr
  | case5 t p hne e hmake hnotFound n parent hparent _ t' hparents made hmade ih =>
    have hpassed := (ih hsound hplain).of_parent? hsound hplain hparent
    rw [hparents] at hpassed
    have hown := makeDirectory_adds hpassed.sound hpassed.plain hmade
    exact (hpassed.mono fun q _ => .inr).trans (hown.mono fun q _ => .inl)
  | case6 t p hne e hmake hnotFound n parent hparent _ t' hparents e' hmake' ih =>
    have hpassed := (ih hsound hplain).of_parent? hsound hplain hparent
    rw [hparents] at hpassed
    exact hpassed.mono fun q _ => .inr

/-! ## 3. Places above a path -/

/-- Wherever a path goes up, it goes up from a directory that is there. -/
def Climbs (t : FileTree) (directory : Place) (p : Path) : Prop :=
  ∀ cs rest, p.below = cs ++ .up :: rest →
    t.lookup? ((p.start directory).follow cs) = some .directory

theorem climbs_of_not_up (h : .up ∉ p.below) : t.Climbs directory p :=
  fun cs rest hbelow => absurd (by rw [hbelow]; simp) h

/-- From where nothing stands, components lead on to where nothing stands, and so they are
names. -/
theorem Sound.follow_of_absent (h : t.Sound) {cs : List Path.Component}
    (hinner : ∀ c ∈ cs, c = .up ∨ ∃ s, c = .name s)
    (hup : ∀ front rest, cs = front ++ .up :: rest →
      t.lookup? (q.follow front) = some .directory) (hq : t.lookup? q = none) :
    ∃ names, q.follow cs = q ++ names ∧ names.length = cs.length := by
  induction cs generalizing q with
  | nil => exact ⟨[], (List.append_nil q).symm, rfl⟩
  | cons c cs ih =>
    rcases hinner c List.mem_cons_self with rfl | ⟨s, rfl⟩
    · cases hq.symm.trans (hup [] cs rfl)
    · have hnext : t.lookup? (q ++ [s]) = none := by
        cases he : t.lookup? (q ++ [s]) with
        | none => rfl
        | some e => cases hq.symm.trans (h.parent he)
      obtain ⟨names, hfollow, hlength⟩ := ih
        (fun c hc => hinner c (List.mem_cons_of_mem _ hc))
        (fun front rest hcs => hup (.name s :: front) rest (by rw [hcs, List.cons_append])) hnext
      refine ⟨s :: names, ?_, by rw [List.length_cons, List.length_cons, hlength]⟩
      rw [Place.follow_cons, hfollow, Place.step, List.append_assoc, List.singleton_append]

/-- What such a path passes through, and is not there, is above the place that it names. -/
theorem Climbs.above (hclimbs : t.Climbs directory p) (h : t.Sound)
    (hpasses : p.Passes directory q) (hq : t.lookup? q = none) :
    (p.place directory).Above q := by
  obtain ⟨cs, rest, hbelow, hne, rfl⟩ := hpasses
  obtain ⟨names, hfollow, hlength⟩ := h.follow_of_absent
    (fun c hc => Path.mem_below (p := p) (by rw [hbelow]; exact List.mem_append_right _ hc))
    (fun front more hrest => Place.follow_append _ cs front ▸
      hclimbs (cs ++ front) more (by rw [hbelow, hrest, List.append_assoc])) hq
  have hplace : p.place directory = (p.start directory).follow cs ++ names := by
    rw [Path.place, hbelow, Place.follow_append, hfollow]
  rw [hplace]
  refine ⟨List.prefix_append _ _, fun hsame => hne (List.length_eq_zero_iff.mp ?_)⟩
  rw [← hlength, List.self_eq_append_right.mp hsame, List.length_nil]

end FileTree

/-! ## 4. On a machine -/

/-- Whether or not the directories above a path can be made, the only new ones are those that
it passes through. -/
theorem Machine.ensureDirectory_adds {m : Machine} {p d : Path} (hsound : m.files.Sound)
    (hplain : m.files.Plain) (hparent : p.parent? = some d) :
    ∃ r files, m.perform (ensureDirectory d) = (r, { m with files }) ∧
      m.files.Adds (p.Passes m.directory) files := by
  rw [perform_ensureDirectory]
  split
  · exact ⟨_, m.files, rfl, .refl hsound hplain⟩
  · exact ⟨_, _, rfl, .of_parent? hsound hplain hparent
      (FileTree.makeDirectoriesUpTo_adds _ hsound hplain)⟩

end CrossBuild
