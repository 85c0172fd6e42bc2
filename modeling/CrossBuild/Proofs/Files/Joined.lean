import CrossBuild.Proofs.Files.Directory
import CrossBuild.Proofs.Path.Relative

/-!
# Where joined paths lead

Names that are joined onto the path of a directory lead on from there, whatever
separators the path ends with: on the way to a directory only the components of a
path count (`FileTree.Way.congr`).

The last name of such a path stands in a directory that is there
(`FileTree.Enters`), and everything that is done at the path is then told by what
stands under that name.  Or the path does not come that far, because a file is in
its way or it is too long (`FileTree.Blocked`), and then nothing is done.
-/
namespace CrossBuild

namespace FileTree

variable {t t' : FileTree} {links : Nat} {start q parent place directory : Place}
variable {segments more : List String} {p : Path} {name : String} {e : Entry}

/-! ## 1. What counts on a way -/

theorem Way.stays (h : t.Way links start more q)
    (hblank : ∀ segment ∈ segments, Path.innerComponent? segment = none) :
    t.Way links start (segments ++ more) q := by
  induction segments with
  | nil => exact h
  | cons segment segments ih =>
    exact .stay (Path.innerComponent?_eq_none.mp (hblank segment List.mem_cons_self))
      (ih fun s hs => hblank s (List.mem_cons_of_mem segment hs))

theorem walk_stays (hblank : ∀ segment ∈ segments, Path.innerComponent? segment = none) :
    t.walk true links start (segments ++ more) = t.walk true links start more := by
  induction segments with
  | nil => rfl
  | cons segment segments ih =>
    have hsegment := Path.innerComponent?_eq_none.mp (hblank segment List.mem_cons_self)
    rw [List.cons_append, walk, if_pos (by simpa using hsegment),
      ih fun s hs => hblank s (List.mem_cons_of_mem segment hs)]

theorem IsName.filterMap_cons (h : IsName name) (rest : List String) :
    (name :: rest).filterMap Path.innerComponent? =
      .name name :: rest.filterMap Path.innerComponent? :=
  List.filterMap_cons_some (Path.innerComponent?_of_isName h)

/-- Segments with the same components lead to the same directory. -/
theorem Way.congr (h : t.Way links start segments q) (hq : t.lookup? q = some .directory)
    (hsame : more.filterMap Path.innerComponent? = segments.filterMap Path.innerComponent?) :
    t.Way links start more q := by
  induction h generalizing more with
  | done =>
    have hblank := List.filterMap_eq_nil_iff.mp hsame
    exact List.append_nil more ▸ Way.done.stays hblank
  | stay hblank _ ih =>
    exact ih hq (hsame.trans (List.filterMap_cons_none (Path.innerComponent?_eq_none.mpr hblank)))
  | @up links start q rest _ ih =>
    have hup : Path.innerComponent? ".." = some .up := rfl
    rw [List.filterMap_cons_some hup] at hsame
    obtain ⟨before, segment, after, rfl, hbefore, hsegment, hafter⟩ :=
      List.filterMap_eq_cons_iff.mp hsame
    obtain rfl := Path.innerComponent?_eq_up_iff.mp hsegment
    exact (Way.up (ih hq hafter)).stays hbefore
  | @down links start q segment rest hname hthere _ ih =>
    rw [hname.filterMap_cons] at hsame
    obtain ⟨before, segment', after, rfl, hbefore, hsegment, hafter⟩ :=
      List.filterMap_eq_cons_iff.mp hsame
    obtain ⟨rfl, -⟩ := Path.innerComponent?_eq_name_iff.mp hsegment
    exact (Way.down hname hthere (ih hq hafter)).stays hbefore
  | file _ hthere => cases hthere.symm.trans hq
  | @follow links start q segment target rest hname hthere hne _ ih =>
    rw [hname.filterMap_cons] at hsame
    obtain ⟨before, segment', after, rfl, hbefore, hsegment, hafter⟩ :=
      List.filterMap_eq_cons_iff.mp hsame
    obtain ⟨rfl, -⟩ := Path.innerComponent?_eq_name_iff.mp hsegment
    refine (Way.follow hname hthere hne (ih hq ?_)).stays hbefore
    rw [List.filterMap_append, List.filterMap_append, hafter]

/-- Names lead down through directories. -/
theorem Sound.way_of_names (h : t.Sound) {r : Place}
    (hdirectory : t.lookup? (start ++ r) = some .directory) :
    t.Way links start r (start ++ r) := by
  induction r generalizing start with
  | nil => exact (List.append_nil start).symm ▸ .done
  | cons name r ih =>
    have hname := h.isFileName_of_below hdirectory name List.mem_cons_self
    rw [List.append_cons] at hdirectory ⊢
    refine .down hname.toIsName ?_ (ih hdirectory)
    cases r with
    | nil => rwa [List.append_nil] at hdirectory
    | cons => exact h.directory_of_below (by simp) hdirectory

/-- After a way to a directory, a walk goes on from there. -/
theorem Way.walk_append {result : Except FileError Place} (h : t.Way links start segments q)
    (hq : t.lookup? q = some .directory) (hmore : ∀ n, t.walk true n q more = result) :
    t.walk true links start (segments ++ more) = result := by
  induction h with
  | done => exact hmore _
  | stay hblank _ ih =>
    rw [List.cons_append, FileTree.walk, if_pos (by simpa using hblank), ih hq hmore]
  | up _ ih =>
    rw [List.cons_append, FileTree.walk, if_neg (by decide), if_pos rfl, ih hq hmore]
  | down hname hthere _ ih =>
    rw [List.cons_append, FileTree.walk, if_neg hname.not_blank, if_neg hname.ne_up,
      if_neg hname.not_long]
    simp only [hthere, ih hq hmore]
  | file _ hthere => cases hthere.symm.trans hq
  | @follow links start q segment target rest hname hthere hne _ ih =>
    have hnext := ih hq hmore
    rw [List.append_assoc] at hnext
    rw [List.cons_append, FileTree.walk, if_neg hname.not_blank, if_neg hname.ne_up,
      if_neg hname.not_long]
    simp [hthere, hne, hnext]

theorem walk_name (hname : IsName name)
    (hplain : ∀ target, t.lookup? (q ++ [name]) ≠ some (.link target)) :
    t.walk true links q [name] = .ok (q ++ [name]) := by
  rw [walk, if_neg hname.not_blank, if_neg hname.ne_up, if_neg hname.not_long]
  cases h : t.lookup? (q ++ [name]) with
  | none => simp [h]
  | some e =>
    cases e with
    | directory => simp [h, walk]
    | file => simp [h]
    | link target => exact absurd h (hplain target)

theorem walk_past_file (hname : IsName name) {data : ByteArray} {executable : Bool}
    (hfile : t.lookup? (q ++ [name]) = some (.file data executable)) (hmore : more ≠ []) :
    t.walk true links q (name :: more) = .error .notADirectory := by
  rw [walk, if_neg hname.not_blank, if_neg hname.ne_up, if_neg hname.not_long]
  simp [hfile, hmore]

theorem Begins.walkFrom (h : t.Begins directory p start) (segments : List String) :
    t.walkFrom directory true p segments = t.walk true linkLimit start segments := by
  rw [FileTree.walkFrom, if_neg (by simp [h.hasNul]), if_neg h.ne_empty,
    if_neg (Nat.not_le.mpr h.size)]
  rcases h.start with ⟨habsolute, rfl⟩ | ⟨habsolute, hdirectory, rfl⟩
  · rw [if_pos habsolute]
  · rw [if_neg (by simp [habsolute]), if_pos hdirectory]

/-! ## 2. Paths that lead to a directory -/

/-- A path leads to the directory at a place. -/
structure Leads (t : FileTree) (directory : Place) (p : Path) (place : Place) : Prop where
  way : ∃ start, t.Begins directory p start ∧ t.Way linkLimit start p.segments place
  there : t.lookup? place = some .directory

theorem leads_iff : t.Leads directory p place ↔
    t.resolve directory p = .ok place ∧ t.lookup? place = some .directory := by
  constructor
  · rintro ⟨⟨start, hbegins, hway⟩, hthere⟩
    exact ⟨walkFrom_eq_ok_iff.mpr ⟨start, hbegins, hway.walk⟩, hthere⟩
  · rintro ⟨hresolve, hthere⟩
    obtain ⟨start, hbegins, hwalk⟩ := walkFrom_eq_ok_iff.mp hresolve
    exact ⟨⟨start, hbegins, way_of_walk hwalk hthere⟩, hthere⟩

theorem Leads.keeps (h : t.Leads directory p place) (hkeeps : t.Keeps t') :
    t'.Leads directory p place := by
  obtain ⟨⟨start, hbegins, hway⟩, hthere⟩ := h
  exact ⟨⟨start, hbegins.keeps hkeeps, hway.keeps hkeeps⟩, hkeeps.directory hthere⟩

theorem begins_of_isAbsolute (habsolute : p.isAbsolute = true) (hnul : p.hasNul = false)
    (hsize : p.text.utf8ByteSize < pathLimit) : t.Begins directory p [] :=
  ⟨hnul, Path.text_ne_empty_of_isAbsolute habsolute, hsize, .inl ⟨habsolute, rfl⟩⟩

/-- An absolute path leads to the directory that its names name. -/
theorem Sound.leads (h : t.Sound) (hbegins : t.Begins directory p [])
    (hbelow : p.below = place.map .name) (hplace : t.lookup? place = some .directory) :
    t.Leads directory p place := by
  have hnames := h.isFileName_of_below (p := []) hplace
  have hway : t.Way linkLimit [] place ([] ++ place) := h.way_of_names hplace
  refine ⟨⟨[], hbegins, hway.congr hplace ?_⟩, hplace⟩
  rw [Path.filterMap_names hnames, ← hbelow]
  rfl

/-- A path whose last segment is a name, in a directory that the others lead to. -/
structure Enters (t : FileTree) (directory : Place) (p : Path) (parent : Place) (name : String) :
    Prop where
  way : ∃ start before, t.Begins directory p start ∧ t.Way linkLimit start before parent ∧
    p.segments = before ++ [name]
  there : t.lookup? parent = some .directory
  isName : IsName name

theorem Enters.keeps (h : t.Enters directory p parent name) (hkeeps : t.Keeps t') :
    t'.Enters directory p parent name := by
  obtain ⟨⟨start, before, hbegins, hway, hsegments⟩, hthere, hname⟩ := h
  exact ⟨⟨start, before, hbegins.keeps hkeeps, hway.keeps hkeeps, hsegments⟩,
    hkeeps.directory hthere, hname⟩

/-- A path that a file or its own length stops before it comes to an entry. -/
structure Blocked (t : FileTree) (directory : Place) (p : Path) : Prop where
  ne_empty : p.text ≠ ""
  resolve : ∃ e, t.resolve directory p = .error e
  slot : ∃ e, t.slot directory p = .error e ∧ e ≠ .notFound

/-- The slot of a path is under the last segment that is not empty. -/
theorem slot_eq {after : List String} (hsegments : p.segments = segments ++ name :: after)
    (hafter : ∀ segment ∈ after, segment = "") (hname : IsName name) :
    t.slot directory p =
      match t.walkFrom directory true p segments with
      | .error e => .error e
      | .ok parent =>
        match t.lookup? parent with
        | some .directory => .ok (parent, .named name (!after.isEmpty))
        | some _ => .error .notADirectory
        | none => .error .notFound := by
  have hreversed : p.segments.reverse.dropWhile (· == "") = name :: segments.reverse := by
    have hblank : ∀ segment ∈ after.reverse, (segment == "") = true := fun segment hmem =>
      beq_iff_eq.mpr (hafter segment (List.mem_reverse.mp hmem))
    rw [hsegments, List.reverse_append, List.reverse_cons, List.append_assoc,
      List.dropWhile_append_of_pos hblank, List.singleton_append,
      List.dropWhile_cons_of_neg (by simpa using hname.ne_empty)]
  have hseparated : (segments.length + 1 != p.segments.length) = !after.isEmpty := by
    cases after <;> simp [hsegments]
  rw [slot, hreversed]
  cases hwalk : t.walkFrom directory true p segments with
  | error e => simp [hwalk]
  | ok parent =>
    cases hparent : t.lookup? parent with
    | none => simp [hwalk, hparent]
    | some e => cases e <;> simp [hwalk, hparent, hseparated, hname.ne_here, hname.ne_up]

/-! ## 3. Names joined onto such a path -/

variable {r : Place}

theorem Begins.join {q : Path} (h : t.Begins directory p start) (hq : q.isAbsolute = false)
    (hnul : q.hasNul = false) (hsize : (p.join q).text.utf8ByteSize < pathLimit) :
    t.Begins directory (p.join q) start := by
  refine ⟨Path.hasNul_join h.hasNul hnul, Path.text_join_ne_empty (.inl h.ne_empty), hsize, ?_⟩
  rw [Path.isAbsolute_join, hq, Bool.or_false]
  exact h.start

/-- A path that is too long is refused. -/
theorem walkFrom_of_long (hnul : p.hasNul = false) (hne : p.text ≠ "")
    (hsize : pathLimit ≤ p.text.utf8ByteSize) (segments : List String) :
    t.walkFrom directory true p segments = .error .nameTooLong := by
  rw [walkFrom, if_neg (by simp [hnul]), if_neg hne, if_pos hsize]

/-- The segments of a joined path, and where those above the last ones lead. -/
theorem Leads.way_join (h : t.Leads directory p place) (hsound : t.Sound) (hmore : more ≠ [])
    (hnames : ∀ n ∈ r ++ more, IsFileName n)
    (hdirectory : t.lookup? (place ++ r) = some .directory) :
    ∃ start before, t.Begins directory p start ∧ t.Way linkLimit start before (place ++ r) ∧
      (p.join (Place.relative (r ++ more))).segments = before ++ more := by
  obtain ⟨start, hbegins, hway⟩ := h.way
  have hne : r ++ more ≠ [] := fun hnil => hmore (List.append_eq_nil_iff.mp hnil).2
  obtain ⟨before, hsegments, hbefore⟩ :=
    Path.segments_join hbegins.ne_empty (Path.isAbsolute_relative hne hnames)
  refine ⟨start, before ++ r, hbegins, ?_, ?_⟩
  · refine (hway.append h.there fun n => hsound.way_of_names hdirectory).congr hdirectory ?_
    rw [List.filterMap_append, List.filterMap_append, hbefore]
    rfl
  · rw [hsegments, Path.segments_relative hne hnames, List.append_assoc]

variable (hnames : ∀ n ∈ r ++ [name], IsFileName n)
include hnames

theorem Leads.blocked_of_long (h : t.Leads directory p place)
    (hsize : pathLimit ≤ (p.join (Place.relative (r ++ [name]))).text.utf8ByteSize) :
    t.Blocked directory (p.join (Place.relative (r ++ [name]))) := by
  obtain ⟨start, hbegins, -⟩ := h.way
  obtain ⟨before, hsegments, -⟩ :=
    Path.segments_join hbegins.ne_empty (Path.isAbsolute_relative (by simp) hnames)
  rw [Path.segments_relative (by simp) hnames, ← List.append_assoc] at hsegments
  have hne : (p.join (Place.relative (r ++ [name]))).text ≠ "" :=
    Path.text_join_ne_empty (.inl hbegins.ne_empty)
  have hlong (segments : List String) : t.walkFrom directory true
      (p.join (Place.relative (r ++ [name]))) segments = .error .nameTooLong :=
    walkFrom_of_long (Path.hasNul_join hbegins.hasNul (Path.hasNul_relative hnames)) hne hsize _
  refine ⟨hne, ⟨_, hlong _⟩, .nameTooLong, ?_, nofun⟩
  rw [slot_eq hsegments nofun (hnames name (by simp)).toIsName, hlong]

variable (hsound : t.Sound)
include hsound

/-- A joined path that is not too long comes to its last name, if its directory is there. -/
theorem Leads.enters (h : t.Leads directory p place)
    (hdirectory : t.lookup? (place ++ r) = some .directory)
    (hsize : (p.join (Place.relative (r ++ [name]))).text.utf8ByteSize < pathLimit) :
    t.Enters directory (p.join (Place.relative (r ++ [name]))) (place ++ r) name := by
  obtain ⟨start, before, hbegins, hway, hsegments⟩ := h.way_join hsound (by simp) hnames hdirectory
  have hjoin := hbegins.join (Path.isAbsolute_relative (by simp) hnames)
    (Path.hasNul_relative hnames) hsize
  exact ⟨⟨start, before, hjoin, hway, hsegments⟩, hdirectory, (hnames name (by simp)).toIsName⟩

theorem Leads.blocked_of_file {data : ByteArray} {executable : Bool}
    (h : t.Leads directory p place)
    (hfile : t.lookup? (place ++ r) = some (.file data executable))
    (hsize : (p.join (Place.relative (r ++ [name]))).text.utf8ByteSize < pathLimit) :
    t.Blocked directory (p.join (Place.relative (r ++ [name]))) := by
  -- The place above the file is a directory, and the walk comes that far.
  rcases List.eq_nil_or_concat r with rfl | ⟨above, other, rfl⟩
  · rw [List.append_nil] at hfile
    cases h.there.symm.trans hfile
  · rw [List.concat_eq_append, List.append_assoc] at *
    rw [← List.append_assoc] at hfile
    obtain ⟨start, before, hbegins, hway, hsegments⟩ :=
      h.way_join hsound (by simp) hnames (hsound.parent hfile)
    have hjoin := hbegins.join (Path.isAbsolute_relative (by simp) hnames)
      (Path.hasNul_relative hnames) hsize
    have hother : IsName other := (hnames other (by simp)).toIsName
    refine ⟨hjoin.ne_empty, ⟨.notADirectory, ?_⟩, .notADirectory, ?_, nofun⟩
    · rw [resolve, hjoin.walkFrom, hsegments]
      exact hway.walk_append (hsound.parent hfile) fun n =>
        walk_past_file hother hfile (by simp)
    · have hupTo : t.walkFrom directory true
          (p.join (Place.relative (above ++ ([other] ++ [name])))) (before ++ [other]) =
            .ok (place ++ above ++ [other]) := by
        rw [hjoin.walkFrom]
        exact hway.walk_append (hsound.parent hfile) fun n =>
          walk_name hother fun target hlink => by cases hlink.symm.trans hfile
      have hlast : (p.join (Place.relative (above ++ ([other] ++ [name])))).segments =
          (before ++ [other]) ++ [name] := by
        rw [hsegments, List.append_assoc]
      rw [slot_eq hlast nofun (hnames name (by simp)).toIsName, hupTo]
      simp only [hfile]

/-- Otherwise it is blocked, as long as nothing but a file is in its directory's place. -/
theorem Leads.enters_or_blocked (h : t.Leads directory p place)
    (he : t.lookup? (place ++ r) = some e) (hplain : ∀ target, e ≠ .link target) :
    t.Enters directory (p.join (Place.relative (r ++ [name]))) (place ++ r) name ∨
      t.Blocked directory (p.join (Place.relative (r ++ [name]))) := by
  by_cases hsize : (p.join (Place.relative (r ++ [name]))).text.utf8ByteSize < pathLimit
  · cases e with
    | directory => exact .inl (h.enters hnames hsound he hsize)
    | link target => exact absurd rfl (hplain target)
    | file data executable => exact .inr (h.blocked_of_file hnames hsound he hsize)
  · exact .inr (h.blocked_of_long hnames (Nat.le_of_not_lt hsize))

omit hnames hsound

/-! ## 4. What is done at a path -/

theorem put_put (t : FileTree) (place : Place) (e e' : Entry) :
    (t.put place e).put place e' = t.put place e' := by
  simp [put]

/-- A path whose last segment is a name does not end with a separator. -/
theorem getLast?_ne_separator (hsegments : p.segments = segments ++ [name]) (hname : IsName name) :
    p.text.toList.getLast? ≠ some Path.separator := by
  intro hlast
  obtain ⟨front, hfront⟩ := List.getLast?_eq_some_iff.mp hlast
  have hp : p = Path.ofChars (front ++ Path.separator :: []) :=
    Path.ext_toList (by rw [hfront, Path.toList_ofChars])
  have hempty : (Path.ofChars []).segments = [""] := by decide
  rw [hp, Path.segments_append, hempty] at hsegments
  obtain ⟨-, hsame⟩ := List.append_inj' hsegments rfl
  exact hname.ne_empty (List.cons.inj hsame).1.symm

/-- A directory is made in the one that the segments above its name lead to. -/
theorem makeDirectory_of_way {after : List String} (hbegins : t.Begins directory p start)
    (hway : t.Way linkLimit start segments parent) (hparent : t.lookup? parent = some .directory)
    (hsegments : p.segments = segments ++ name :: after)
    (hafter : ∀ segment ∈ after, segment = "") (hname : IsName name)
    (habsent : t.lookup? (parent ++ [name]) = none) :
    t.makeDirectory directory p = .ok (t.put (parent ++ [name]) .directory) := by
  rw [makeDirectory, slot_eq hsegments hafter hname, hbegins.walkFrom, hway.walk]
  simp [hparent, hname.not_long, habsent]

namespace Enters

variable (h : t.Enters directory p parent name)
include h

theorem text_ne_empty : p.text ≠ "" := by
  obtain ⟨_, _, hbegins, -⟩ := h.way
  exact hbegins.ne_empty

theorem size : p.text.utf8ByteSize < pathLimit := by
  obtain ⟨_, _, hbegins, -⟩ := h.way
  exact hbegins.size

theorem resolve (hplain : ∀ target, t.lookup? (parent ++ [name]) ≠ some (.link target)) :
    t.resolve directory p = .ok (parent ++ [name]) := by
  obtain ⟨start, before, hbegins, hway, hsegments⟩ := h.way
  rw [FileTree.resolve, hbegins.walkFrom, hsegments]
  exact hway.walk_append h.there fun n => walk_name h.isName hplain

theorem entryAt (he : t.lookup? (parent ++ [name]) = some e) (hplain : ∀ target, e ≠ .link target) :
    t.entryAt directory p = .ok e := by
  have hresolve := h.resolve fun target htarget =>
    hplain target (Option.some.inj (he.symm.trans htarget))
  rw [FileTree.entryAt, hresolve]
  simp only [he]

theorem pathExists_of_absent (habsent : t.lookup? (parent ++ [name]) = none) :
    t.pathExists directory p = false := by
  have hresolve := h.resolve fun target htarget => by cases habsent.symm.trans htarget
  rw [pathExists, FileTree.entryAt, hresolve]
  simp only [habsent]

theorem makeDirectory (habsent : t.lookup? (parent ++ [name]) = none) :
    t.makeDirectory directory p = .ok (t.put (parent ++ [name]) .directory) := by
  obtain ⟨start, before, hbegins, hway, hsegments⟩ := h.way
  exact makeDirectory_of_way hbegins hway h.there hsegments nofun h.isName habsent

theorem makeDirectories (habsent : t.lookup? (parent ++ [name]) = none) (n : Nat) :
    makeDirectoriesUpTo directory n t p = (.ok (), t.put (parent ++ [name]) .directory) := by
  rw [makeDirectoriesUpTo.eq_def]
  simp only [h.text_ne_empty, if_false, h.makeDirectory habsent]

theorem write {data : ByteArray} {executable : Bool}
    (hfile : ∀ e, t.lookup? (parent ++ [name]) = some e → (Entry.file data executable).Becomes e) :
    t.write directory p data (some executable) =
      .ok (t.put (parent ++ [name]) (.file data executable)) := by
  have hresolve := h.resolve fun target htarget => by cases hfile _ htarget
  obtain ⟨_, _, -, -, hsegments⟩ := h.way
  rw [FileTree.write, hresolve]
  cases he : t.lookup? (parent ++ [name]) with
  | none => simp [he, getLast?_ne_separator hsegments h.isName]
  | some e => cases hfile e he <;> simp [he]

end Enters

/-- A file is copied into a directory.  Nothing is read before the copy is there, so a
file is lost that is its own copy. -/
theorem copy_eq {source : Path} {data : ByteArray} {executable : Bool}
    (hresolve : t.resolve directory source = .ok q)
    (hq : t.lookup? q = some (.file data executable)) (h : t.Enters directory p parent name)
    (hfile : ∀ e, t.lookup? (parent ++ [name]) = some e → (Entry.file data executable).Becomes e) :
    t.copy directory source p = .ok (t.put (parent ++ [name])
      (.file (if q = parent ++ [name] then ByteArray.empty else data) executable)) := by
  have hroot := ne_root_of_concat parent name
  let emptied := t.put (parent ++ [name]) (.file ByteArray.empty executable)
  have hkeeps : t.Keeps emptied := keeps_put hroot fun e he => by
    cases hfile e he <;> constructor
  have hput (place : Place) : emptied.lookup? place = if place = parent ++ [name] then
      some (.file ByteArray.empty executable) else t.lookup? place := lookup?_put hroot
  have hsource : t.entryAt directory source = .ok (.file data executable) := by
    rw [FileTree.entryAt, hresolve]
    simp only [hq]
  have hwrite : t.write directory p ByteArray.empty (some executable) = .ok emptied :=
    h.write fun e he => by cases hfile e he <;> constructor
  have hread : emptied.read directory source =
      .ok (if q = parent ++ [name] then ByteArray.empty else data) := by
    obtain ⟨start, hbegins, hwalk⟩ := walkFrom_eq_ok_iff.mp hresolve
    have hway := (way_of_walk hwalk hq).keeps hkeeps
    have hthere : emptied.lookup? q = some (.file
        (if q = parent ++ [name] then ByteArray.empty else data) executable) := by
      rw [hput]
      split
      · rfl
      · exact hq
    have hentry := entryAt_eq_ok_iff.mpr ⟨start, q, hbegins.keeps hkeeps, hway, hthere⟩
    rw [FileTree.read, hentry]
  have hagain (data' : ByteArray) : emptied.write directory p data' (some executable) =
      .ok (t.put (parent ++ [name]) (.file data' executable)) := by
    rw [(h.keeps hkeeps).write, put_put]
    intro e he
    rw [hput, if_pos rfl] at he
    cases he
    exact .file
  rw [copy, hsource]
  simp only [hwrite, hread, hagain]

namespace Blocked

variable (h : t.Blocked directory p)
include h

theorem entryAt : ∃ e, t.entryAt directory p = .error e := by
  obtain ⟨e, he⟩ := h.resolve
  exact ⟨e, by rw [FileTree.entryAt, he]⟩

theorem makeDirectories (n : Nat) : ∃ e, makeDirectoriesUpTo directory n t p = (.error e, t) := by
  obtain ⟨e, hslot, hne⟩ := h.slot
  obtain ⟨e', hentry⟩ := h.entryAt
  have hmake : t.makeDirectory directory p = .error e := by
    rw [FileTree.makeDirectory, hslot]
  refine ⟨e, ?_⟩
  rw [makeDirectoriesUpTo.eq_def]
  simp [h.ne_empty, hmake, hne, isDirectory, hentry]

theorem write (data : ByteArray) (executable : Option Bool) :
    ∃ e, t.write directory p data executable = .error e := by
  obtain ⟨e, he⟩ := h.resolve
  exact ⟨e, by rw [FileTree.write, he]⟩

theorem copy (source : Path) : ∃ e, t.copy directory source p = .error e := by
  rw [FileTree.copy]
  split
  · exact ⟨_, rfl⟩
  · rename_i executable _
    obtain ⟨e, hwrite⟩ := h.write ByteArray.empty (some executable)
    exact ⟨e, by rw [hwrite]⟩
  · exact ⟨_, rfl⟩

end Blocked

end FileTree

end CrossBuild
