import CrossBuild.Proofs.Staging.Entry

/-!
# How staging gets on

The entries that have been visited have an image at the destination, and nothing else
has changed (`Staging.Progress`).  What is below the destination may be below the
fixture as well.  The walk goes on as it would elsewhere, as long as what it makes
is not new in the part of the fixture that is staged (`Staging.isWalk`).

If there is room for all entries, none of them fails (`Staging.stage_ok`).
-/
namespace CrossBuild

namespace Staging

open FileTree (pathLimit)
open Machine (Achieves achieves_of_ok achieves_of_error)

variable {m m' m₀ : Machine} {source target : Path} {fixture destination r x : Place}
variable {name : String} {isDirectory : Bool} {e : Entry} {mayFail : Prop}

/-! ## 1. The entries so far -/

/-- What has been staged: of every entry that has been visited there is an image, and
nothing else has changed. -/
structure Progress (m₀ : Machine) (source target : Path) (fixture destination : Place)
    (image : Place → Option Entry → Prop) (done : List (Place × Bool)) (m : Machine) : Prop where
  site : Site m source target fixture destination
  keeps : m₀.files.Keeps m.files
  staged : ∀ x isDirectory, (x, isDirectory) ∈ done →
    IsStaged m₀.files fixture x isDirectory
  image : ∀ x isDirectory, (x, isDirectory) ∈ done →
    image x (m.files.lookup? (destination ++ x))
  rest : ∀ q, (∀ x isDirectory, (x, isDirectory) ∈ done → q ≠ destination ++ x) →
    m.files.lookup? q = m₀.files.lookup? q

variable {image : Place → Option Entry → Prop} {done : List (Place × Bool)}

theorem Site.progress (h : Site m source target fixture destination) :
    Progress m source target fixture destination image [] m where
  site := h
  keeps := .refl m.files
  staged _ _ hx := nomatch hx
  image _ _ hx := nomatch hx
  rest _ _ := rfl

/-- Nothing is staged as a new entry of the fixture that would be staged as well. -/
def Closed (t : FileTree) (fixture destination : Place) : Prop :=
  ∀ x isDirectory r, IsStaged t fixture x isDirectory → destination ++ x = fixture ++ r →
    IsAdmitted r → (t.lookup? (fixture ++ r)).isSome = true

namespace Progress

variable (h : Progress m₀ source target fixture destination image done m)
include h

/-- One more entry has been visited. -/
theorem visit (hsite : Site m' source target fixture destination)
    (hchanges : Changes m (destination ++ x) m')
    (hstaged : IsStaged m₀.files fixture x isDirectory)
    (himage : image x (m'.files.lookup? (destination ++ x))) :
    Progress m₀ source target fixture destination image (done ++ [(x, isDirectory)]) m' where
  site := hsite
  keeps := h.keeps.trans hchanges.keeps
  staged y b hy := by
    rcases List.mem_append.mp hy with hy | hy
    · exact h.staged y b hy
    · cases List.mem_singleton.mp hy
      exact hstaged
  image y b hy := by
    by_cases hsame : y = x
    · exact hsame ▸ himage
    · rcases List.mem_append.mp hy with hy | hy
      · rw [hchanges.rest _ fun heq => hsame (List.append_cancel_left heq)]
        exact h.image y b hy
      · cases List.mem_singleton.mp hy
        exact absurd rfl hsame
  rest q hq := by
    rw [hchanges.rest q (hq x isDirectory (by simp))]
    exact h.rest q fun y b hy => hq y b (List.mem_append_left _ hy)

/-- An entry of the destination is an image, or it is as it was. -/
theorem image_or_same (x : Place) : image x (m.files.lookup? (destination ++ x)) ∨
    m.files.lookup? (destination ++ x) = m₀.files.lookup? (destination ++ x) := by
  by_cases hx : ∃ isDirectory, (x, isDirectory) ∈ done
  · obtain ⟨isDirectory, hx⟩ := hx
    exact .inl (h.image x isDirectory hx)
  · refine .inr (h.rest _ fun y isDirectory hy hsame => hx ⟨isDirectory, ?_⟩)
    exact List.append_cancel_left hsame ▸ hy

/-! ## 2. What the walk finds -/

/-- In the part of the fixture that is staged there are directories where there were, and
nothing new. -/
theorem isDirectory_same (hclosed : Closed m₀.files fixture destination) (hr : IsAdmitted r) :
    (m.files.lookup? (fixture ++ r)).map Entry.isDirectory =
      (m₀.files.lookup? (fixture ++ r)).map Entry.isDirectory := by
  -- An entry may only become one of its kind, and what would be new is ruled out.
  cases he : m₀.files.lookup? (fixture ++ r) with
  | some e =>
    obtain ⟨e', he', hbecomes⟩ := h.keeps _ _ he
    rw [he']
    cases hbecomes <;> rfl
  | none =>
    rw [h.rest _ fun x isDirectory hx hsame => ?_, he]
    have hthere := hclosed x isDirectory r (h.staged x isDirectory hx) hsame.symm hr
    rw [he] at hthere
    cases hthere

/-- The path of a directory that the walk comes to leads to it, if it is not too long. -/
theorem resolve_reached (hr : Reaches m₀.files fixture done r)
    (hsize : IsStaged m₀.files fixture r true →
      mayFail ∨ (sourcePath source r).text.utf8ByteSize < pathLimit) :
    m.files.resolve m.directory (sourcePath source r) = .ok (fixture ++ r) ∨
      (∃ e, m.files.resolve m.directory (sourcePath source r) = .error e) ∧ mayFail := by
  rcases hr with rfl | ⟨hstaged, -⟩
  · rw [List.append_nil]
    exact .inl (FileTree.leads_iff.mp h.site.source).1
  · obtain ⟨e, he, -⟩ := hstaged.there
    obtain ⟨e', he', -⟩ := h.keeps _ _ he
    have hlimit := hsize hstaged
    rcases List.eq_nil_or_concat r with rfl | ⟨above, name, rfl⟩
    · exact absurd rfl hstaged.ne_root
    · rw [List.concat_eq_append] at *
      rw [← List.append_assoc] at he' ⊢
      by_cases hshort : (sourcePath source (above ++ [name])).text.utf8ByteSize < pathLimit
      · exact .inl (h.site.resolve_sourcePath he' hshort)
      · exact .inr ⟨(h.site.blocked_sourcePath he' hshort).resolve, hlimit.resolve_right hshort⟩

/-- A directory that is opened lists what is to be staged of it. -/
theorem lists (hclosed : Closed m₀.files fixture destination) (hr : IsAdmitted r) :
    Lists m₀.files fixture r
      (((m.files.children (fixture ++ r)).filter fun name => !isExcluded name).map fun name =>
        (name, m.files.lookup? (fixture ++ r ++ [name]) == some .directory)) where
  nodup := by
    rw [List.map_map]
    have hsame : (Prod.fst ∘ fun name => (name, m.files.lookup? (fixture ++ r ++ [name]) ==
        some .directory)) = id := rfl
    rw [hsame, List.map_id]
    exact (h.site.sound.nodup_children _).sublist List.filter_sublist
  mem_iff name isDirectory := by
    rw [isStaged_concat_iff hr]
    simp only [List.mem_map, List.mem_filter, FileTree.mem_children_iff, Prod.mk.injEq,
      Bool.not_eq_true']
    constructor
    · rintro ⟨_, ⟨hthere, hname⟩, rfl, hdirectory⟩
      refine ⟨hname, ?_⟩
      rw [← h.isDirectory_same hclosed (hr.concat hname), ← List.append_assoc]
      exact map_isDirectory_eq_some_iff.mpr ⟨hthere, hdirectory⟩
    · rintro ⟨hname, hdirectory⟩
      rw [← h.isDirectory_same hclosed (hr.concat hname), ← List.append_assoc] at hdirectory
      obtain ⟨hthere, hdirectory⟩ := map_isDirectory_eq_some_iff.mp hdirectory
      exact ⟨name, ⟨hthere, hname⟩, rfl, hdirectory⟩

theorem achieves_openDirectory (hclosed : Closed m₀.files fixture destination)
    (hr : Reaches m₀.files fixture done r)
    (hsize : IsStaged m₀.files fixture r true →
      mayFail ∨ (sourcePath source r).text.utf8ByteSize < pathLimit) :
    m.Achieves mayFail (openDirectory source r) fun entries m' =>
      m' = m ∧ Lists m₀.files fixture r entries := by
  have hadmitted : IsAdmitted r := by
    rcases hr with rfl | ⟨hstaged, -⟩
    · exact fun n hn => absurd hn List.not_mem_nil
    · exact hstaged.admitted
  rw [openDirectory, Achieves, Machine.perform_bind, Machine.perform_get]
  rcases h.resolve_reached hr hsize with hresolve | ⟨⟨e, hresolve⟩, hfail⟩
  · simp only [hresolve]
    exact ⟨rfl, h.lists hclosed hadmitted⟩
  · simp only [hresolve]
    exact hfail

/-- An entry is staged in the image of its directory. -/
theorem achieves_copyEntry
    (hsome : ∀ {x isDirectory o}, IsStaged m₀.files fixture x isDirectory → image x o →
      o.isSome = true)
    (hr : Reaches m₀.files fixture done r)
    (hstaged : IsStaged m₀.files fixture (r ++ [name]) isDirectory)
    (hfits : mayFail ∨ Fits m source target destination r name isDirectory) :
    m.Achieves mayFail (copyEntry source target (r ++ [name]) isDirectory) fun count m' =>
      count = fileCount [(r ++ [name], isDirectory)] ∧
        m.files.Enters m.directory (targetPath target (r ++ [name])) (destination ++ r) name ∧
          Stages m fixture destination r name isDirectory m' := by
  obtain ⟨e₀, he₀, rfl⟩ := hstaged.there
  obtain ⟨e, he, hbecomes⟩ := h.keeps _ _ he₀
  have hsame : e₀.isDirectory = e.isDirectory := by cases hbecomes <;> rfl
  have hthere : (m.files.lookup? (destination ++ r)).isSome = true := by
    rcases hr with rfl | ⟨hreached, hmem⟩
    · rw [List.append_nil, h.site.target.there]
      rfl
    · exact hsome hreached (h.image r true hmem)
  rw [hsame] at hfits ⊢
  rw [← List.append_assoc] at he
  exact h.site.achieves_copyEntry he hthere hfits

end Progress

/-- The walk through a fixture goes on as it would if the destination were elsewhere. -/
theorem isWalk (image : Place → Option Entry → Prop)
    (site : Site m₀ source target fixture destination)
    (hclosed : Closed m₀.files fixture destination)
    (hsize : ∀ {r}, IsStaged m₀.files fixture r true →
      mayFail ∨ (sourcePath source r).text.utf8ByteSize < pathLimit)
    (hsome : ∀ {x isDirectory o}, IsStaged m₀.files fixture x isDirectory → image x o →
      o.isSome = true)
    (hfits : ∀ {done m r name isDirectory},
      Progress m₀ source target fixture destination image done m →
      Reaches m₀.files fixture done r → IsStaged m₀.files fixture (r ++ [name]) isDirectory →
      mayFail ∨ Fits m source target destination r name isDirectory)
    (himage : ∀ {done m x isDirectory o},
      Progress m₀ source target fixture destination image done m →
      IsStaged m₀.files fixture x isDirectory →
      (targetPath target x).text.utf8ByteSize < pathLimit →
      Lands m fixture destination x isDirectory o → image x o) :
    IsWalk mayFail source target m₀.files fixture
      (Progress m₀ source target fixture destination image) where
  sound := site.sound
  opens h hr := h.achieves_openDirectory hclosed hr hsize
  copies := by
    intro done m r name isDirectory h hr hstaged
    refine (h.achieves_copyEntry hsome hr hstaged (hfits h hr hstaged)).mono ?_
    rintro count m' ⟨hcount, henters, hstages⟩
    have hname := hstaged.isFileName site.sound name (by simp)
    obtain ⟨hsite, hchanges⟩ := h.site.stages hname hstages
    have hlands := himage h hstaged henters.size hstages.lands
    exact ⟨hcount, h.visit hsite hchanges hstaged hlands⟩
  shallow := by
    intro r hstaged hdepth
    refine (hsize hstaged).resolve_right fun hlimit => ?_
    have hlength := source.length_le_size_joinAll (hstaged.isFileName site.sound)
    rw [sourcePath] at hlimit
    omega

/-! ## 3. Enough room -/

/-- No file is in the place of a directory of a fixture, and no directory in that of a file. -/
structure IsCompatible (t : FileTree) (fixture destination : Place) : Prop where
  directory : ∀ {x : Place} {data : ByteArray} {executable : Bool},
    IsStaged t fixture x true → t.lookup? (destination ++ x) ≠ some (.file data executable)
  file : ∀ {x : Place}, IsStaged t fixture x false →
    t.lookup? (destination ++ x) ≠ some .directory

theorem isCompatible_of_entries {t : FileTree} (h : ∀ y ∈ t.entries, fixture <+: y.1 →
      ∀ e ∈ t.lookup? (destination ++ y.1.drop fixture.length), e.isDirectory = y.2.isDirectory) :
    IsCompatible t fixture destination := by
  have hkind {x : Place} {isDirectory : Bool} {e : Entry}
      (hstaged : IsStaged t fixture x isDirectory)
      (he : t.lookup? (destination ++ x) = some e) : e.isDirectory = isDirectory :=
    forall_isStaged (P := fun x b => ∀ e ∈ t.lookup? (destination ++ x), e.isDirectory = b)
      h hstaged e he
  exact ⟨fun hstaged hfile => (nomatch hkind hstaged hfile),
    fun hstaged hdirectory => (nomatch hkind hstaged hdirectory)⟩

/-- There is room for a fixture at a destination: nothing is in the way, and no path is too
long. -/
structure HasRoom (m : Machine) (source target : Path) (fixture destination : Place) : Prop
    extends IsCompatible m.files fixture destination where
  source_size : ∀ {x : Place} {isDirectory : Bool}, IsStaged m.files fixture x isDirectory →
    (sourcePath source x).text.utf8ByteSize < pathLimit
  target_size : ∀ {x : Place} {isDirectory : Bool}, IsStaged m.files fixture x isDirectory →
    (targetPath target x).text.utf8ByteSize < pathLimit

/-- As long as images are directories where the fixture has directories, nothing is in the
way. -/
theorem Progress.fits (h : Progress m₀ source target fixture destination image done m)
    (hroom : HasRoom m₀ source target fixture destination)
    (hkind : ∀ {x o}, image x o →
      o.map Entry.isDirectory = (m₀.files.lookup? (fixture ++ x)).map Entry.isDirectory)
    (hr : Reaches m₀.files fixture done r)
    (hstaged : IsStaged m₀.files fixture (r ++ [name]) isDirectory) :
    Fits m source target destination r name isDirectory where
  above := by
    rcases hr with rfl | ⟨hreached, hmem⟩
    · rw [List.append_nil, h.site.target.there]
    · have hsame := hkind (h.image r true hmem)
      rw [hreached.directory] at hsame
      exact eq_of_beq (map_isDirectory_eq_some_iff.mp hsame).2
  source_size := hroom.source_size hstaged
  target_size := hroom.target_size hstaged
  free := by
    rintro rfl hdirectory
    rw [List.append_assoc] at hdirectory
    rcases h.image_or_same (r ++ [name]) with himage | hsame
    · obtain ⟨e, he, hfile⟩ := hstaged.there
      have hkinds := hkind himage
      rw [he, Option.map_some, hfile, hdirectory] at hkinds
      cases hkinds
    · exact hroom.file hstaged (hsame.symm.trans hdirectory)

/-- **Where there is room, staging succeeds.**  Everything that is to be staged has an image
in the end, as long as staging an entry makes one of it. -/
theorem stage_ok (image : Place → Option Entry → Prop)
    (site : Site m₀ source target fixture destination)
    (hensure : m.perform (ensureDirectory target) = (.ok (), m₀))
    (hclosed : Closed m₀.files fixture destination)
    (hroom : HasRoom m₀ source target fixture destination)
    (hkind : ∀ {x o}, image x o →
      o.map Entry.isDirectory = (m₀.files.lookup? (fixture ++ x)).map Entry.isDirectory)
    (himage : ∀ {done m x isDirectory o},
      Progress m₀ source target fixture destination image done m →
      IsStaged m₀.files fixture x isDirectory →
      (targetPath target x).text.utf8ByteSize < pathLimit →
      Lands m fixture destination x isDirectory o → image x o) :
    ∃ visited m₁, m.perform (stage source target) =
        (.ok (fileCount visited), m₁.logged [.staged (fileCount visited) source target]) ∧
      Visits m₀.files fixture (fun _ => True) visited ∧
      Progress m₀ source target fixture destination image visited m₁ := by
  have hwalk : IsWalk False source target m₀.files fixture
      (Progress m₀ source target fixture destination image) := by
    refine isWalk image site hclosed (fun hstaged => .inr (hroom.source_size hstaged)) ?_
      (fun h hr hstaged => .inr (h.fits hroom hkind hr hstaged)) himage
    intro x isDirectory o hstaged ho
    obtain ⟨e, he, -⟩ := hstaged.there
    have hsame := hkind ho
    rw [he] at hsame
    cases o with
    | none => cases hsame
    | some => rfl
  obtain ⟨count, m', hperform, m₁, ⟨visited, hvisited, hprogress, rfl⟩, rfl⟩ :=
    (hwalk.achieves_stage hensure site.source site.progress).ok_of_not id
  exact ⟨visited, m₁, hperform, hvisited, hprogress⟩

/-- A directory comes to stand where the fixture has one, and a file where it has a file. -/
theorem Lands.map_isDirectory {o : Option Entry}
    (h : Progress m₀ source target fixture destination (fun x o =>
      o.map Entry.isDirectory = (m₀.files.lookup? (fixture ++ x)).map Entry.isDirectory) done m)
    (hcompatible : IsCompatible m₀.files fixture destination)
    (hstaged : IsStaged m₀.files fixture x isDirectory)
    (hlands : Lands m fixture destination x isDirectory o) :
    o.map Entry.isDirectory = (m₀.files.lookup? (fixture ++ x)).map Entry.isDirectory := by
  cases hlands with
  | @found old there =>
    rcases h.image_or_same x with himage | hsame
    · rwa [there] at himage
    · rw [hstaged.directory]
      cases old with
      | directory => rfl
      | file => exact absurd (hsame.symm.trans there) (hcompatible.directory hstaged)
      | link text => exact absurd there (h.site.plainDestination _ text)
  | made => rw [hstaged.directory]
  | copied =>
    obtain ⟨e, he, hfile⟩ := hstaged.there
    rw [he]
    exact congrArg some hfile.symm

theorem stage_succeeds (site : Site m source target fixture destination)
    (hclosed : Closed m.files fixture destination)
    (hroom : HasRoom m source target fixture destination) :
    ∃ count m', m.perform (stage source target) = (.ok count, m') := by
  obtain ⟨visited, m₁, hperform, -⟩ := stage_ok _ site
    (Machine.perform_ensureDirectory_of_leads site.target) hclosed hroom id
    fun h hstaged _ hlands => hlands.map_isDirectory h hroom.toIsCompatible hstaged
  exact ⟨_, _, hperform⟩

/-- Staging does not succeed if a path of what is staged is too long. -/
theorem target_size_of_stage {count : Nat} (site : Site m source target fixture destination)
    (hclosed : Closed m.files fixture destination)
    (hstage : m.perform (stage source target) = (.ok count, m'))
    (hstaged : IsStaged m.files fixture x isDirectory) :
    (targetPath target x).text.utf8ByteSize < pathLimit := by
  have hwalk : IsWalk True source target m.files fixture (Progress m source target fixture
      destination fun x o => o.isSome = true ∧
        (targetPath target x).text.utf8ByteSize < pathLimit) := by
    refine isWalk _ site hclosed (fun _ => .inl trivial) (fun _ ho => ho.1)
      (fun _ _ _ => .inl trivial) fun _ _ hsize hlands => ⟨?_, hsize⟩
    cases hlands <;> rfl
  have hensure := Machine.perform_ensureDirectory_of_leads site.target
  obtain ⟨m₁, ⟨visited, hvisited, hprogress, -⟩, -⟩ :=
    (hwalk.achieves_stage hensure site.source site.progress).of_ok hstage
  exact (hprogress.image x isDirectory ((hvisited.mem_iff _ _).mpr ⟨trivial, hstaged⟩)).2

end Staging

end CrossBuild
