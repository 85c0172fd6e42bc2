import CrossBuild.Proofs.Files.Joined
import CrossBuild.Staging

/-!
# The walk through a fixture

The walk opens a directory when it comes to it, so what it finds there may be
what it has put there itself.  As long as that does not happen, it visits each
entry that is to be staged once, and every directory before what is below it:
whatever every step of the walk preserves, with the entries visited so far, holds
at the end with all of them (`IsWalk.achieves_copyBelow`).

Whether a step may fail is left open.  With `mayFail` for `False` the rule says that
the walk succeeds, and with `True` what holds if it does.
-/
namespace CrossBuild

namespace Machine

/-! ## 1. What an operation achieves -/

/-- An operation ends with a value and a machine for which a condition holds, or else it
fails and may do so. -/
def Achieves {ε α : Type} (m : Machine) (mayFail : Prop) (t : ExceptT ε MachineM α)
    (post : α → Machine → Prop) : Prop :=
  match m.perform t with
  | (.ok a, m') => post a m'
  | (.error _, _) => mayFail

variable {ε α β : Type} {m m' : Machine} {mayFail : Prop} {t : ExceptT ε MachineM α}
variable {post : α → Machine → Prop}

theorem achieves_of_ok {a : α} (h : m.perform t = (.ok a, m')) (hpost : post a m') :
    m.Achieves mayFail t post := by
  rw [Achieves, h]
  exact hpost

theorem achieves_of_error {e : ε} (h : m.perform t = (.error e, m')) (hfail : mayFail) :
    m.Achieves mayFail t post := by
  rw [Achieves, h]
  exact hfail

theorem Achieves.bind {f : α → ExceptT ε MachineM β} {post' : β → Machine → Prop}
    (h : m.Achieves mayFail t post)
    (hf : ∀ a m', post a m' → m'.Achieves mayFail (f a) post') :
    m.Achieves mayFail (t >>= f) post' := by
  rw [Achieves] at h ⊢
  rw [perform_bind]
  rcases hperform : m.perform t with ⟨r, m'⟩
  rw [hperform] at h
  cases r with
  | error e => exact h
  | ok a => exact hf a m' h

theorem Achieves.mono {post' : α → Machine → Prop} (h : m.Achieves mayFail t post)
    (hpost : ∀ a m', post a m' → post' a m') : m.Achieves mayFail t post' := by
  rw [Achieves] at h ⊢
  rcases hperform : m.perform t with ⟨r, m'⟩
  rw [hperform] at h
  cases r with
  | error e => exact h
  | ok a => exact hpost a m' h

theorem Achieves.ok_of_not (h : m.Achieves mayFail t post) (hfail : ¬mayFail) :
    ∃ a m', m.perform t = (.ok a, m') ∧ post a m' := by
  rw [Achieves] at h
  rcases hperform : m.perform t with ⟨r, m'⟩
  rw [hperform] at h
  cases r with
  | error e => exact absurd h hfail
  | ok a => exact ⟨a, m', rfl, h⟩

theorem Achieves.of_ok (h : m.Achieves mayFail t post) {a : α}
    (hperform : m.perform t = (.ok a, m')) : post a m' := by
  rw [Achieves, hperform] at h
  exact h

end Machine

namespace Staging

open Machine (Achieves achieves_of_ok achieves_of_error)

/-! ## 2. What is to be staged -/

/-- An entry is staged, at a place below the fixture's: neither it nor a directory above it
stays behind. -/
def IsAdmitted (r : Place) : Prop :=
  ∀ name ∈ r, isExcluded name = false

instance (r : Place) : Decidable (IsAdmitted r) :=
  inferInstanceAs (Decidable (∀ name ∈ r, isExcluded name = false))

theorem IsAdmitted.concat {r : Place} {name : String} (h : IsAdmitted r)
    (hname : isExcluded name = false) : IsAdmitted (r ++ [name]) :=
  fun n hn => (List.mem_append.mp hn).elim (h n) fun hn => List.mem_singleton.mp hn ▸ hname

/-- There is an entry below a fixture that is staged, and it is a directory or not. -/
structure IsStaged (t : FileTree) (fixture r : Place) (isDirectory : Bool) : Prop where
  ne_root : r ≠ []
  admitted : IsAdmitted r
  there : ∃ e, t.lookup? (fixture ++ r) = some e ∧ e.isDirectory = isDirectory

variable {t : FileTree} {fixture r x : Place} {isDirectory other : Bool} {name : String}

theorem IsStaged.unique (h : IsStaged t fixture r isDirectory) (h' : IsStaged t fixture r other) :
    other = isDirectory := by
  obtain ⟨e, he, rfl⟩ := h.there
  obtain ⟨e', he', rfl⟩ := h'.there
  cases he.symm.trans he'
  rfl

theorem map_isDirectory_eq_some_iff {o : Option Entry} :
    o.map Entry.isDirectory = some isDirectory ↔
      o.isSome = true ∧ (o == some .directory) = isDirectory := by
  cases o with
  | none => simp
  | some e => cases e <;> cases isDirectory <;> simp [Entry.isDirectory]

/-- What is staged of a directory that is, by the names in it. -/
theorem isStaged_concat_iff (hr : IsAdmitted r) : IsStaged t fixture (r ++ [name]) isDirectory ↔
    isExcluded name = false ∧
      (t.lookup? (fixture ++ (r ++ [name]))).map Entry.isDirectory = some isDirectory := by
  rw [Option.map_eq_some_iff]
  constructor
  · intro h
    exact ⟨h.admitted name (by simp), h.there⟩
  · rintro ⟨hname, hthere⟩
    exact ⟨by simp, hr.concat hname, hthere⟩

theorem IsStaged.directory (h : IsStaged t fixture r true) :
    t.lookup? (fixture ++ r) = some .directory := by
  obtain ⟨e, he, hdirectory⟩ := h.there
  cases e with
  | directory => exact he
  | file => cases hdirectory
  | link => cases hdirectory

/-- What is staged is in directories that are. -/
theorem IsStaged.above (h : IsStaged t fixture (r ++ x) isDirectory) (hsound : t.Sound)
    (hr : r ≠ []) (hx : x ≠ []) : IsStaged t fixture r true := by
  obtain ⟨e, he, -⟩ := h.there
  rw [← List.append_assoc] at he
  exact ⟨hr, fun n hn => h.admitted n (List.mem_append_left x hn),
    .directory, hsound.directory_of_below hx he, rfl⟩

theorem IsStaged.isFileName (h : IsStaged t fixture r isDirectory) (hsound : t.Sound) :
    ∀ n ∈ r, FileTree.IsFileName n := by
  obtain ⟨e, he, -⟩ := h.there
  exact hsound.isFileName_of_below he

/-- What is staged is listed in the tree. -/
theorem forall_isStaged {P : Place → Bool → Prop} (h : ∀ y ∈ t.entries, fixture <+: y.1 →
      P (y.1.drop fixture.length) y.2.isDirectory)
    (hstaged : IsStaged t fixture r isDirectory) : P r isDirectory := by
  obtain ⟨e, he, rfl⟩ := hstaged.there
  have hroot : fixture ++ r ≠ [] := fun hnil =>
    hstaged.ne_root (List.append_eq_nil_iff.mp hnil).2
  have hlisted := h _ (FileTree.mem_entries_of_lookup? hroot he) (List.prefix_append fixture r)
  rwa [List.drop_left] at hlisted

/-- A list of entries of a fixture, each with whether it is a directory: those in a region
that are staged, each of them once. -/
structure Visits (t : FileTree) (fixture : Place) (region : Place → Prop)
    (visited : List (Place × Bool)) : Prop where
  nodup : (visited.map Prod.fst).Nodup
  mem_iff : ∀ x isDirectory, (x, isDirectory) ∈ visited ↔
    region x ∧ IsStaged t fixture x isDirectory

namespace Visits

variable {region region' : Place → Prop} {visited visited' : List (Place × Bool)}

theorem nil (h : ∀ x, ¬region x) : Visits t fixture region [] where
  nodup := List.nodup_nil
  mem_iff x isDirectory := by simp [h x]

theorem single (h : IsStaged t fixture x isDirectory) :
    Visits t fixture (fun y => y = x) [(x, isDirectory)] where
  nodup := by simp
  mem_iff y b := by
    rw [List.mem_singleton, Prod.mk.injEq]
    constructor
    · rintro ⟨rfl, rfl⟩
      exact ⟨rfl, h⟩
    · rintro ⟨rfl, hb⟩
      exact ⟨rfl, h.unique hb⟩

theorem append (h : Visits t fixture region visited) (h' : Visits t fixture region' visited')
    (happart : ∀ x, region x → ¬region' x) :
    Visits t fixture (fun x => region x ∨ region' x) (visited ++ visited') where
  nodup := by
    rw [List.map_append, List.nodup_append]
    refine ⟨h.nodup, h'.nodup, fun x hx y hy heq => ?_⟩
    obtain ⟨e, he, rfl⟩ := List.mem_map.mp hx
    obtain ⟨e', he', rfl⟩ := List.mem_map.mp hy
    have hregion' := ((h'.mem_iff e'.1 e'.2).mp he').1
    rw [← heq] at hregion'
    exact happart e.1 ((h.mem_iff e.1 e.2).mp he).1 hregion'
  mem_iff x b := by
    rw [List.mem_append, h.mem_iff, h'.mem_iff, or_and_right]

theorem congr (h : Visits t fixture region visited)
    (hsame : ∀ x b, IsStaged t fixture x b → (region x ↔ region' x)) :
    Visits t fixture region' visited where
  nodup := h.nodup
  mem_iff x b := by
    rw [h.mem_iff]
    exact and_congr_left (hsame x b)

/-- Nothing is below a file. -/
theorem file (hsound : t.Sound) (h : IsStaged t fixture x false) :
    Visits t fixture (x <+: ·) [(x, false)] := by
  refine (single h).congr fun y b hy => ?_
  constructor
  · rintro rfl
    exact List.prefix_rfl
  · rintro ⟨rest, rfl⟩
    by_cases hrest : rest = []
    · rw [hrest, List.append_nil]
    · cases h.unique (hy.above hsound h.ne_root hrest)

/-- A directory is visited before what is below it. -/
theorem directory (h : IsStaged t fixture x true)
    (hbelow : Visits t fixture (fun y => ∃ rest, rest ≠ [] ∧ y = x ++ rest) visited) :
    Visits t fixture (x <+: ·) ([(x, true)] ++ visited) := by
  refine ((single h).append hbelow ?_).congr fun y b _ => ?_
  · rintro y rfl ⟨rest, hrest, hy⟩
    exact hrest (List.self_eq_append_right.mp hy)
  · constructor
    · rintro (rfl | ⟨rest, -, rfl⟩)
      · exact List.prefix_rfl
      · exact List.prefix_append _ _
    · rintro ⟨rest, rfl⟩
      by_cases hrest : rest = []
      · exact .inl (by rw [hrest, List.append_nil])
      · exact .inr ⟨rest, hrest, rfl⟩

end Visits

/-- How many entries of a list are files. -/
def fileCount (visited : List (Place × Bool)) : Nat :=
  visited.countP fun x => !x.2

/-! ## 3. Walks with an invariant -/

/-- The walk comes to a directory of the fixture: to the root, or to one that it has
visited. -/
def Reaches (t : FileTree) (fixture : Place) (done : List (Place × Bool)) (r : Place) : Prop :=
  r = [] ∨ IsStaged t fixture r true ∧ (r, true) ∈ done

/-- The names in a directory of the fixture that are staged, each of them once. -/
structure Lists (t : FileTree) (fixture r : Place) (entries : List (String × Bool)) : Prop where
  nodup : (entries.map Prod.fst).Nodup
  mem_iff : ∀ name isDirectory, (name, isDirectory) ∈ entries ↔
    IsStaged t fixture (r ++ [name]) isDirectory

/-- What is staged below a directory begins with one of its names. -/
theorem Lists.exists_prefix_iff {entries : List (String × Bool)} (h : Lists t fixture r entries)
    (hsound : t.Sound) (hx : IsStaged t fixture x isDirectory) :
    (∃ e ∈ entries, r ++ [e.1] <+: x) ↔ ∃ rest, rest ≠ [] ∧ x = r ++ rest := by
  constructor
  · rintro ⟨e, -, rest, rfl⟩
    exact ⟨e.1 :: rest, by simp, (List.append_cons ..).symm⟩
  · rintro ⟨rest, hrest, rfl⟩
    obtain ⟨name, rest, rfl⟩ := List.exists_cons_of_ne_nil hrest
    rw [List.append_cons] at hx ⊢
    have hfirst : ∃ b, IsStaged t fixture (r ++ [name]) b := by
      by_cases hrest : rest = []
      · rw [hrest, List.append_nil] at hx
        exact ⟨isDirectory, hx⟩
      · exact ⟨true, hx.above hsound (by simp) hrest⟩
    obtain ⟨b, hname⟩ := hfirst
    exact ⟨(name, b), (h.mem_iff name b).mpr hname, List.prefix_append _ _⟩

/-- What has to hold of a walk that preserves an invariant; `t` is the tree that the fixture
is taken from, and the invariant is told which entries have been visited. -/
structure IsWalk (mayFail : Prop) (source target : Path) (t : FileTree) (fixture : Place)
    (inv : List (Place × Bool) → Machine → Prop) : Prop where
  sound : t.Sound
  /-- A directory that is opened lists what it listed in the first place. -/
  opens : ∀ {done : List (Place × Bool)} {m : Machine} {r : Place}, inv done m →
    Reaches t fixture done r → m.Achieves mayFail (openDirectory source r) fun entries m' =>
      m' = m ∧ Lists t fixture r entries
  /-- Staging an entry preserves the invariant. -/
  copies : ∀ {done : List (Place × Bool)} {m : Machine} {r : Place} {name : String}
    {isDirectory : Bool}, inv done m → Reaches t fixture done r →
    IsStaged t fixture (r ++ [name]) isDirectory →
    m.Achieves mayFail (copyEntry source target (r ++ [name]) isDirectory) fun count m' =>
      count = fileCount [(r ++ [name], isDirectory)] ∧
        inv (done ++ [(r ++ [name], isDirectory)]) m'
  /-- The walk ends before it is too deep. -/
  shallow : ∀ {r : Place}, IsStaged t fixture r true → FileTree.pathLimit ≤ r.length → mayFail

theorem fileCount_append (visited visited' : List (Place × Bool)) :
    fileCount (visited ++ visited') = fileCount visited + fileCount visited' :=
  List.countP_append

theorem Reaches.append {done : List (Place × Bool)} (h : Reaches t fixture done r)
    (more : List (Place × Bool)) : Reaches t fixture (done ++ more) r :=
  h.imp_right fun h => ⟨h.1, List.mem_append_left more h.2⟩

namespace IsWalk

variable {mayFail : Prop} {source target : Path} {inv : List (Place × Bool) → Machine → Prop}
variable {done : List (Place × Bool)} {m : Machine}

/-- What a part of the walk achieves: it visits what is staged in a region. -/
def Covers (t : FileTree) (fixture : Place) (inv : List (Place × Bool) → Machine → Prop)
    (done : List (Place × Bool)) (region : Place → Prop) (count : Nat) (m : Machine) : Prop :=
  ∃ visited, Visits t fixture region visited ∧ inv (done ++ visited) m ∧ count = fileCount visited

/-- Two places that begin with a name of the same directory. -/
theorem name_eq_of_prefix {name name' : String} (h : r ++ [name] <+: x) (h' : r ++ [name'] <+: x) :
    name' = name := by
  obtain ⟨rest, rfl⟩ := h
  obtain ⟨rest', hx⟩ := h'
  rw [List.append_assoc, List.append_assoc, List.append_cancel_left_eq] at hx
  exact (List.cons.inj hx).1

/-- If every entry of a list is visited with what is below it, all of them are. -/
theorem achieves_copyAll {copyOne : String × Bool → Operation Nat} {entries : List (String × Bool)}
    (hone : ∀ {done m name isDirectory}, (name, isDirectory) ∈ entries → inv done m →
      Reaches t fixture done r → m.Achieves mayFail (copyOne (name, isDirectory))
        (Covers t fixture inv done (r ++ [name] <+: ·)))
    (hnodup : (entries.map Prod.fst).Nodup) (hinv : inv done m) (hr : Reaches t fixture done r) :
    m.Achieves mayFail (copyAll copyOne entries)
      (Covers t fixture inv done fun x => ∃ e ∈ entries, r ++ [e.1] <+: x) := by
  -- Induction on the entries: what is below one of their names is not below another.
  induction entries generalizing done m with
  | nil =>
    refine achieves_of_ok (Machine.perform_pure m 0) ⟨[], .nil (by simp), ?_, rfl⟩
    rwa [List.append_nil]
  | cons e entries ih =>
    obtain ⟨name, isDirectory⟩ := e
    rw [List.map_cons, List.nodup_cons] at hnodup
    rw [copyAll]
    refine (hone List.mem_cons_self hinv hr).bind ?_
    rintro first m₁ ⟨visited, hvisited, hinv₁, rfl⟩
    refine (ih (fun hmem => hone (List.mem_cons_of_mem _ hmem)) hnodup.2 hinv₁
      (hr.append visited)).bind ?_
    rintro others m₂ ⟨visited', hvisited', hinv₂, rfl⟩
    have happart (x : Place) (hx : r ++ [name] <+: x) : ¬∃ e ∈ entries, r ++ [e.1] <+: x := by
      rintro ⟨e, he, hx'⟩
      have hname := name_eq_of_prefix hx hx'
      exact hnodup.1 (List.mem_map.mpr ⟨e, he, hname⟩)
    refine achieves_of_ok (Machine.perform_pure m₂ _)
      ⟨visited ++ visited', (hvisited.append hvisited' happart).congr fun x _ _ => ?_, ?_, ?_⟩
    · simp only [List.mem_cons, exists_eq_or_imp]
    · rwa [← List.append_assoc]
    · rw [fileCount_append]

/-- **The walk visits everything once.**  What is staged below a directory that the walk has
come to is visited, and what every step preserves holds in the end. -/
theorem achieves_copyBelow (h : IsWalk mayFail source target t fixture inv) {depth : Nat}
    (hinv : inv done m) (hr : Reaches t fixture done r)
    (hdepth : FileTree.pathLimit ≤ depth + r.length) :
    m.Achieves mayFail (copyBelow source target depth r)
      (Covers t fixture inv done fun x => ∃ rest, rest ≠ [] ∧ x = r ++ rest) := by
  -- Induction on the depth that is left; a directory is visited before its own walk begins.
  induction depth generalizing done m r with
  | zero =>
    refine achieves_of_error rfl ?_
    rcases hr with rfl | ⟨hstaged, -⟩
    · exact absurd hdepth (by decide)
    · exact h.shallow hstaged (by simpa using hdepth)
  | succ depth ih =>
    rw [copyBelow]
    refine (h.opens hinv hr).bind ?_
    rintro entries _ ⟨rfl, hentries⟩
    refine (achieves_copyAll (r := r) ?_ hentries.nodup hinv hr).mono ?_
    · intro done m name isDirectory hmem hinv hr
      have hstaged := (hentries.mem_iff name isDirectory).mp hmem
      refine (h.copies hinv hr hstaged).bind ?_
      rintro copied m₁ ⟨rfl, hinv₁⟩
      cases isDirectory with
      | false =>
        exact achieves_of_ok (Machine.perform_pure m₁ _) ⟨_, .file h.sound hstaged, hinv₁, rfl⟩
      | true =>
        have hreached : Reaches t fixture (done ++ [(r ++ [name], true)]) (r ++ [name]) :=
          .inr ⟨hstaged, by simp⟩
        refine (ih hinv₁ hreached (by simp; omega)).bind ?_
        rintro below m₂ ⟨visited, hvisited, hinv₂, rfl⟩
        refine achieves_of_ok (Machine.perform_pure m₂ _)
          ⟨_, .directory hstaged hvisited, ?_, (fileCount_append _ _).symm⟩
        rwa [← List.append_assoc]
    · rintro count m' ⟨visited, hvisited, hinv', hcount⟩
      exact ⟨visited, hvisited.congr fun x b hx => hentries.exists_prefix_iff h.sound hx,
        hinv', hcount⟩

/-- Once the destination is there, all that is to be staged of a fixture is visited. -/
theorem achieves_stage {m₀ : Machine} (h : IsWalk mayFail source target t fixture inv)
    (hensure : m.perform (ensureDirectory target) = (.ok (), m₀))
    (hsource : m₀.files.Leads m₀.directory source fixture) (hinv : inv [] m₀) :
    m.Achieves mayFail (stage source target) fun count m' =>
      ∃ m₁, Covers t fixture inv [] (fun _ => True) count m₁ ∧
        m' = m₁.logged [.staged count source target] := by
  have hentry : m₀.files.entryAt m₀.directory source = .ok .directory := by
    obtain ⟨hresolve, hthere⟩ := FileTree.leads_iff.mp hsource
    rw [FileTree.entryAt, hresolve]
    simp only [hthere]
  have hstage : m.perform (stage source target) = m₀.perform (do
      let count ← copyBelow source target FileTree.pathLimit []
      log (.staged count source target)
      return count) := by
    simp only [stage, Machine.perform_bind, hensure, Machine.perform_get, hentry]
  rw [Achieves, hstage]
  refine (h.achieves_copyBelow hinv (.inl rfl) (Nat.le_refl _)).bind ?_
  rintro count m₁ ⟨visited, hvisited, hinv₁, hcount⟩
  refine achieves_of_ok rfl ⟨m₁, ⟨visited, hvisited.congr fun x b hx => ?_, hinv₁, hcount⟩, rfl⟩
  exact ⟨fun _ => trivial, fun _ => ⟨x, hx.ne_root, rfl⟩⟩

end IsWalk

end Staging

end CrossBuild
