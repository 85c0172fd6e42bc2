import CrossBuild.Proofs.Files.Way

/-!
# Sound trees

A tree of files is a finite map, and some such maps are no contents of a file
system: one place could be listed twice, a file could have entries below it, and
a name could be one that no path can write.  `FileTree.Sound` rules these out.  A
new entry in a directory, or a file in the stead of another, leaves a tree sound.

In a sound tree every directory lists each of its entries once.
-/
namespace CrossBuild

namespace FileTree

/-- A name that an entry can have: no path takes it for anything else. -/
structure IsFileName (name : String) : Prop extends IsName name where
  not_separator : Path.separator ∉ name.toList
  not_nul : Char.ofNat 0 ∉ name.toList

/-- A tree that is the contents of a file system. -/
structure Sound (t : FileTree) : Prop where
  /-- No place is listed twice. -/
  nodup : (t.entries.map Prod.fst).Nodup
  /-- What has an entry below it is a directory. -/
  parent : ∀ {p : Place} {name : String} {e : Entry},
    t.lookup? (p ++ [name]) = some e → t.lookup? p = some .directory
  isFileName : ∀ {p : Place} {name : String} {e : Entry},
    t.lookup? (p ++ [name]) = some e → IsFileName name

variable {t : FileTree} {p q : Place} {name : String} {e : Entry}

theorem ne_root_of_concat (p : Place) (name : String) : p ++ [name] ≠ [] := by
  simp

/-! ## 1. What is listed -/

theorem exists_mem_entries_iff (hp : p ≠ []) :
    (∃ e, (p, e) ∈ t.entries) ↔ (t.lookup? p).isSome = true := by
  rw [lookup?, if_neg hp, List.lookup_isSome_iff]
  constructor
  · rintro ⟨e, he⟩
    exact ⟨(p, e), he, beq_self_eq_true p⟩
  · rintro ⟨⟨q, e⟩, he, hq⟩
    exact ⟨e, eq_of_beq hq ▸ he⟩

/-- What a place is listed with is what stands there. -/
theorem mem_entries_of_lookup? (hp : p ≠ []) (h : t.lookup? p = some e) : (p, e) ∈ t.entries := by
  rw [lookup?, if_neg hp, List.lookup_eq_some_iff] at h
  obtain ⟨before, after, hentries, -⟩ := h
  rw [hentries]
  exact List.mem_append_right _ List.mem_cons_self

/-- The name of an entry directly below a place. -/
def childOf? (p : Place) (x : Place × Entry) : Option String :=
  if p.isPrefixOf x.1 && x.1 != p then
    match x.1.drop p.length with
    | [name] => some name
    | _ => none
  else none

theorem childOf?_eq_some_iff {x : Place × Entry} :
    childOf? p x = some name ↔ x.1 = p ++ [name] := by
  rw [childOf?]
  constructor
  · intro h
    split at h
    · rename_i hbelow
      simp only [Bool.and_eq_true, List.isPrefixOf_iff_prefix] at hbelow
      obtain ⟨⟨r, hr⟩, -⟩ := hbelow
      rw [← hr, List.drop_left] at h
      rw [← hr]
      split at h
      · cases h
        rfl
      · cases h
    · cases h
  · intro h
    have hbelow : (p.isPrefixOf x.1 && x.1 != p) = true := by
      rw [h]
      simp
    rw [if_pos hbelow, h, List.drop_left]

/-- The children of a place are the names of the entries directly below it, in some order. -/
theorem children_perm (t : FileTree) (p : Place) :
    (t.children p).Perm (t.entries.filterMap (childOf? p)) := by
  rw [children, below]
  refine ((List.mergeSort_perm _ _).filterMap _).trans ?_
  rw [List.filterMap_filterMap]
  refine List.Perm.of_eq (congrArg (List.filterMap · t.entries) (funext fun x => ?_))
  rw [childOf?]
  split <;> rfl

theorem mem_children_iff : name ∈ t.children p ↔ (t.lookup? (p ++ [name])).isSome = true := by
  rw [(t.children_perm p).mem_iff, List.mem_filterMap,
    ← exists_mem_entries_iff (ne_root_of_concat p name)]
  constructor
  · rintro ⟨⟨q, e⟩, hmem, hchild⟩
    exact ⟨e, childOf?_eq_some_iff.mp hchild ▸ hmem⟩
  · rintro ⟨e, hmem⟩
    exact ⟨_, hmem, childOf?_eq_some_iff.mpr rfl⟩

namespace Sound

theorem nodup_children (h : t.Sound) (p : Place) : (t.children p).Nodup := by
  rw [(t.children_perm p).nodup_iff]
  refine List.Pairwise.filterMap _ ?_ (List.pairwise_map.mp h.nodup)
  rintro x y hne name hname _ hname' rfl
  rw [childOf?_eq_some_iff] at hname hname'
  exact hne (hname.trans hname'.symm)

/-! ## 2. Places below an entry -/

/-- Whatever has an entry anywhere below it is a directory. -/
theorem directory_of_below (h : t.Sound) {r : Place} (hr : r ≠ [])
    (he : t.lookup? (p ++ r) = some e) : t.lookup? p = some .directory := by
  induction r generalizing p with
  | nil => exact absurd rfl hr
  | cons name r ih =>
    rw [List.append_cons] at he
    cases r with
    | nil => exact h.parent (List.append_nil (p ++ [name]) ▸ he)
    | cons => exact h.parent (ih (by simp) he)

theorem isFileName_of_below (h : t.Sound) {r : Place} (he : t.lookup? (p ++ r) = some e) :
    ∀ name ∈ r, IsFileName name := by
  intro name hname
  obtain ⟨before, after, rfl⟩ := List.append_of_mem hname
  rw [List.append_cons, ← List.append_assoc, ← List.append_assoc] at he
  cases after with
  | nil => exact h.isFileName (List.append_nil (p ++ before ++ [name]) ▸ he)
  | cons => exact h.isFileName (h.directory_of_below (by simp) he)

/-! ## 3. Changes -/

/-- An entry may be put into a directory, if it takes away nothing but a file's bytes. -/
theorem put (h : t.Sound) (hp : t.lookup? p = some .directory) (hname : IsFileName name)
    (hold : ∀ old, t.lookup? (p ++ [name]) = some old → old.Becomes e) :
    (t.put (p ++ [name]) e).Sound := by
  have hroot := ne_root_of_concat p name
  have hkeeps : t.Keeps (t.put (p ++ [name]) e) := keeps_put hroot hold
  constructor
  case nodup =>
    rw [FileTree.put, List.map_cons, List.nodup_cons]
    constructor
    · simp
    · exact List.Pairwise.sublist ((List.filter_sublist).map _) h.nodup
  case parent =>
    intro q other e' he
    rw [lookup?_put hroot] at he
    split at he
    · rename_i heq
      obtain ⟨rfl, -⟩ := List.append_inj' heq rfl
      exact hkeeps.directory hp
    · exact hkeeps.directory (h.parent he)
  case isFileName =>
    intro q other e' he
    rw [lookup?_put hroot] at he
    split at he
    · rename_i heq
      obtain ⟨-, hsame⟩ := List.append_inj' heq rfl
      exact (List.cons.inj hsame).1 ▸ hname
    · exact h.isFileName he

end Sound

/-! ## 4. Trees that are written out -/

instance (name : String) : Decidable (IsFileName name) :=
  decidable_of_iff (name ≠ "" ∧ name ≠ "." ∧ name ≠ ".." ∧ name.utf8ByteSize ≤ nameLimit ∧
      Path.separator ∉ name.toList ∧ Char.ofNat 0 ∉ name.toList)
    ⟨fun ⟨hempty, hhere, hup, hsize, hseparator, hnul⟩ =>
      ⟨⟨hempty, hhere, hup, hsize⟩, hseparator, hnul⟩,
    fun h => ⟨h.ne_empty, h.ne_here, h.ne_up, h.size, h.not_separator, h.not_nul⟩⟩

/-- A tree is sound if each of its entries has a name in a directory. -/
theorem sound_of_entries (hnodup : (t.entries.map Prod.fst).Nodup)
    (h : ∀ x ∈ t.entries, t.lookup? x.1.dropLast = some .directory ∧
      ∀ name ∈ x.1.getLast?, IsFileName name) : t.Sound where
  nodup := hnodup
  parent {p name e} he := by
    have hparent := (h _ (mem_entries_of_lookup? (ne_root_of_concat p name) he)).1
    rwa [List.dropLast_concat] at hparent
  isFileName {p name e} he :=
    (h _ (mem_entries_of_lookup? (ne_root_of_concat p name) he)).2 name (by simp)

theorem lookup?_ne_link (h : ∀ x ∈ t.entries, ∀ target, x.2 ≠ .link target) (p : Place)
    (target : String) : t.lookup? p ≠ some (.link target) := by
  intro hlink
  by_cases hp : p = []
  · rw [hp] at hlink
    cases hlink
  · exact h _ (mem_entries_of_lookup? hp hlink) target rfl

end FileTree

end CrossBuild
