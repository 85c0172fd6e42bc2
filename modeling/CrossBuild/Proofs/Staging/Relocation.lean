import CrossBuild.Proofs.Files.Position
import CrossBuild.Proofs.Staging.Overlay

/-!
# Relocation

An entry moves together with everything below it, and everything else stays: that is what
renaming does to a tree, if it does anything (`FileTree.rename_relocates`).  The directories
above the new place are made first, and they stay if the move fails then: for want of the
entry, say, or because its new place is below it.

So a relocation loses nothing, whether it succeeds or not
(`Staging.relocate_loses_nothing`), and it succeeds where the entry is there and its new place
is free and can be reached (`Staging.CanRelocate.succeeds`).
-/
namespace CrossBuild

/-- The root is apart from nothing. -/
theorem Staging.IsApart.ne_root {s d : Place} (h : IsApart s d) : s ≠ [] ∧ d ≠ [] :=
  ⟨fun hs => h.not_above (hs ▸ List.nil_prefix), fun hd => h.not_below (hd ▸ List.nil_prefix)⟩

open Staging (IsApart)

namespace FileTree

variable {t t' made : FileTree} {directory s d p q r : Place} {source target : Path}
variable {new : Place → Prop} {e : Entry}

/-! ## 1. Moving -/

/-- The entry that is listed under a new key is the one that was listed under the old one. -/
theorem lookup_map_of_iff {f : Place → Place} {l : List (Place × Entry)}
    (h : ∀ x ∈ l, f x.1 = q ↔ x.1 = p) :
    (l.map fun x => (f x.1, x.2)).lookup q = l.lookup p := by
  induction l with
  | nil => rfl
  | cons x l ih =>
    have hrest := ih fun y hy => h y (List.mem_cons_of_mem x hy)
    have hfirst : (q == f x.1) = (p == x.1) := by
      rw [Bool.eq_iff_iff, beq_iff_eq, beq_iff_eq, eq_comm, h x List.mem_cons_self, eq_comm]
    rw [List.map_cons, List.lookup_cons, List.lookup_cons, hfirst, hrest]

theorem movedPlace_append (s d r : Place) : movedPlace s d (s ++ r) = d ++ r := by
  rw [movedPlace, if_pos (List.isPrefixOf_iff_prefix.mpr (List.prefix_append s r)), List.drop_left]

theorem movedPlace_of_outside (h : ¬s <+: q) : movedPlace s d q = q := by
  rw [movedPlace, if_neg (mt List.isPrefixOf_iff_prefix.mp h)]

/-- What stands at a place after a move is what stood at the one place that was moved there. -/
theorem lookup?_move (hq : q ≠ []) (hp : p ≠ [])
    (h : ∀ k, ¬d <+: k → (movedPlace s d k = q ↔ k = p)) :
    (t.move s d).lookup? q = (t.removeBelow d).lookup? p := by
  rw [lookup?, if_neg hq, lookup?, if_neg hp, move]
  refine lookup_map_of_iff fun x hx => h x.1 fun hbelow => ?_
  have hkept := (List.mem_filter.mp hx).2
  rw [List.isPrefixOf_iff_prefix.mpr hbelow] at hkept
  cases hkept

section Apart

variable (hapart : IsApart s d)
include hapart

theorem lookup?_removeBelow_of_apart (r : Place) :
    (t.removeBelow d).lookup? (s ++ r) = t.lookup? (s ++ r) := by
  have hbelow : ¬d <+: s ++ r := fun ⟨x, hx⟩ => hapart.ne x r hx
  rw [lookup?_removeBelow hapart.ne_root.2, if_neg (mt List.isPrefixOf_iff_prefix.mp hbelow)]

/-- The entry and what is below it come to stand at the new place. -/
theorem lookup?_move_target (r : Place) : (t.move s d).lookup? (d ++ r) = t.lookup? (s ++ r) := by
  obtain ⟨hs, hd⟩ := hapart.ne_root
  rw [← lookup?_removeBelow_of_apart hapart r]
  refine lookup?_move (by simp [hd]) (by simp [hs]) fun k hk => ?_
  by_cases hbelow : s <+: k
  · obtain ⟨x, rfl⟩ := hbelow
    rw [movedPlace_append, List.append_cancel_left_eq, List.append_cancel_left_eq]
  · rw [movedPlace_of_outside hbelow]
    constructor
    · rintro rfl
      exact absurd (List.prefix_append d r) hk
    · rintro rfl
      exact absurd (List.prefix_append s r) hbelow

/-- Nothing is left of them at the old one. -/
theorem lookup?_move_source (r : Place) : (t.move s d).lookup? (s ++ r) = none := by
  obtain ⟨hs, hd⟩ := hapart.ne_root
  -- No place is moved there, and none that is kept is the new one.
  have hnone : (t.removeBelow d).lookup? d = none := by
    rw [lookup?_removeBelow hd, if_pos (List.isPrefixOf_iff_prefix.mpr List.prefix_rfl)]
  rw [← hnone]
  refine lookup?_move (by simp [hs]) hd fun k hk => ?_
  have hne : k ≠ d := fun h => hk (h ▸ List.prefix_rfl)
  by_cases hbelow : s <+: k
  · obtain ⟨x, rfl⟩ := hbelow
    rw [movedPlace_append]
    exact ⟨fun h => absurd h (hapart.ne x r), fun h => absurd h hne⟩
  · rw [movedPlace_of_outside hbelow]
    exact ⟨fun h => absurd (h ▸ List.prefix_append s r) hbelow, fun h => absurd h hne⟩

theorem lookup?_move_rest (hs : ¬s <+: q) (hd : ¬d <+: q) :
    (t.move s d).lookup? q = t.lookup? q := by
  by_cases hroot : q = []
  · rw [hroot, lookup?_nil, lookup?_nil]
  have hkept : (t.removeBelow d).lookup? q = t.lookup? q := by
    rw [lookup?_removeBelow hapart.ne_root.2, if_neg (mt List.isPrefixOf_iff_prefix.mp hd)]
  rw [← hkept]
  refine lookup?_move hroot hroot fun k hk => ?_
  by_cases hbelow : s <+: k
  · obtain ⟨x, rfl⟩ := hbelow
    rw [movedPlace_append]
    exact ⟨fun h => absurd (h ▸ List.prefix_append d x) hd,
      fun h => absurd (h ▸ List.prefix_append s x) hs⟩
  · rw [movedPlace_of_outside hbelow]

end Apart

/-! ## 2. Renaming -/

/-- The entry at `s` is at `d`, with all that was below it, and everything else is as before but
for what it replaced there, and for directories that are new. -/
structure Relocated (t : FileTree) (new : Place → Prop) (s d : Place) (t' : FileTree) :
    Prop where
  /-- It replaces nothing, a file if it is one, or a directory if it is one. -/
  entry : ∃ e, t.lookup? s = some e ∧
    ∀ old, t.lookup? d = some old → old.isDirectory = e.isDirectory
  /-- Nothing is below what it replaces. -/
  replaced : ∀ r, r ≠ [] → t.lookup? (d ++ r) = none
  apart : IsApart s d
  subtree : ∀ r, t'.lookup? (d ++ r) = t.lookup? (s ++ r)
  gone : ∀ r, t'.lookup? (s ++ r) = none
  rest : ∀ q, ¬s <+: q → ¬d <+: q → t.AsBefore new t' q

/-- What a succeeding renaming has found, and what it makes of it. -/
theorem rename_eq_ok (h : t.rename directory source target = .ok t') :
    ∃ sourceParent sourceName targetParent targetName,
      t.IsSlot directory source sourceParent sourceName ∧
      t.IsSlot directory target targetParent targetName ∧
      targetName.utf8ByteSize ≤ nameLimit ∧
      let s := sourceParent ++ [sourceName]
      let d := targetParent ++ [targetName]
      ∃ e, t.lookup? s = some e ∧ ¬s <+: targetParent ∧ ¬d <+: sourceParent ∧
        (s = d ∧ t' = t ∨ s ≠ d ∧ t.mayReplace s d = .ok () ∧ t' = t.move s d) := by
  rw [rename] at h
  split at h
  · cases h
  split at h
  · cases h
  · cases h
  rename_i sourceParent sourceLast targetParent targetLast hsource htarget
  split at h
  · rename_i sourceName sourceSeparated targetName targetSeparated
    refine ⟨sourceParent, sourceName, targetParent, targetName, isSlot_of_slot hsource,
      isSlot_of_slot htarget, ?_⟩
    simp only at h
    split at h
    · cases h
    split at h
    · cases h
    rename_i e hentry
    split at h
    · cases h
    rename_i hfits
    split at h
    · cases h
    split at h
    · cases h
    rename_i hbelow
    split at h
    · cases h
    rename_i habove
    rw [List.isPrefixOf_iff_prefix] at hbelow habove
    refine ⟨Nat.not_lt.mp hfits, e, hentry, hbelow, habove, ?_⟩
    split at h
    · rename_i hsame
      cases h
      exact .inl ⟨hsame, rfl⟩
    rename_i hne
    split at h
    · cases h
    · rename_i hreplace
      cases h
      exact .inr ⟨hne, hreplace, rfl⟩
  · cases h

/-- A file may replace a file, and a directory an empty one. -/
theorem mayReplace_ok (hplain : t.Plain) (h : t.mayReplace s d = .ok ())
    (hentry : t.lookup? s = some e) :
    ∀ old, t.lookup? d = some old → old.isDirectory = e.isDirectory ∧
      (old = .directory → t.children d = []) := by
  intro old hold
  rw [mayReplace, hentry, hold] at h
  cases e with
  | link link => exact absurd hentry (hplain s link)
  | directory =>
    cases old with
    | directory =>
      simp only at h
      split at h
      · rename_i hempty
        exact ⟨rfl, fun _ => List.isEmpty_iff.mp hempty⟩
      · cases h
    | file => cases h
    | link => cases h
  | file =>
    cases old with
    | directory => cases h
    | file => exact ⟨rfl, nofun⟩
    | link link => exact absurd hold (hplain d link)

/-- Nothing is below what is no directory, or has no children. -/
theorem Sound.nothing_below (h : t.Sound) (hd : t.lookup? d = some .directory → t.children d = [])
    (hr : r ≠ []) : t.lookup? (d ++ r) = none := by
  cases he : t.lookup? (d ++ r) with
  | none => rfl
  | some e =>
    have hempty := hd (h.directory_of_below hr he)
    obtain ⟨name, rest, rfl⟩ := List.exists_cons_of_ne_nil hr
    have hname : name ∈ t.children d := by
      rw [mem_children_iff]
      cases rest with
      | nil => rw [he, Option.isSome_some]
      | cons other rest =>
        rw [List.append_cons] at he
        rw [h.directory_of_below (by simp) he, Option.isSome_some]
    rw [hempty] at hname
    cases hname

/-- What is left of a tree by a relocation that has ended.  Where two paths name one place,
there is nothing to move. -/
def AfterRelocation (t : FileTree) (new : Place → Prop) (s d : Place)
    (result : Except Failure Unit) (t' : FileTree) : Prop :=
  match result with
  | .ok _ => if s = d then t.Adds new t' else t.Relocated new s d t'
  | .error _ => t.Adds new t'

/-- **What a renaming does.**  If it succeeds, the entry is at the place that the new path names,
and nothing else has changed but for what it replaced. -/
theorem rename_relocates (hsound : t.Sound) (hplain : t.Plain)
    (h : t.rename directory source target = .ok t') :
    t.AfterRelocation (fun _ => False) (source.place directory) (target.place directory)
      (.ok ()) t' := by
  obtain ⟨sourceParent, sourceName, targetParent, targetName, hsource, htarget, -, e, hentry,
    hbelow, habove, hmoved⟩ := rename_eq_ok h
  rw [hsource.place_eq hplain, htarget.place_eq hplain, AfterRelocation]
  rcases hmoved with ⟨hsame, rfl⟩ | ⟨hne, hreplace, rfl⟩
  · simp only [hsame, if_true]
    exact .refl hsound hplain
  rw [if_neg hne]
  have hmay := mayReplace_ok hplain hreplace hentry
  have hapart : IsApart (sourceParent ++ [sourceName]) (targetParent ++ [targetName]) := by
    constructor
    · exact fun hinitial => (List.prefix_concat_iff.mp hinitial).elim hne hbelow
    · exact fun hinitial => (List.prefix_concat_iff.mp hinitial).elim (Ne.symm hne) habove
  constructor
  case entry => exact ⟨e, hentry, fun old hold => (hmay old hold).1⟩
  case replaced =>
    exact fun r hr => hsound.nothing_below (fun hthere => (hmay _ hthere).2 rfl) hr
  case apart => exact hapart
  case subtree => exact lookup?_move_target hapart
  case gone => exact lookup?_move_source hapart
  case rest => exact fun q hs hd => .inl (lookup?_move_rest hapart hs hd)

/-- The new name of an entry is not too long. -/
theorem fits_of_rename (hplain : t.Plain) (h : t.rename directory source target = .ok t') :
    ∀ name ∈ (target.place directory).getLast?, name.utf8ByteSize ≤ nameLimit := by
  obtain ⟨_, _, targetParent, targetName, -, htarget, hfits, -⟩ := rename_eq_ok h
  intro name hname
  rw [htarget.place_eq hplain, List.getLast?_concat] at hname
  cases hname
  exact hfits

theorem Enters.slot {parent : Place} {p : Path} {name : String}
    (h : t.Enters directory p parent name) :
    t.slot directory p = .ok (parent, .named name false) := by
  obtain ⟨start, before, hbegins, hway, hsegments⟩ := h.way
  rw [slot_eq hsegments nofun h.isName, hbegins.walkFrom, hway.walk]
  simp [h.there]

/-- An entry can be moved to where nothing stands, unless that is below it. -/
theorem rename_of_enters {sourceParent targetParent : Place} {sourceName targetName : String}
    (hsound : t.Sound) (hsource : t.Enters directory source sourceParent sourceName)
    (htarget : t.Enters directory target targetParent targetName)
    (hentry : t.lookup? (sourceParent ++ [sourceName]) = some e)
    (hfree : t.lookup? (targetParent ++ [targetName]) = none)
    (hbelow : ¬sourceParent ++ [sourceName] <+: targetParent) :
    t.rename directory source target =
      .ok (t.move (sourceParent ++ [sourceName]) (targetParent ++ [targetName])) := by
  obtain ⟨start, before, hbegins, -, -⟩ := htarget.way
  have habove : ¬targetParent ++ [targetName] <+: sourceParent := by
    rintro ⟨r, rfl⟩
    cases hfree.symm.trans (hsound.directory_of_below (r := r ++ [sourceName]) (by simp)
      (by rwa [← List.append_assoc]))
  have hne : sourceParent ++ [sourceName] ≠ targetParent ++ [targetName] := by
    intro hsame
    rw [hsame, hfree] at hentry
    cases hentry
  have hreplace : t.mayReplace (sourceParent ++ [sourceName]) (targetParent ++ [targetName]) =
      .ok () := by
    rw [mayReplace, hentry, hfree]
    cases e <;> rfl
  have hnames : ¬nameLimit < sourceName.utf8ByteSize ∧ ¬nameLimit < targetName.utf8ByteSize :=
    ⟨Nat.not_lt.mpr hsource.isName.size, Nat.not_lt.mpr htarget.isName.size⟩
  rw [rename, hbegins.hasNul, hsource.slot, htarget.slot]
  simp only [hnames, hentry, hreplace, List.isPrefixOf_iff_prefix, hbelow, habove, hne,
    Bool.false_eq_true, Bool.or_self, Bool.and_false, if_false]

/-- A path comes to its last name in the directory that its parent leads to. -/
theorem Leads.enters_of_parent? {p folder : Path} {place : Place} {before : List String}
    {name : String} (h : t.Leads directory folder place) (hparent : p.parent? = some folder)
    (hsegments : p.segments = before ++ [name]) (hname : IsName name) (hnul : p.hasNul = false)
    (hsize : p.text.utf8ByteSize < pathLimit) : t.Enters directory p place name := by
  obtain ⟨⟨start, hbegins, hway⟩, hthere⟩ := h
  obtain ⟨habsolute, c, hbelow⟩ := (Path.below_of_parent? hparent).resolve_left hbegins.ne_empty
  have hne : p.text ≠ "" := by
    intro hempty
    have hp : p = ⟨""⟩ := by
      cases p
      exact congrArg Path.mk hempty
    rw [hp] at hparent
    cases hparent
  have hbefore : before.filterMap Path.innerComponent? =
      folder.segments.filterMap Path.innerComponent? := by
    rw [Path.below, hsegments, List.filterMap_append, hname.filterMap_cons] at hbelow
    exact (List.append_inj' hbelow rfl).1
  exact ⟨⟨start, before, ⟨hnul, hne, hsize, habsolute ▸ hbegins.start⟩,
    hway.congr hthere hbefore, hsegments⟩, hthere, hname⟩

/-- A move after directories were made above the new place. -/
theorem Relocated.of_adds (h : made.Relocated (fun _ => False) s d t') (hadds : t.Adds new made)
    (hnew : ∀ q, new q → q <+: d) : t.Relocated new s d t' := by
  have hbefore (q : Place) (hq : made.lookup? q = none) : t.lookup? q = none := by
    rcases hadds.asBefore q with hsame | ⟨hnone, -, -⟩
    · exact hsame ▸ hq
    · exact hnone
  -- The new directories are above `d`, and `s` is not.
  have hsubtree (r : Place) : made.lookup? (s ++ r) = t.lookup? (s ++ r) := by
    rcases hadds.asBefore (s ++ r) with hsame | ⟨-, -, hmade⟩
    · exact hsame
    · exact absurd ((List.prefix_append s r).trans (hnew _ hmade)) h.apart.not_above
  constructor
  case entry =>
    obtain ⟨e, hentry, hkind⟩ := h.entry
    have hsource := hsubtree []
    rw [List.append_nil] at hsource
    refine ⟨e, hsource ▸ hentry, fun old hold => hkind old ?_⟩
    rcases hadds.asBefore d with hsame | ⟨hnone, -, -⟩
    · rw [hsame, hold]
    · cases hnone.symm.trans hold
  case replaced => exact fun r hr => hbefore _ (h.replaced r hr)
  case apart => exact h.apart
  case subtree => exact fun r => (h.subtree r).trans (hsubtree r)
  case gone => exact h.gone
  case rest =>
    intro q hs hd
    have hsame := (h.rest q hs hd).resolve_right (fun hfalse => hfalse.2.2)
    rw [AsBefore, hsame]
    exact hadds.asBefore q

theorem AfterRelocation.of_adds {result : Except Failure Unit}
    (h : made.AfterRelocation (fun _ => False) s d result t') (hadds : t.Adds new made)
    (hnew : ∀ q, new q → q <+: d) : t.AfterRelocation new s d result t' := by
  have hkept (h : made.Adds (fun _ => False) t') : t.Adds new t' :=
    hadds.trans (h.mono fun _ _ => False.elim)
  cases result with
  | error e => exact hkept h
  | ok _ =>
    rw [AfterRelocation] at h ⊢
    by_cases hsame : s = d
    · rw [if_pos hsame] at h ⊢
      exact hkept h
    · rw [if_neg hsame] at h ⊢
      exact h.of_adds hadds hnew

end FileTree

/-! ## 3. Relocating -/

namespace Staging

open FileTree

variable {m : Machine} {source target : Path}

/-- A relocation makes the directory above the new path, if there is one, and then renames. -/
theorem perform_relocate (m : Machine) (source target : Path) :
    m.perform (relocate source target) =
      match m.perform (target.parent?.toList.forM fun folder => ensureDirectory folder) with
      | (.error e, m') => (.error e, m')
      | (.ok _, m') =>
        match m'.files.rename m'.directory source target with
        | .ok files => (.ok (), { m' with files })
        | .error e => (.error (.moveEntry source target e), m') := by
  rw [relocate, Machine.perform_bind]
  rcases m.perform (target.parent?.toList.forM fun folder => ensureDirectory folder) with ⟨r, m'⟩
  cases r with
  | error e => rfl
  | ok _ => exact m'.perform_changeFiles _ _

theorem perform_ensureParent (m : Machine) (target : Path) :
    m.perform (target.parent?.toList.forM fun folder => ensureDirectory folder) =
      match target.parent? with
      | none => (.ok (), m)
      | some folder => m.perform (ensureDirectory folder) := by
  rw [List.forM_eq_forM]
  cases target.parent? with
  | none => rfl
  | some folder =>
    simp only [Option.toList_some, List.forM_cons, List.forM_nil, Machine.perform_bind]
    rcases m.perform (ensureDirectory folder) with ⟨r, m'⟩
    cases r <;> rfl

theorem ensureParent_adds (hsound : m.files.Sound) (hplain : m.files.Plain) (target : Path) :
    ∃ r made, m.perform (target.parent?.toList.forM fun folder => ensureDirectory folder) =
        (r, { m with files := made }) ∧
      m.files.Adds (target.Passes m.directory) made := by
  rw [perform_ensureParent]
  cases hparent : target.parent? with
  | none => exact ⟨_, m.files, rfl, .refl hsound hplain⟩
  | some folder => exact Machine.ensureDirectory_adds hsound hplain hparent

/-- Directories are made first, and on the tree with them the entry is moved or not. -/
theorem exists_afterRelocation (hsound : m.files.Sound) (hplain : m.files.Plain)
    (source target : Path) :
    ∃ result files made, m.perform (relocate source target) = (result, { m with files }) ∧
      m.files.Adds (target.Passes m.directory) made ∧
      made.AfterRelocation (fun _ => False) (source.place m.directory)
        (target.place m.directory) result files ∧
      (result = .ok () → ∀ name ∈ (target.place m.directory).getLast?,
        name.utf8ByteSize ≤ nameLimit) := by
  obtain ⟨r, made, hensure, hadds⟩ := ensureParent_adds hsound hplain target
  have hmade : made.Adds (fun _ => False) made := .refl hadds.sound hadds.plain
  rw [perform_relocate, hensure]
  cases r with
  | error e => exact ⟨_, made, made, rfl, hadds, hmade, nofun⟩
  | ok _ =>
    simp only
    cases hrename : made.rename m.directory source target with
    | error e => exact ⟨_, made, made, rfl, hadds, hmade, nofun⟩
    | ok files =>
      exact ⟨_, files, made, rfl, hadds, rename_relocates hadds.sound hadds.plain hrename,
        fun _ => fits_of_rename hadds.plain hrename⟩

/-- There is an entry to move, and its new path leads to a free place, in a directory that is
there or can be made and that is not below the entry. -/
structure CanRelocate (m : Machine) (source target : Path) (sourceParent : Place)
    (sourceName : String) (targetParent : Place) (targetName : String) : Prop where
  source : m.files.Enters m.directory source sourceParent sourceName
  entry : (m.files.lookup? (sourceParent ++ [sourceName])).isSome = true
  folder : ∃ folder, target.parent? = some folder ∧
    m.files.IsDestination m.directory folder targetParent
  last : ∃ before, target.segments = before ++ [targetName]
  isName : IsName targetName
  hasNul : target.hasNul = false
  size : target.text.utf8ByteSize < pathLimit
  free : m.files.lookup? (targetParent ++ [targetName]) = none
  not_below : ¬sourceParent ++ [sourceName] <+: targetParent

theorem CanRelocate.succeeds {sourceParent targetParent : Place} {sourceName targetName : String}
    (h : CanRelocate m source target sourceParent sourceName targetParent targetName)
    (hsound : m.files.Sound) : (m.perform (relocate source target)).1 = .ok () := by
  obtain ⟨folder, hparent, hfolder⟩ := h.folder
  obtain ⟨before, hlast⟩ := h.last
  obtain ⟨made, hensure, hgrows, hleads⟩ :=
    Machine.perform_ensureDirectory_of_isDestination hfolder hsound
  -- Neither the entry nor its new place is one of the directories that were made.
  have hentry : made.lookup? (sourceParent ++ [sourceName]) =
      m.files.lookup? (sourceParent ++ [sourceName]) := hgrows.rest _ h.not_below
  have hfree : made.lookup? (targetParent ++ [targetName]) = none :=
    (hgrows.below (by simp)).trans h.free
  obtain ⟨e, he⟩ := Option.isSome_iff_exists.mp h.entry
  have hrename := rename_of_enters hgrows.sound (h.source.keeps hgrows.keeps)
    (hleads.enters_of_parent? hparent hlast h.isName h.hasNul h.size) (hentry.trans he) hfree
    h.not_below
  rw [perform_relocate, perform_ensureParent, hparent]
  simp only [hensure, hrename]

/-- **A relocation loses nothing.**  It makes directories that the new path passes through, and
then the entry is moved, or nothing else has happened.  If the path goes up from nowhere but
directories that were there, the new ones are above the entry's new place.  Where `..` follows
a new name they are those above the path as it is written: `new/../x` makes `new`, although
`x` comes to stand beside it (`Path.Passes`).

An entry is moved only to a name that is not too long, and a relocation succeeds where nothing
stands in its way. -/
theorem relocate_loses_nothing (hsound : m.files.Sound) (hplain : m.files.Plain)
    (source target : Path) :
    let s := source.place m.directory
    let d := target.place m.directory
    ∃ result files, m.perform (relocate source target) = (result, { m with files }) ∧
      (∃ made, m.files.Adds (target.Passes m.directory) made ∧
        made.AfterRelocation (fun _ => False) s d result files) ∧
      (m.files.Climbs m.directory target → m.files.AfterRelocation d.Above s d result files) ∧
      (result = .ok () → ∀ name ∈ d.getLast?, name.utf8ByteSize ≤ nameLimit) ∧
      ∀ sourceParent sourceName targetParent targetName,
        CanRelocate m source target sourceParent sourceName targetParent targetName →
          result = .ok () := by
  intro s d
  obtain ⟨result, files, made, hperform, hadds, hmoved, hfits⟩ :=
    exists_afterRelocation hsound hplain source target
  refine ⟨result, files, hperform, ⟨made, hadds, hmoved⟩, fun hclimbs => ?_, hfits,
    fun _ _ _ _ hcan => ?_⟩
  · have habove : m.files.Adds d.Above made :=
      hadds.mono fun q hq hpasses => hclimbs.above hsound hpasses hq
    exact hmoved.of_adds habove fun q hq => hq.1
  · have hresult := hcan.succeeds hsound
    rwa [hperform] at hresult

/-- A directory above the new place that is missing, and a new place below the entry. -/
theorem relocate_loses_nothing_of_missing_directory :
    let t : FileTree :=
      ⟨[(["src"], .directory), (["src", "hello.c"], .file ByteArray.empty false)]⟩
    let m : Machine := { files := t }
    t.Sound ∧ t.Plain ∧
      (∃ files, m.perform (relocate ⟨"/src"⟩ ⟨"/relocate/src"⟩) = (.ok (), { m with files }) ∧
        files.lookup? ["relocate", "src", "hello.c"] = some (.file ByteArray.empty false) ∧
        files.lookup? ["src"] = none) ∧
      ∃ e files, m.perform (relocate ⟨"/src"⟩ ⟨"/src/sub/src"⟩) = (.error e, { m with files }) ∧
        t.Adds (Place.Above ["src", "sub", "src"]) files := by
  intro t m
  have hsound : t.Sound := FileTree.sound_of_entries (by decide) (by decide)
  have hplain : t.Plain := fun q target => FileTree.lookup?_ne_link (by simp [t]) q target
  refine ⟨hsound, hplain, ?_, ?_⟩
  · have hsource : t.Enters m.directory ⟨"/src"⟩ [] "src" :=
      ⟨⟨[], [""], begins_of_isAbsolute (by decide) (by decide) (by decide), .stay (.inl rfl) .done,
        by decide⟩, rfl, ⟨by decide, by decide, by decide, by decide⟩⟩
    have hfolder : t.Continues m.directory ⟨"/relocate"⟩ [] ["relocate"] :=
      hsound.continues (begins_of_isAbsolute (by decide) (by decide) (by decide)) (by decide)
        (by decide) (by decide) (by decide) fun name hname =>
          ⟨[""], [], Option.some.inj hname ▸ by decide, nofun⟩
    have hcan : CanRelocate m ⟨"/src"⟩ ⟨"/relocate/src"⟩ [] "src" ["relocate"] "src" :=
      { source := hsource
        entry := by decide
        folder := ⟨_, by decide, .absent hfolder (by simp)⟩
        last := ⟨["", "relocate"], by decide⟩
        isName := ⟨by decide, by decide, by decide, by decide⟩
        hasNul := by decide
        size := by decide
        free := by decide
        not_below := by decide }
    obtain ⟨result, files, hperform, -, habove, -, hsucceeds⟩ :=
      relocate_loses_nothing (m := m) hsound hplain ⟨"/src"⟩ ⟨"/relocate/src"⟩
    obtain rfl := hsucceeds _ _ _ _ hcan
    have hmoved : t.Relocated (Place.Above ["relocate", "src"]) ["src"] ["relocate", "src"] files :=
      habove (climbs_of_not_up (by decide))
    exact ⟨files, hperform, hmoved.subtree ["hello.c"], hmoved.gone []⟩
  · obtain ⟨result, files, hperform, -, habove, -⟩ :=
      relocate_loses_nothing (m := m) hsound hplain ⟨"/src"⟩ ⟨"/src/sub/src"⟩
    have hafter := habove (climbs_of_not_up (by decide))
    cases result with
    | error e => exact ⟨e, files, hperform, hafter⟩
    | ok _ =>
      have hmoved : t.Relocated (Place.Above ["src", "sub", "src"]) ["src"] ["src", "sub", "src"]
        files := hafter
      exact absurd ⟨["sub", "src"], rfl⟩ hmoved.apart.not_above

end Staging

end CrossBuild
