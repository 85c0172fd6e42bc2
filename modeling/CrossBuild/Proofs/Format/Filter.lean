import CrossBuild.Format.Filter
import CrossBuild.Proofs.Text.Trim

/-!
# What a filter of formats means

The entries of a filter are read one after the other into two lists, and the list of included
names means the opposite when it is empty.  Still the order has no part in it.  What an
entry adds is known from its normal form alone (`FormatFilter.Adds`), so a name is excluded,
or included, exactly if some entry says so (`FormatFilter.mem_ofEntries`), and what a filter
admits is known from the set of its normal forms (`FormatFilter.admits_congr`).

The parser of formats reads a name by the same normal form.  In an exclusion, though, the name
begins after the mark, and the blanks there are kept: that is the one place where
the two disagree (`FormatFilter.admits_single`).
-/
namespace CrossBuild

open Text (Blanks)

/-! ## 1. Normal forms -/

namespace Format

theorem toList_normalized (text : String) :
    (normalized text).toList = (Text.trimChars text.toList).map Text.lowerChar := by
  simp [normalized, Text.trim, Text.lowerName]

theorem normalized_eq_empty_iff {text : String} : normalized text = "" ↔ Blanks text.toList := by
  rw [← String.toList_eq_nil_iff, toList_normalized, List.map_eq_nil_iff,
    Text.trimChars_eq_nil_iff]

/-- Blanks around a text and the case of its letters do not matter to its normal form. -/
theorem normalized_around {front back : List Char} (hfront : Blanks front) (hback : Blanks back)
    {text other : String} (h : Text.lowerName other = Text.lowerName text) :
    normalized (String.ofList front ++ other ++ String.ofList back) = normalized text := by
  have hlower : other.toList.map Text.lowerChar = text.toList.map Text.lowerChar :=
    String.ofList_injective h
  rw [← String.toList_inj, toList_normalized, toList_normalized, ← Text.trimChars_lower,
    ← Text.trimChars_lower, ← hlower]
  simp only [String.toList_append, String.toList_ofList, List.map_append]
  exact Text.trimChars_around hfront.lower hback.lower _

/-- Names of formats begin with a letter. -/
theorem exists_name_cons (f : Format) :
    ∃ c rest, f.name.toList = c :: rest ∧ Text.Cased c := by
  cases f <;> exact ⟨_, _, rfl, .inl (by decide)⟩

end Format

namespace FormatFilter

/-! ## 2. What one entry adds -/

/-- The mark of an exclusion is no letter. -/
theorem not_cased_mark : ¬Text.Cased '!' := by
  unfold Text.Cased
  decide

theorem toList_marked (name : String) : ("!" ++ name).toList = '!' :: name.toList := by
  rw [String.toList_append]
  rfl

/-- An entry that begins with the mark of an exclusion, but for blanks. -/
def IsExclusion (entry : String) : Prop :=
  (Text.trimChars entry.toList).head? = some '!'

instance (entry : String) : Decidable (IsExclusion entry) :=
  inferInstanceAs (Decidable (_ = _))

/-- An entry excludes a name. -/
def Excludes (entry name : String) : Prop :=
  Format.normalized entry = "!" ++ name

/-- An entry includes a name. -/
structure Includes (entry name : String) : Prop where
  normalized : Format.normalized entry = name
  ne_empty : name ≠ ""
  unmarked : ∀ rest, name ≠ "!" ++ rest

theorem excludes_iff {entry name : String} :
    Excludes entry name ↔ ∃ rest, Text.trimChars entry.toList = '!' :: rest ∧
      rest.map Text.lowerChar = name.toList := by
  rw [Excludes, ← String.toList_inj, Format.toList_normalized, toList_marked,
    List.map_eq_cons_iff]
  simp only [Text.lowerChar_eq_iff not_cased_mark]
  constructor
  · rintro ⟨c, rest, htrim, rfl, hrest⟩
    exact ⟨rest, htrim, hrest⟩
  · rintro ⟨rest, htrim, hrest⟩
    exact ⟨_, rest, htrim, rfl, hrest⟩

theorem isExclusion_iff {entry : String} : IsExclusion entry ↔ ∃ name, Excludes entry name := by
  simp only [excludes_iff, IsExclusion, List.head?_eq_some_iff]
  constructor
  · rintro ⟨rest, htrim⟩
    exact ⟨String.ofList (rest.map Text.lowerChar), rest, htrim, (String.toList_ofList).symm⟩
  · rintro ⟨-, rest, htrim, -⟩
    exact ⟨rest, htrim⟩

/-- An entry that is neither blank nor an exclusion includes its normal form. -/
theorem includes_iff {entry name : String} :
    Includes entry name ↔
      Format.normalized entry = name ∧ ¬(Blanks entry.toList ∨ IsExclusion entry) := by
  rw [not_or, ← Format.normalized_eq_empty_iff, isExclusion_iff, not_exists]
  constructor
  · rintro ⟨rfl, hne, hunmarked⟩
    exact ⟨rfl, hne, hunmarked⟩
  · rintro ⟨rfl, hne, hunmarked⟩
    exact ⟨rfl, hne, hunmarked⟩

/-- What an entry adds to a filter. -/
inductive Adds (filter : FormatFilter) (entry : String) : FormatFilter → Prop where
  | nothing (blank : Blanks entry.toList) : Adds filter entry filter
  | exclusion {name : String} (excludes : Excludes entry name) :
    Adds filter entry { filter with excluded := filter.excluded ++ [name] }
  | inclusion {name : String} (includes : Includes entry name) :
    Adds filter entry { filter with included := filter.included ++ [name] }

theorem adds_add (filter : FormatFilter) (entry : String) :
    Adds filter entry (filter.add entry) := by
  unfold add
  split
  · rename_i htrim
    exact .nothing (Text.trimChars_eq_nil_iff.mp htrim)
  · rename_i rest htrim
    exact .exclusion (excludes_iff.mpr ⟨rest, htrim, by simp [Text.lowerName]⟩)
  · rename_i hne hmark
    refine .inclusion (includes_iff.mpr ⟨rfl, ?_⟩)
    rintro (hblank | hexclusion)
    · exact hne (Text.trimChars_eq_nil_iff.mpr hblank)
    · obtain ⟨rest, htrim⟩ := List.head?_eq_some_iff.mp hexclusion
      exact hmark rest htrim

namespace Adds

variable {filter filter' : FormatFilter} {entry name : String}

theorem mem_excluded_iff (h : Adds filter entry filter') :
    name ∈ filter'.excluded ↔ name ∈ filter.excluded ∨ Excludes entry name := by
  cases h with
  | nothing blank =>
    have hnot : ¬Excludes entry name := by
      rw [Excludes, Format.normalized_eq_empty_iff.mpr blank]
      simp
    simp [hnot]
  | @exclusion other excludes =>
    have hsame : Excludes entry name ↔ name = other := by
      rw [Excludes, show Format.normalized entry = "!" ++ other from excludes,
        String.append_right_inj, eq_comm]
    simp [hsame]
  | inclusion includes =>
    have hnot : ¬Excludes entry name := fun h =>
      includes.unmarked name (includes.normalized.symm.trans h)
    simp [hnot]

theorem mem_included_iff (h : Adds filter entry filter') :
    name ∈ filter'.included ↔ name ∈ filter.included ∨ Includes entry name := by
  cases h with
  | nothing blank => simp [includes_iff, blank]
  | exclusion excludes => simp [includes_iff, isExclusion_iff.mpr ⟨_, excludes⟩]
  | @inclusion other includes =>
    have hsame : Includes entry name ↔ name = other := by
      rw [includes_iff, includes.normalized]
      simp [(includes_iff.mp includes).2, eq_comm]
    simp [hsame]

end Adds

/-! ## 3. What a list of entries means -/

/-- A name is in a list of a filter exactly if it was there at first, or some entry puts it
there. -/
theorem mem_foldl_add (entries : List String) (filter : FormatFilter) (name : String) :
    (name ∈ (entries.foldl add filter).excluded ↔
      name ∈ filter.excluded ∨ ∃ e ∈ entries, Excludes e name) ∧
    (name ∈ (entries.foldl add filter).included ↔
      name ∈ filter.included ∨ ∃ e ∈ entries, Includes e name) := by
  induction entries generalizing filter with
  | nil => simp
  | cons e entries ih =>
    obtain ⟨hexcluded, hincluded⟩ := ih (filter.add e)
    have hadds := adds_add filter e
    rw [List.foldl_cons, hexcluded, hincluded, hadds.mem_excluded_iff, hadds.mem_included_iff]
    simp [or_assoc]

variable {entries others : List String} {f : Format}

theorem mem_ofEntries (entries : List String) (name : String) :
    (name ∈ (ofEntries entries).excluded ↔ ∃ e ∈ entries, Excludes e name) ∧
      (name ∈ (ofEntries entries).included ↔ ∃ e ∈ entries, Includes e name) := by
  simpa [ofEntries, empty] using mem_foldl_add entries empty name

theorem exists_includes_iff {name : String} :
    (∃ e ∈ entries, Includes e name) ↔
      (name ≠ "" ∧ ∀ rest, name ≠ "!" ++ rest) ∧ ∃ e ∈ entries, Format.normalized e = name := by
  constructor
  · rintro ⟨e, he, hname⟩
    exact ⟨⟨hname.ne_empty, hname.unmarked⟩, e, he, hname.normalized⟩
  · rintro ⟨⟨hne, hunmarked⟩, e, he, hname⟩
    exact ⟨e, he, hname, hne, hunmarked⟩

theorem included_eq_nil_iff :
    (ofEntries entries).included = [] ↔ ∀ e ∈ entries, Blanks e.toList ∨ IsExclusion e := by
  simp only [List.eq_nil_iff_forall_not_mem, mem_ofEntries, includes_iff]
  constructor
  · intro h e he
    by_contra hne
    exact h _ ⟨e, he, rfl, hne⟩
  · rintro h name ⟨e, he, -, hne⟩
    exact hne (h e he)

/-- The name of a format can be included: it is neither empty nor marked. -/
theorem includes_name_iff {entry : String} :
    Includes entry f.name ↔ Format.normalized entry = f.name := by
  refine ⟨fun h => h.normalized, fun h => ⟨h, ?_, fun rest hmarked => ?_⟩⟩
  all_goals obtain ⟨c, cs, hname, hcased⟩ := f.exists_name_cons
  · intro hempty
    rw [hempty] at hname
    cases hname
  · rw [hmarked, toList_marked] at hname
    cases hname
    exact not_cased_mark hcased

theorem admits_iff :
    (ofEntries entries).admits f = true ↔
      (∀ e ∈ entries, Format.normalized e ≠ "!" ++ f.name) ∧
        ((∀ e ∈ entries, Blanks e.toList ∨ IsExclusion e) ∨
          ∃ e ∈ entries, Format.normalized e = f.name) := by
  obtain ⟨hexcluded, hincluded⟩ := mem_ofEntries entries f.name
  simp only [includes_name_iff, Excludes] at hexcluded hincluded
  rw [admits, Bool.and_eq_true, Bool.or_eq_true, Bool.not_eq_true', List.isEmpty_iff,
    included_eq_nil_iff, ← Bool.not_eq_true, List.contains_iff_mem, List.contains_iff_mem,
    hexcluded, hincluded]
  simp

/-- A filter knows its entries by their normal forms, and no empty one counts. -/
theorem admits_congr (h : ∀ text, text ≠ "" →
    ((∃ e ∈ others, Format.normalized e = text) ↔ ∃ e ∈ entries, Format.normalized e = text)) :
    (ofEntries others).admits f = (ofEntries entries).admits f := by
  have hexcluded (name : String) :
      name ∈ (ofEntries others).excluded ↔ name ∈ (ofEntries entries).excluded := by
    rw [(mem_ofEntries others name).1, (mem_ofEntries entries name).1]
    exact h _ (by simp)
  have hincluded (name : String) :
      name ∈ (ofEntries others).included ↔ name ∈ (ofEntries entries).included := by
    rw [(mem_ofEntries others name).2, (mem_ofEntries entries name).2, exists_includes_iff,
      exists_includes_iff]
    exact and_congr_right fun hplain => h name hplain.1
  have hempty : (ofEntries others).included = [] ↔ (ofEntries entries).included = [] := by
    simp only [List.eq_nil_iff_forall_not_mem, hincluded]
  rw [Bool.eq_iff_iff, admits, admits]
  simp only [Bool.and_eq_true, Bool.or_eq_true, Bool.not_eq_true', List.isEmpty_iff,
    ← Bool.not_eq_true, List.contains_iff_mem, hexcluded, hincluded, hempty]

theorem admits_of_same_entries (h : ∀ e, ¬Blanks e.toList → (e ∈ others ↔ e ∈ entries)) :
    (ofEntries others).admits f = (ofEntries entries).admits f := by
  refine admits_congr fun text hne => exists_congr fun e => and_congr_left fun he => h e ?_
  rwa [← Format.normalized_eq_empty_iff, he]

/-- An exclusion more admits no format more. -/
theorem admits_of_admits_insert {before after : List String} {e : String} (he : IsExclusion e)
    (h : (ofEntries (before ++ e :: after)).admits f = true) :
    (ofEntries (before ++ after)).admits f = true := by
  obtain ⟨hexcluded, hincluded⟩ := admits_iff.mp h
  have hmem {x : String} : x ∈ before ++ e :: after ↔ x = e ∨ x ∈ before ++ after := by
    rw [List.mem_append, List.mem_cons, List.mem_append, or_left_comm]
  refine admits_iff.mpr ⟨fun x hx => hexcluded x (hmem.mpr (.inr hx)), ?_⟩
  rcases hincluded with hnone | ⟨x, hx, hname⟩
  · exact .inl fun x hx => hnone x (hmem.mpr (.inr hx))
  · rcases hmem.mp hx with rfl | hx
    · -- An exclusion includes nothing.
      exact absurd (.inr he) (includes_iff.mp (includes_name_iff.mpr hname)).2
    · exact .inr ⟨x, hx, hname⟩

/-- **What a filter admits.**  It admits a format that no entry excludes, if nothing is included
or the format is.  So it depends on the set of the entries that are not blank: their order
does not matter, nor how often each of them stands there.  Another exclusion never
admits another format. -/
theorem admits_ofEntries (entries : List String) (f : Format) :
    ((ofEntries entries).admits f = true ↔
      (∀ e ∈ entries, Format.normalized e ≠ "!" ++ f.name) ∧
        ((∀ e ∈ entries, Blanks e.toList ∨ IsExclusion e) ∨
          ∃ e ∈ entries, Format.normalized e = f.name)) ∧
    (∀ others, (∀ e, ¬Blanks e.toList → (e ∈ others ↔ e ∈ entries)) →
      (ofEntries others).admits f = (ofEntries entries).admits f) ∧
    ∀ before e after, entries = before ++ after → IsExclusion e →
      (ofEntries (before ++ e :: after)).admits f = true →
        (ofEntries entries).admits f = true := by
  refine ⟨admits_iff, fun others => admits_of_same_entries, ?_⟩
  rintro before e after rfl he
  exact admits_of_admits_insert he

/-- Two filters that differ in order, in a repetition and in a blank entry; and another
exclusion. -/
theorem admits_ofEntries_of_reordered :
    let entries := [" Make", "!xcode", "scons"]
    let others := ["scons", "!xcode", " ", " Make", "!xcode"]
    (∀ e, ¬Blanks e.toList → (e ∈ others ↔ e ∈ entries)) ∧
      (ofEntries others).admits .make = (ofEntries entries).admits .make ∧
      IsExclusion " !MSVS" ∧
      (ofEntries [" Make", " !MSVS", "!xcode", "scons"]).admits .make = true ∧
      (ofEntries entries).admits .make = true := by
  intro entries others
  have hsame : ∀ e, ¬Blanks e.toList → (e ∈ others ↔ e ∈ entries) := by
    intro e he
    have hblank : e ≠ " " := by
      rintro rfl
      exact he (by decide)
    simp only [others, entries, List.mem_cons, List.not_mem_nil, or_false]
    grind
  have hmark : IsExclusion " !MSVS" := by decide
  have hmore : (ofEntries [" Make", " !MSVS", "!xcode", "scons"]).admits .make = true := by decide
  obtain ⟨-, hothers, hinsert⟩ := admits_ofEntries entries .make
  exact ⟨hsame, hothers others hsame, hmark, hmore,
    hinsert [" Make"] " !MSVS" ["!xcode", "scons"] rfl hmark hmore⟩

/-! ## 4. A filter and the parser of formats -/

theorem admits_inclusion_iff {n : String} (h : ¬(Blanks n.toList ∨ IsExclusion n)) :
    (ofEntries [n]).admits f = true ↔ Format.parse? n = some f := by
  have hmark : Format.normalized n ≠ "!" ++ f.name := fun hn =>
    h (.inr (isExclusion_iff.mpr ⟨_, hn⟩))
  rw [admits_iff, Format.parse?_eq_some_iff]
  simp [h, hmark]

theorem trimChars_marked (n : String) :
    Text.trimChars ("!" ++ n).toList = '!' :: Text.dropBlanksEnd n.toList := by
  rw [toList_marked, Text.trimChars_cons (by decide)]

theorem rejects_exclusion_iff {n : String} :
    (ofEntries ["!" ++ n]).admits f = false ↔ Excludes ("!" ++ n) f.name := by
  have hexclusion : IsExclusion ("!" ++ n) := by
    rw [IsExclusion, trimChars_marked, List.head?_cons]
  rw [← Bool.not_eq_true, admits_iff]
  simp [hexclusion, Excludes]

/-- After the mark of an exclusion a format is read, unless the text there begins with a blank. -/
theorem excludes_marked_iff {n : String} :
    Excludes ("!" ++ n) f.name ↔
      Format.parse? n = some f ∧ ∀ c ∈ n.toList.head?, Text.isBlank c = false := by
  have hmarked : Excludes ("!" ++ n) f.name ↔
      (Text.dropBlanksEnd n.toList).map Text.lowerChar = f.name.toList := by
    rw [excludes_iff, trimChars_marked]
    simp
  rw [hmarked, Format.parse?_eq_some_iff, ← String.toList_inj, Format.toList_normalized]
  constructor
  · intro h
    obtain ⟨c, rest, hname, hcased⟩ := f.exists_name_cons
    obtain ⟨back, -, hn, -⟩ := Text.exists_dropBlanksEnd n.toList
    obtain ⟨d, core, hcore, hlower, -⟩ := List.map_eq_cons_iff.mp (h.trans hname)
    have hhead : ∀ c ∈ n.toList.head?, Text.isBlank c = false := by
      rw [hn, hcore, List.cons_append, List.head?_cons]
      rintro _ ⟨⟩
      rw [← Text.isBlank_lowerChar, hlower, hcased.isBlank_eq]
    exact ⟨by rw [Text.trimChars_of_head hhead, h], hhead⟩
  · rintro ⟨h, hhead⟩
    rwa [Text.trimChars_of_head hhead] at h

/-- **A filter reads names as the parser does.**  A name that is included admits the format that
it is parsed as, whatever the case of its letters and the blanks around it.  So does a name that
is excluded reject it, except that there must be no blank between the mark and the name. -/
theorem admits_single (n : String) (f : Format) :
    (¬Blanks n.toList → ¬IsExclusion n →
      ((ofEntries [n]).admits f = true ↔ Format.parse? n = some f)) ∧
    ((ofEntries ["!" ++ n]).admits f = false ↔
      Format.parse? n = some f ∧ ∀ c ∈ n.toList.head?, Text.isBlank c = false) ∧
    ∀ front other back, Blanks front → Blanks back → Text.lowerName other = Text.lowerName n →
      (ofEntries [String.ofList front ++ other ++ String.ofList back]).admits f =
          (ofEntries [n]).admits f ∧
        (ofEntries [String.ofList front ++ ("!" ++ other) ++ String.ofList back]).admits f =
          (ofEntries ["!" ++ n]).admits f := by
  refine ⟨fun hblank hmark => admits_inclusion_iff (not_or.mpr ⟨hblank, hmark⟩),
    rejects_exclusion_iff.trans excludes_marked_iff, fun front other back hfront hback hlower => ?_⟩
  have hmarked : Text.lowerName ("!" ++ other) = Text.lowerName ("!" ++ n) := by
    rw [Text.lowerName_append, Text.lowerName_append, hlower]
  refine ⟨admits_congr fun text _ => ?_, admits_congr fun text _ => ?_⟩
  · simp [Format.normalized_around hfront hback hlower]
  · simp only [List.mem_singleton, exists_eq_left, Format.normalized_around hfront hback hmarked]

/-- A name in capital letters, with blanks around it. -/
theorem admits_single_of_capitals :
    ¬Blanks "scons".toList ∧ ¬IsExclusion "scons" ∧
      ((ofEntries ["scons"]).admits .scons = true ∧ (ofEntries ["!scons"]).admits .scons = false) ∧
      Blanks [' '] ∧ Blanks ['\t'] ∧ Text.lowerName "SCONS" = Text.lowerName "scons" ∧
      (ofEntries [" SCONS\t"]).admits .scons = true ∧
      (ofEntries [" !SCONS\t"]).admits .scons = false := by
  have hblank : ¬Blanks "scons".toList := by decide
  have hmark : ¬IsExclusion "scons" := by decide
  have hspace : Blanks [' '] := by decide
  have htab : Blanks ['\t'] := by decide
  have hlower : Text.lowerName "SCONS" = Text.lowerName "scons" := by decide
  obtain ⟨hadmits, hrejects, haround⟩ := admits_single "scons" .scons
  have hyes := (hadmits hblank hmark).mpr (Format.parse?_name .scons)
  have hhead : ∀ c ∈ "scons".toList.head?, Text.isBlank c = false := by
    rintro _ ⟨⟩
    decide
  have hno := hrejects.mpr ⟨Format.parse?_name .scons, hhead⟩
  obtain ⟨hsame, hsame'⟩ := haround [' '] "SCONS" ['\t'] hspace htab hlower
  exact ⟨hblank, hmark, ⟨hyes, hno⟩, hspace, htab, hlower, hsame.trans hyes, hsame'.trans hno⟩

/-- **A blank after the mark is taken for a part of the name.**  Not every name is read by an
exclusion as the parser reads it: ` make` is parsed, and `! make` excludes nothing. -/
theorem not_forall_rejects_parsed :
    ¬ ∀ (n : String) (f : Format), ¬Blanks n.toList → ¬IsExclusion n →
        ((ofEntries ["!" ++ n]).admits f = false ↔ Format.parse? n = some f) := by
  intro h
  have hrejects := (h " make" .make (by decide) (by decide)).mpr (by decide)
  exact absurd hrejects (by decide)

end FormatFilter

end CrossBuild
