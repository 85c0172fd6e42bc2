import CrossBuild.Proofs.Path.Parent

/-!
# Replacing the extension of a path

A file name divides at its last dot into a stem and an extension; a dot that it begins with does
not divide it (`Path.Divides`).  A path with another extension lies in the same directory and has
the same stem (`Path.isBeside_withExtension`), whatever is written in front of the file name.

There is one kind of path for which this fails.  The old extension is taken away first, and what
is left of a name like `..gyp` is a step up and no name, so it gets no other extension
(`Path.LosesName`).  A separator at the end of the path is enough to prevent this.
-/
namespace CrossBuild.Path

variable {p q : Path} {u word name stem ext cs : List Char} {e : String}

/-! ## 1. Stem and extension -/

/-- What follows the last dot of a file name, unless the name has no dot or none after its
first character. -/
def extensionOf? (name : List Char) : Option (List Char) :=
  match name.reverse.dropWhile (· != '.') with
  | [] | [_] => none
  | _ => some (name.reverse.takeWhile (· != '.')).reverse

/-- The file name of a path, without its extension. -/
def fileStem? (p : Path) : Option String :=
  p.fileName?.map fun name => String.ofList (stemOf name.toList)

/-- The extension of a path's file name. -/
def extension? (p : Path) : Option String :=
  p.fileName?.bind fun name => (extensionOf? name.toList).map String.ofList

/-- How a file name divides into its stem and its extension. -/
inductive Divides : List Char → List Char → Option (List Char) → Prop where
  /-- There is no dot after the first character. -/
  | whole {name : List Char} (h : '.' ∉ name.tail) : Divides name name none
  /-- The last dot divides the name. -/
  | atDot {stem ext : List Char} (hstem : stem ≠ []) (hext : '.' ∉ ext) :
      Divides (stem ++ '.' :: ext) stem (some ext)

theorem exists_divides (name : List Char) : ∃ stem ext?, Divides name stem ext? := by
  by_cases h : '.' ∈ name.tail
  · obtain ⟨after, before, hsplit, hafter⟩ :=
      List.eq_append_cons_of_mem (List.mem_reverse.mpr h)
    cases name with
    | nil => cases h
    | cons c tail =>
      have htail : tail = before.reverse ++ '.' :: after.reverse := by
        rw [← tail.reverse_reverse, show tail.reverse = _ from hsplit]
        simp
      have hstem : c :: before.reverse ≠ [] := List.cons_ne_nil _ _
      have hext : '.' ∉ after.reverse := fun hmem => hafter (List.mem_reverse.mp hmem)
      rw [htail]
      exact ⟨_, _, .atDot hstem hext⟩
  · exact ⟨name, none, .whole h⟩

/-- The last dot of a name, found from its end. -/
theorem reverse_dropWhile_dot (hext : '.' ∉ ext) :
    (stem ++ '.' :: ext).reverse.dropWhile (· != '.') = '.' :: stem.reverse ∧
      (stem ++ '.' :: ext).reverse.takeWhile (· != '.') = ext.reverse := by
  have hrun := Text.bne_of_mem_reverse hext
  rw [List.reverse_append, List.reverse_cons, List.append_assoc, List.singleton_append]
  exact ⟨Text.dropWhile_run hrun (by simp), Text.takeWhile_run hrun (by simp)⟩

theorem reverse_dropWhile_whole (h : '.' ∉ name.tail) :
    name.reverse.dropWhile (· != '.') = [] ∨ ∃ c, name.reverse.dropWhile (· != '.') = [c] := by
  cases name with
  | nil => exact .inl rfl
  | cons c tail =>
    have htail : '.' ∉ tail := h
    rw [List.reverse_cons, List.dropWhile_append_of_pos (Text.bne_of_mem_reverse htail)]
    by_cases hc : c = '.'
    · exact .inr ⟨c, by simp [hc]⟩
    · exact .inl (by simp [hc])

theorem Divides.stemOf_eq {ext? : Option (List Char)} (h : Divides name stem ext?) :
    stemOf name = stem := by
  cases h with
  | whole h =>
    unfold stemOf
    rcases reverse_dropWhile_whole h with hdrop | ⟨c, hdrop⟩ <;> rw [hdrop]
  | atDot hstem hext =>
    obtain ⟨c, rest, hrest⟩ := List.exists_cons_of_ne_nil (List.reverse_ne_nil_iff.mpr hstem)
    rw [stemOf, (reverse_dropWhile_dot hext).1, hrest]
    exact (congrArg List.reverse hrest).symm.trans stem.reverse_reverse

theorem Divides.extensionOf?_eq {ext? : Option (List Char)} (h : Divides name stem ext?) :
    extensionOf? name = ext? := by
  cases h with
  | whole h =>
    unfold extensionOf?
    rcases reverse_dropWhile_whole h with hdrop | ⟨c, hdrop⟩ <;> rw [hdrop]
  | atDot hstem hext =>
    obtain ⟨c, rest, hrest⟩ := List.exists_cons_of_ne_nil (List.reverse_ne_nil_iff.mpr hstem)
    obtain ⟨hdrop, htake⟩ := @reverse_dropWhile_dot stem _ hext
    rw [extensionOf?, hdrop, htake, hrest]
    exact congrArg some (List.reverse_reverse _)

/-- A file name divides in one way, and the stem and the extension are read off it. -/
theorem divides_iff {ext? : Option (List Char)} :
    Divides name stem ext? ↔ stemOf name = stem ∧ extensionOf? name = ext? := by
  constructor
  · exact fun h => ⟨h.stemOf_eq, h.extensionOf?_eq⟩
  · rintro ⟨rfl, rfl⟩
    obtain ⟨stem, ext?, h⟩ := exists_divides name
    rwa [h.stemOf_eq, h.extensionOf?_eq]

theorem Divides.stem_subset {ext? : Option (List Char)} (h : Divides name stem ext?) :
    stem ⊆ name := by
  cases h with
  | whole h => exact List.Subset.refl name
  | atDot hstem hext => exact List.subset_append_left _ _

theorem Divides.stem_ne_nil {ext? : Option (List Char)} (h : Divides name stem ext?)
    (hname : name ≠ []) : stem ≠ [] := by
  cases h with
  | whole h => exact hname
  | atDot hstem hext => exact hstem

/-! ## 2. The file name in a path -/

theorem fileName?_eq_some_iff {s : String} :
    p.fileName? = some s ↔ ∃ front, p.components = front ++ [.name s] := by
  rw [fileName?, ← List.getLast?_eq_some_iff]
  constructor
  · intro h
    split at h
    · rename_i hlast
      rw [hlast, Option.some.inj h]
    · cases h
  · intro h
    rw [h]

/-- A path with a file name ends with it, apart from what counts for nothing. -/
theorem exists_fileName {s : String} (h : p.fileName? = some s) :
    ∃ u, p.trimmedReverse.reverse = u ++ s.toList ∧ LastPart u s.toList (.name s) := by
  obtain ⟨front, hcomponents⟩ := fileName?_eq_some_iff.mp h
  obtain ⟨u, word, hsplit, hpart, -⟩ := exists_lastPart (.inr ⟨s, rfl⟩) hcomponents
  obtain ⟨rfl, -⟩ := innerComponent?_eq_name_iff.mp hpart.component
  rw [String.toList_ofList]
  exact ⟨u, hsplit, hpart⟩

/-- A file name stands below the parent. -/
theorem components_of_fileName? {s : String} {d : Path} (h : p.fileName? = some s)
    (hd : p.parent? = some d) : p.components = d.components ++ [.name s] := by
  obtain ⟨front, hcomponents⟩ := fileName?_eq_some_iff.mp h
  obtain ⟨d', hd', hfront⟩ := parent?_components hcomponents
  cases hd.symm.trans hd'
  rw [hcomponents, hfront]

/-- A path is its trimmed text, if that is no shorter. -/
theorem eq_trimmed (h : p.trimmedReverse.length = p.text.toList.length) :
    p = ofChars p.trimmedReverse.reverse := by
  rw [p.trimmedReverse_suffix.eq_of_length (h.trans List.length_reverse.symm),
    List.reverse_reverse, ofChars_toList]

theorem dropTrailing_of_isTrimmed {root : Nat} (h : IsTrimmed root cs) (n : Nat) :
    dropTrailing root n cs = cs := by
  cases n with
  | zero => rfl
  | succ n =>
    unfold dropTrailing
    split
    · rfl
    · rename_i hlen
      obtain ⟨hslash, hdot⟩ := h.resolve_left hlen
      split
      · exact absurd rfl (hslash _)
      · exact absurd rfl (hdot _)
      · rfl

namespace LastPart

variable {c : Component} {s : String}

theorem ne_nil (h : LastPart u word c) : word ≠ [] := by
  rintro rfl
  cases h.component

theorem ne_dot (h : LastPart u word c) : word ≠ ['.'] := by
  rintro rfl
  cases h.component

theorem isTrimmed (h : LastPart u word c) (root : Nat) : IsTrimmed root (u ++ word).reverse := by
  obtain ⟨before, x, hword⟩ := (List.eq_nil_or_concat word).resolve_left h.ne_nil
  rw [List.concat_eq_append] at hword
  have hrev : (u ++ word).reverse = x :: (before.reverse ++ u.reverse) := by
    rw [hword]
    simp
  have hx : x ≠ '/' := by
    rintro rfl
    exact h.not_separator (by simp [hword, separator])
  refine .inr ⟨fun rest heq => ?_, fun rest heq => ?_⟩
  · rw [hrev] at heq
    exact hx (List.cons.inj heq).1
  · rw [hrev] at heq
    obtain ⟨rfl, htail⟩ := List.cons.inj heq
    rcases List.eq_nil_or_concat before with rfl | ⟨before', y, rfl⟩
    · exact h.ne_dot hword
    · have hy : y = '/' := by
        simp only [List.concat_eq_append, List.reverse_append, List.reverse_singleton,
          List.cons_append] at htail
        exact (List.cons.inj htail).1
      exact h.not_separator (by simp [hword, hy, separator])

/-- Nothing is dropped behind the last part. -/
theorem trimmedReverse (h : LastPart u word c) :
    (ofChars (u ++ word)).trimmedReverse = (u ++ word).reverse := by
  rw [Path.trimmedReverse, toList_ofChars]
  exact dropTrailing_of_isTrimmed (h.isTrimmed _) _

theorem split (h : LastPart u word c) :
    (ofChars (u ++ word)).trimmedReverse.reverse = u ++ word := by
  rw [h.trimmedReverse, List.reverse_reverse]

theorem fileName? (h : LastPart u word (.name s)) : (ofChars (u ++ word)).fileName? = some s :=
  fileName?_eq_some_iff.mpr ⟨_, h.components⟩

end LastPart

/-! ## 3. Taking the extension away -/

/-- A text that can be the extension of a file name. -/
structure IsExtension (ext : List Char) : Prop where
  ne_nil : ext ≠ []
  not_dot : '.' ∉ ext
  not_separator : separator ∉ ext

/-- A stem with a dot behind it is a name, if it is not the two dots of a step up. -/
theorem innerComponent?_dotted (hstem : stem ≠ []) (h : stem ≠ ['.'] ∨ ext ≠ []) :
    innerComponent? (String.ofList (stem ++ '.' :: ext)) =
      some (.name (String.ofList (stem ++ '.' :: ext))) := by
  have hne {cs : List Char} {t : String} (ht : t.toList = cs) (hcs : stem ++ '.' :: ext ≠ cs) :
      String.ofList (stem ++ '.' :: ext) ≠ t := by
    rintro rfl
    exact hcs (by rw [← ht, String.toList_ofList])
  obtain ⟨c, rest, rfl⟩ := List.exists_cons_of_ne_nil hstem
  refine innerComponent?_eq_name_iff.mpr ⟨rfl, hne rfl (by simp), hne rfl (by simp), hne rfl ?_⟩
  intro hup
  obtain ⟨rfl, htail⟩ := List.cons.inj hup
  cases rest with
  | nil =>
    obtain ⟨-, rfl⟩ := List.cons.inj htail
    rcases h with h | h <;> exact h rfl
  | cons d rest => simp at htail

theorem LastPart.dotted (hu : IsFront u) (hne : stem ≠ []) (hstem : separator ∉ stem)
    (hext : separator ∉ ext) (h : stem ≠ ['.'] ∨ ext ≠ []) :
    LastPart u (stem ++ '.' :: ext) (.name (String.ofList (stem ++ '.' :: ext))) := by
  have hdot : separator ≠ '.' := by decide
  exact ⟨hu, by simp [hstem, hdot, hext], innerComponent?_dotted hne h⟩

/-- The text up to the dot before the extension. -/
theorem LastPart.cutExtension (h : LastPart u word (.name (String.ofList word))) :
    (ofChars (u ++ word)).cutExtension =
      ofChars ((u ++ word).take ((u ++ word).length - (word.length - (stemOf word).length - 1))) := by
  rw [Path.cutExtension, h.fileName?, h.trimmedReverse]
  simp only [toList_ofChars, List.length_reverse, String.toList_ofList, if_true]
  rfl

theorem cutExtension_of_whole (hname : '.' ∉ name.tail)
    (h : LastPart u name (.name (String.ofList name))) :
    (ofChars (u ++ name)).cutExtension = ofChars (u ++ name) := by
  rw [h.cutExtension, (Divides.whole hname).stemOf_eq, Nat.sub_self, Nat.zero_sub, Nat.sub_zero,
    List.take_length]

theorem cutExtension_of_atDot (hstem : stem ≠ []) (hext : '.' ∉ ext)
    (h : LastPart u (stem ++ '.' :: ext) (.name (String.ofList (stem ++ '.' :: ext)))) :
    (ofChars (u ++ (stem ++ '.' :: ext))).cutExtension = ofChars (u ++ (stem ++ ['.'])) := by
  have htext : u ++ (stem ++ '.' :: ext) = u ++ (stem ++ ['.']) ++ ext := by simp
  have hlength : (u ++ (stem ++ '.' :: ext)).length -
      ((stem ++ '.' :: ext).length - stem.length - 1) = (u ++ (stem ++ ['.'])).length := by
    simp only [List.length_append, List.length_cons, List.length_nil]
    omega
  rw [h.cutExtension, (Divides.atDot hstem hext).stemOf_eq, hlength, htext, List.take_left]

/-- If the stem is no single dot, the last part is still a name without its extension. -/
theorem LastPart.exists_cut (h : LastPart u word (.name (String.ofList word)))
    (hdot : stemOf word ≠ ['.']) :
    ∃ left, (ofChars (u ++ word)).cutExtension = ofChars (u ++ left) ∧
      LastPart u left (.name (String.ofList left)) ∧ stemOf left = stemOf word := by
  obtain ⟨stem, ext?, hdivides⟩ := exists_divides word
  rw [hdivides.stemOf_eq] at hdot ⊢
  cases hdivides with
  | whole hname => exact ⟨word, cutExtension_of_whole hname h, h, (Divides.whole hname).stemOf_eq⟩
  | atDot hne hext =>
    -- The stem keeps its dot for now.
    have hstem : separator ∉ stem := fun hmem =>
      h.not_separator (List.mem_append_left _ hmem)
    exact ⟨stem ++ ['.'], cutExtension_of_atDot hne hext h,
      .dotted h.edge hne hstem List.not_mem_nil (.inl hdot),
      (Divides.atDot hne List.not_mem_nil).stemOf_eq⟩

/-! ## 4. Putting another one there -/

/-- Once the old extension is away, the new one is put behind the stem that is left. -/
theorem withExtension_of_cut (hcut : p.cutExtension = q) {s : String} (hname : q.fileName? = some s)
    (hsplit : q.trimmedReverse.reverse = u ++ s.toList) :
    p.withExtension e = ofChars (u ++ (stemOf s.toList ++ '.' :: e.toList)) := by
  have hdirectory : (q.trimmedReverse.drop s.toList.length).reverse = u := by
    rw [← q.trimmedReverse.reverse_reverse, hsplit, List.reverse_append, List.drop_left' (by simp),
      List.reverse_reverse]
  -- The body is put in by `delta`: its equation is slow to derive, over the match on a file name.
  delta withExtension
  simp only [hcut, hname, hdirectory, List.append_assoc]
  rfl

/-- A name that ends the path and has a stem of its own is edited where it stands. -/
theorem LastPart.withExtension (h : LastPart u word (.name (String.ofList word)))
    (hdot : stemOf word ≠ ['.']) :
    (ofChars (u ++ word)).withExtension e = ofChars (u ++ (stemOf word ++ '.' :: e.toList)) := by
  obtain ⟨left, hcut, hleft, hstem⟩ := h.exists_cut hdot
  have hresult := withExtension_of_cut (e := e) hcut hleft.fileName?
    (by rw [hleft.split, String.toList_ofList])
  rwa [String.toList_ofList, hstem] at hresult

/-- A path that ends with two dots and an extension.  Without the extension nothing is left of
its file name but a step up. -/
def LosesName (p : Path) : Prop :=
  ∃ u ext, p = ofChars (u ++ '.' :: '.' :: ext) ∧ IsFront u ∧ IsExtension ext

theorem IsExtension.bareDots (hext : IsExtension ext) (hu : IsFront u) :
    LastPart u ('.' :: '.' :: ext) (.name (String.ofList ('.' :: '.' :: ext))) :=
  .dotted hu (List.cons_ne_nil '.' []) (by decide) hext.not_separator (.inr hext.ne_nil)

theorem IsFront.stepUp (hu : IsFront u) : LastPart u ['.', '.'] .up :=
  ⟨hu, by decide, rfl⟩

theorem IsFront.fileName?_stepUp (hu : IsFront u) : (ofChars (u ++ ['.', '.'])).fileName? = none := by
  rw [fileName?, hu.stepUp.components, List.getLast?_concat]

/-- The names that are lost are those with a dot as their stem, at the very end of the path. -/
theorem losesName_iff {s : String} (hname : p.fileName? = some s) :
    p.LosesName ↔
      stemOf s.toList = ['.'] ∧ p.trimmedReverse.length = p.text.toList.length := by
  constructor
  · rintro ⟨u, ext, rfl, hu, hext⟩
    have hpart := hext.bareDots hu
    cases hpart.fileName?.symm.trans hname
    refine ⟨?_, ?_⟩
    · rw [String.toList_ofList]
      exact (Divides.atDot (List.cons_ne_nil '.' []) hext.not_dot).stemOf_eq
    · rw [hpart.trimmedReverse, toList_ofChars, List.length_reverse]
  · rintro ⟨hstem, hlength⟩
    obtain ⟨u, hsplit, hpart⟩ := exists_fileName hname
    have htext : p = ofChars (u ++ s.toList) := hsplit ▸ eq_trimmed hlength
    obtain ⟨stem, ext?, hdivides⟩ := exists_divides s.toList
    obtain rfl : stem = ['.'] := hdivides.stemOf_eq.symm.trans hstem
    generalize hword : s.toList = word at *
    cases hdivides with
    | whole h => exact absurd rfl hpart.ne_dot
    | @atDot _ ext _ hext =>
      refine ⟨u, ext, htext, hpart.edge, ?_, hext, ?_⟩
      · rintro rfl
        have hup := (innerComponent?_eq_name_iff.mp hpart.component).2.2.2
        exact hup (String.toList_inj.mp hword)
      · exact fun hmem => hpart.not_separator (by simp [hmem])

/-- A path that loses its name ends with the step up that is left of it. -/
theorem withExtension_of_losesName (hu : IsFront u) (hext : IsExtension ext) :
    (ofChars (u ++ '.' :: '.' :: ext)).withExtension e = ofChars (u ++ ['.', '.']) := by
  have hcut := @cutExtension_of_atDot u ['.'] ext (List.cons_ne_nil '.' []) hext.not_dot
  rw [List.singleton_append, List.singleton_append] at hcut
  delta withExtension
  simp only [hcut (hext.bareDots hu), hu.fileName?_stepUp]

/-- Every other file name keeps its stem, and the path what is written in front of it. -/
theorem withExtension_of_not_losesName {s : String} (hname : p.fileName? = some s)
    (hsplit : p.trimmedReverse.reverse = u ++ s.toList) (hpart : LastPart u s.toList (.name s))
    (hlose : ¬p.LosesName) :
    p.withExtension e = ofChars (u ++ (stemOf s.toList ++ '.' :: e.toList)) := by
  by_cases hlength : p.trimmedReverse.length = p.text.toList.length
  · have htext : p = ofChars (u ++ s.toList) := hsplit ▸ eq_trimmed hlength
    have hdot : stemOf s.toList ≠ ['.'] := fun hdot =>
      hlose ((losesName_iff hname).mpr ⟨hdot, hlength⟩)
    rw [htext]
    exact LastPart.withExtension (by rwa [String.ofList_toList]) hdot
  · -- What follows the name keeps the extension from being cut.
    refine withExtension_of_cut ?_ hname hsplit
    rw [cutExtension, hname]
    exact if_neg hlength

/-! ## 5. The file beside a project -/

/-- A file beside another one: in the same directory, with the same stem and an extension of
its own. -/
structure IsBeside (file project : Path) (extension : String) : Prop where
  parent : file.parent? = project.parent?
  stem : file.fileStem? = project.fileStem?
  extension : file.extension? = some extension

/-- The new name divides where the extension was put. -/
theorem divides_withExtension (hname : name ≠ []) (he : IsExtension ext) :
    Divides (stemOf name ++ '.' :: ext) (stemOf name) (some ext) := by
  obtain ⟨stem, ext?, hdivides⟩ := exists_divides name
  rw [hdivides.stemOf_eq]
  exact .atDot (hdivides.stem_ne_nil hname) he.not_dot

theorem lastPart_withExtension {s : String} (hpart : LastPart u s.toList (.name s))
    (he : IsExtension ext) :
    LastPart u (stemOf s.toList ++ '.' :: ext)
      (.name (String.ofList (stemOf s.toList ++ '.' :: ext))) := by
  obtain ⟨stem, ext?, hdivides⟩ := exists_divides s.toList
  rw [hdivides.stemOf_eq]
  have hstem : separator ∉ stem := fun hmem => hpart.not_separator (hdivides.stem_subset hmem)
  exact .dotted hpart.edge (hdivides.stem_ne_nil hpart.ne_nil) hstem he.not_separator
    (.inr he.ne_nil)

variable {s t : String} {d : Path}

/-- **Another extension.**  A path with a file name gets the extension, stays in its directory and
keeps its stem. -/
theorem isBeside_withExtension (hname : p.fileName? = some s) (hlose : ¬p.LosesName)
    (he : IsExtension e.toList) : (p.withExtension e).IsBeside p e := by
  obtain ⟨u, hsplit, hpart⟩ := exists_fileName hname
  have hnew := lastPart_withExtension hpart he
  have hdivides := divides_withExtension hpart.ne_nil he
  rw [withExtension_of_not_losesName hname hsplit hpart hlose]
  constructor
  case parent =>
    rw [parent?_of_lastPart hsplit hpart, parent?_of_lastPart hnew.split hnew]
  case stem =>
    rw [fileStem?, fileStem?, hnew.fileName?, hname, Option.map_some, Option.map_some,
      String.toList_ofList, hdivides.stemOf_eq]
  case extension =>
    rw [extension?, hnew.fileName?, Option.bind_some, String.toList_ofList,
      hdivides.extensionOf?_eq, Option.map_some, String.ofList_toList]

theorem fileName?_withExtension_of_losesName (h : p.LosesName) :
    (p.withExtension e).fileName? = none := by
  obtain ⟨u, ext, rfl, hu, hext⟩ := h
  rw [withExtension_of_losesName hu hext, hu.fileName?_stepUp]

/-- A path that has a file name gets a file beside it exactly if it does not lose the name. -/
theorem isBeside_withExtension_iff (hname : p.fileName? = some s) (he : IsExtension e.toList) :
    (p.withExtension e).IsBeside p e ↔ ¬p.LosesName := by
  constructor
  · intro hbeside hlose
    have hextension := hbeside.extension
    rw [extension?, fileName?_withExtension_of_losesName hlose] at hextension
    cases hextension
  · exact fun hlose => isBeside_withExtension hname hlose he

/-! ## 6. Two projects in one directory -/

/-- The components of the file beside a project. -/
theorem components_withExtension (hname : p.fileName? = some s) (hd : p.parent? = some d)
    (hlose : ¬p.LosesName) (he : IsExtension e.toList) :
    (p.withExtension e).components =
      d.components ++ [.name (String.ofList (stemOf s.toList ++ '.' :: e.toList))] := by
  obtain ⟨u, hsplit, hpart⟩ := exists_fileName hname
  have hparent := (isBeside_withExtension hname hlose he).parent.trans hd
  rw [withExtension_of_not_losesName hname hsplit hpart hlose] at hparent ⊢
  exact components_of_fileName? (lastPart_withExtension hpart he).fileName? hparent

theorem components_withExtension_of_losesName (hd : p.parent? = some d) (hlose : p.LosesName) :
    (p.withExtension e).components = d.components ++ [.up] := by
  obtain ⟨u, ext, rfl, hu, hext⟩ := hlose
  have hpart := hext.bareDots hu
  have hfront := components_of_fileName? hpart.fileName? hd
  rw [hpart.components] at hfront
  rw [withExtension_of_losesName hu hext, hu.stepUp.components, (List.append_inj' hfront rfl).1]

theorem fileStem?_of_losesName (h : p.LosesName) : p.fileStem? = some "." := by
  obtain ⟨u, ext, rfl, hu, hext⟩ := h
  have hname := (hext.bareDots hu).fileName?
  rw [fileStem?, hname, Option.map_some, ((losesName_iff hname).mp ⟨u, ext, rfl, hu, hext⟩).1]

/-- **Two projects in one directory** have the same file exactly if they have the same stem, and
both or none of them loses its name. -/
theorem components_withExtension_eq_iff (hp : p.fileName? = some s) (hq : q.fileName? = some t)
    (hdirectory : p.parent?.map components = q.parent?.map components)
    (he : IsExtension e.toList) :
    (p.withExtension e).components = (q.withExtension e).components ↔
      p.fileStem? = q.fileStem? ∧ (p.LosesName ↔ q.LosesName) := by
  obtain ⟨front, hfront⟩ := fileName?_eq_some_iff.mp hp
  obtain ⟨front', hfront'⟩ := fileName?_eq_some_iff.mp hq
  obtain ⟨d, hd, -⟩ := parent?_components hfront
  obtain ⟨d', hd', -⟩ := parent?_components hfront'
  rw [hd, hd'] at hdirectory
  have hsame : d.components = d'.components := Option.some.inj hdirectory
  have hapart (name : String) : d'.components ++ [.up] ≠ d'.components ++ [.name name] := by
    simp
  by_cases hplose : p.LosesName
  · rw [components_withExtension_of_losesName hd hplose, hsame, fileStem?_of_losesName hplose]
    by_cases hqlose : q.LosesName
    · rw [components_withExtension_of_losesName hd' hqlose, fileStem?_of_losesName hqlose]
      exact iff_of_true rfl ⟨rfl, iff_of_true hplose hqlose⟩
    · rw [components_withExtension hq hd' hqlose he]
      exact iff_of_false (hapart _) fun h => hqlose (h.2.mp hplose)
  · rw [components_withExtension hp hd hplose he, hsame]
    by_cases hqlose : q.LosesName
    · rw [components_withExtension_of_losesName hd' hqlose]
      exact iff_of_false (hapart _).symm fun h => hplose (h.2.mpr hqlose)
    · rw [components_withExtension hq hd' hqlose he]
      simp [hplose, hqlose, fileStem?, hp, hq]

end CrossBuild.Path
