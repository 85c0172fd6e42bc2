import CrossBuild.Proofs.Backend.Selection
import CrossBuild.Proofs.Path.Components
import CrossBuild.Proofs.Text.Cut

/-!
# The generation of a driver

The generation of a release goes by its year, and that of a driver that nobody named a release
for is read off its path: it is the generation of the newest release whose place below a
root occurs in the text.  The two agree on the driver of a release
(`inferGeneration_pathUnder`), because the place of no other release can occur there.
It would begin with the name of the product.  That name is not in the root, it cannot reach
over the separator after it, and below the root it stands at the beginning only; what
follows it up to the next separator tells the releases apart.

So it does not matter by which way the search came to a driver (`generation_eq_of_path`).
-/
namespace CrossBuild.VisualStudio

open CrossBuild.Path (separator)

namespace Release

/-! ## 1. The folders of releases -/

/-- What the folder of every release begins with. -/
def product : String := "Microsoft Visual Studio"

variable {r s : Release} {root : Path}

theorem exists_folder (hr : r ∈ known) : ∃ number, r.folder = product ++ number ∧
    'M' ∉ number.toList ∧ separator ∉ number.toList := by
  simp only [known, List.mem_cons, List.not_mem_nil, or_false] at hr
  rcases hr with rfl | rfl | rfl | rfl | rfl
  · exact ⟨" 12.0", rfl, by decide, by decide⟩
  · exact ⟨" 11.0", rfl, by decide, by decide⟩
  · exact ⟨" 10.0", rfl, by decide, by decide⟩
  · exact ⟨" 9.0", rfl, by decide, by decide⟩
  · exact ⟨" 8", rfl, by decide, by decide⟩

theorem eq_of_folder : ∀ r ∈ known, ∀ s ∈ known, s.folder = r.folder → s = r := by
  decide

theorem separator_notMem_folder (hr : r ∈ known) : separator ∉ r.folder.toList := by
  obtain ⟨number, hfolder, -, hnumber⟩ := exists_folder hr
  have hproduct : separator ∉ product.toList := by decide
  simp [hfolder, hproduct, hnumber]

/-- No letter of a folder but its first one begins the name of the product. -/
theorem exists_folder_cons (hr : r ∈ known) :
    ∃ rest, r.folder.toList = 'M' :: rest ∧ 'M' ∉ rest := by
  obtain ⟨number, hfolder, hnumber, -⟩ := exists_folder hr
  obtain ⟨rest, hproduct, hrest⟩ : ∃ rest, product.toList = 'M' :: rest ∧ 'M' ∉ rest :=
    ⟨_, rfl, by decide⟩
  exact ⟨rest ++ number.toList, by simp [hfolder, hproduct], by simp [hrest, hnumber]⟩

theorem below_folder (hr : r ∈ known) : (Path.mk r.folder).below = [.name r.folder] := by
  obtain ⟨rest, hcons, -⟩ := exists_folder_cons hr
  have hsegments : (Path.mk r.folder).segments = [r.folder] := by
    rw [Path.segments, Text.splitOn,
      Text.splitAfter_of_not_mem separator (separator_notMem_folder hr)]
    simp
  have hname : Path.innerComponent? r.folder = some (.name r.folder) := by
    rw [Path.innerComponent?_eq_name_iff]
    refine ⟨rfl, ?_, ?_, ?_⟩ <;> intro h <;> rw [h] at hcons <;> cases hcons
  rw [Path.below, hsegments, List.filterMap_cons_some hname, List.filterMap_nil]

theorem isAbsolute_folder (hr : r ∈ known) : (Path.mk r.folder).isAbsolute = false := by
  obtain ⟨rest, hcons, -⟩ := exists_folder_cons hr
  rw [Path.isAbsolute, hcons]
  rfl

/-! ## 2. The place of a driver -/

/-- The place of the driver in the folder of a release. -/
def driverPlace : Path := ⟨"Common7/IDE/devenv.com"⟩

theorem relativePath_eq_join (r : Release) :
    r.relativePath = (Path.mk r.folder).join driverPlace := by
  have hplace : ((Path.mk "Common7").join ⟨"IDE"⟩).join ⟨driverName⟩ = driverPlace := by decide
  rw [← hplace]
  simp only [relativePath, relativeParts, Path.joinAll, List.foldl_cons, List.foldl_nil,
    Path.join_of_empty, Path.join_assoc]

theorem pathUnder_eq_join (r : Release) (root : Path) :
    r.pathUnder root = root.join r.relativePath := by
  simp only [pathUnder, relativePath, relativeParts, Path.joinAll, List.foldl_cons, List.foldl_nil,
    Path.join_of_empty, Path.join_assoc]

theorem isAbsolute_relativePath (hr : r ∈ known) : r.relativePath.isAbsolute = false := by
  have hplace : driverPlace.isAbsolute = false := by decide
  rw [relativePath_eq_join, Path.isAbsolute_join, isAbsolute_folder hr, hplace, Bool.or_false]

theorem toList_relativePath (hr : r ∈ known) :
    r.relativePath.text.toList = r.folder.toList ++ separator :: driverPlace.text.toList := by
  obtain ⟨rest, hcons, -⟩ := exists_folder_cons hr
  have hplace : driverPlace.isAbsolute = false := by decide
  have hnonempty : r.folder ≠ "" := by
    intro h
    rw [h] at hcons
    cases hcons
  have hlast : r.folder.toList.getLast? ≠ some separator := fun h =>
    separator_notMem_folder hr (List.mem_of_getLast? h)
  simp [relativePath_eq_join, Path.join, hplace, hnonempty, hlast]

/-- What stands in front of a release's place in the path of its driver: nothing, or a part of the
root and a separator. -/
theorem toList_pathUnder (hr : r ∈ known) (root : Path) :
    (r.pathUnder root).text.toList = r.relativePath.text.toList ∨
      ∃ front, front <+: root.text.toList ∧
        (r.pathUnder root).text.toList = front ++ separator :: r.relativePath.text.toList := by
  rw [pathUnder_eq_join]
  by_cases hroot : root.text = ""
  · obtain ⟨text⟩ := root
    cases hroot
    rw [Path.join_of_empty]
    exact .inl rfl
  · obtain ⟨front, hfront, hjoin⟩ := Path.exists_join hroot
    refine .inr ⟨front, ?_, by rw [hjoin _ (isAbsolute_relativePath hr), Path.toList_ofChars]⟩
    rcases hfront with ⟨rfl, -⟩ | rfl <;> simp

/-- The path of a driver names its release by the last four of its components. -/
theorem eq_of_pathUnder_eq {root' : Path} (hr : r ∈ known) (hs : s ∈ known)
    (h : s.pathUnder root' = r.pathUnder root) : s = r := by
  have hplace : driverPlace.isAbsolute = false := by decide
  have hbelow (t : Release) (ht : t ∈ known) (base : Path) :
      (t.pathUnder base).below = base.below ++ .name t.folder :: driverPlace.below := by
    rw [pathUnder_eq_join, Path.below_join _ (isAbsolute_relativePath ht), relativePath_eq_join,
      Path.below_join _ hplace, below_folder ht, List.singleton_append]
  have hsame := congrArg Path.below h
  rw [hbelow s hs, hbelow r hr] at hsame
  have hlast := (List.append_inj' hsame (List.length_cons.trans List.length_cons.symm)).2
  exact eq_of_folder r hr s hs (Path.Component.name.inj (List.cons.inj hlast).1)

/-! ## 3. Places in the path of a driver -/

theorem eq_of_relativePath_prefix (hr : r ∈ known) (hs : s ∈ known)
    (h : s.relativePath.text.toList <+: r.relativePath.text.toList) : s = r := by
  obtain ⟨rest, h⟩ := h
  rw [toList_relativePath hs, toList_relativePath hr, List.append_assoc, List.cons_append] at h
  have hname (t : Release) (ht : t ∈ known) : ∀ c ∈ t.folder.toList, (c != separator) = true :=
    fun c hc => bne_iff_ne.mpr fun heq => separator_notMem_folder ht (heq ▸ hc)
  have hends (cs : List Char) : ∀ c ∈ (separator :: cs).head?, (c != separator) = false := by
    simp
  obtain ⟨hfolder, -⟩ := Text.run_unique (hname s hs) (hname r hr) (hends _) (hends _) h
  exact eq_of_folder r hr s hs (String.toList_inj.mp hfolder)

/-- The place of a release occurs in another one only at its start: both begin with a letter that
is in neither of them again. -/
theorem eq_nil_of_relativePath_occurs {before after : List Char} (hr : r ∈ known) (hs : s ∈ known)
    (h : before ++ (s.relativePath.text.toList ++ after) = r.relativePath.text.toList) :
    before = [] := by
  obtain ⟨rest, hcons, hrest⟩ := exists_folder_cons hr
  obtain ⟨rest', hcons', -⟩ := exists_folder_cons hs
  have hplace : 'M' ∉ driverPlace.text.toList := by decide
  rw [toList_relativePath hs, toList_relativePath hr, hcons, hcons'] at h
  cases before with
  | nil => rfl
  | cons c before =>
    simp only [List.cons_append, List.cons.injEq] at h
    have hmem : 'M' ∈ rest ++ separator :: driverPlace.text.toList := by simp [← h.2]
    have hseparator : 'M' ≠ separator := by decide
    simp [hrest, hplace, hseparator] at hmem

/-- Of the places of all releases only its own occurs in the path of a driver. -/
theorem relativePath_infix_pathUnder_iff (hr : r ∈ known) (hs : s ∈ known)
    (hroot : ¬product.toList <:+: root.text.toList) :
    s.relativePath.text.toList <:+: (r.pathUnder root).text.toList ↔ s = r := by
  constructor
  · intro ⟨before, after, h⟩
    rw [List.append_assoc] at h
    obtain ⟨before, h⟩ : ∃ before,
        before ++ (s.relativePath.text.toList ++ after) = r.relativePath.text.toList := by
      rcases toList_pathUnder hr root with hpath | ⟨front, hfront, hpath⟩
      · exact ⟨before, h.trans hpath⟩
      · -- The separator behind the root is in front of the occurrence, or else the name of the
        -- product is cut by it, or in the root.
        rcases Text.append_cons_eq_append_iff.mp (hpath.symm.trans h.symm) with
          ⟨between, -, h⟩ | ⟨begun, hfront', h⟩
        · exact ⟨between, h.symm⟩
        · obtain ⟨number, hfolder, -, -⟩ := exists_folder hs
          have hplace : s.relativePath.text.toList ++ after = product.toList ++
              (number.toList ++ separator :: (driverPlace.text.toList ++ after)) := by
            rw [toList_relativePath hs, hfolder]
            simp
          rw [hplace] at h
          rcases Text.append_cons_eq_append_iff.mp h with ⟨_, hcut, -⟩ | ⟨rest, rfl, -⟩
          · have hproduct : separator ∉ product.toList := by decide
            rw [hcut] at hproduct
            exact absurd (by simp) hproduct
          · refine absurd (List.IsInfix.trans ⟨before, rest, ?_⟩ hfront.isInfix) hroot
            rw [hfront', List.append_assoc]
    rw [eq_nil_of_relativePath_occurs hr hs h, List.nil_append] at h
    exact eq_of_relativePath_prefix hr hs ⟨after, h⟩
  · intro hsame
    subst hsame
    rcases toList_pathUnder hs root with hpath | ⟨front, -, hpath⟩
    · exact ⟨[], [], by simp [hpath]⟩
    · exact ⟨front ++ [separator], [], by simp [hpath]⟩

end Release

/-! ## 4. Generations -/

variable {r : Release} {root : Path}

/-- What is read off the path of a release's driver is the generation of the release. -/
theorem inferGeneration_pathUnder (hr : r ∈ Release.known)
    (hroot : ¬Release.product.toList <:+: root.text.toList) :
    inferGeneration (r.pathUnder root) = r.generation := by
  have hoccurs (s : Release) (hs : s ∈ Release.known) :
      Text.contains (r.pathUnder root).text s.relativePath.text = true ↔ s = r := by
    rw [Text.contains, Text.occursIn_eq_true_iff]
    exact Release.relativePath_infix_pathUnder_iff hr hs hroot
  rw [inferGeneration]
  split
  · rename_i s hfound
    have hs : s ∈ Release.known := List.mem_of_find?_eq_some hfound
    have hcontains : Text.contains (r.pathUnder root).text s.relativePath.text = true := by
      simpa using List.find?_some hfound
    rw [(hoccurs s hs).mp hcontains]
  · rename_i hnone
    exact absurd ((hoccurs r hr).mpr rfl) (List.find?_eq_none.mp hnone r hr)

/-- Whichever way a search came to the driver of a release, its generation is the one that the
release has. -/
theorem Discovery.Chosen.generation_eq {d : Discovery} {m : Machine} {s : Selection}
    (h : d.Chosen m s) (hr : r ∈ Release.known)
    (hroot : ¬Release.product.toList <:+: root.text.toList)
    (hpath : s.resolution.path? = some (r.pathUnder root)) : s.generation = r.generation := by
  -- A pinned or probed release is `r` itself, since its driver is at the end of the same path.
  have hsame {s : Release} {path : Path} (hs : s ∈ Release.known) (hdriver : d.Driver m s path)
      (hpath : path = r.pathUnder root) : s.generation = r.generation := by
    obtain ⟨root', -, rfl⟩ := hdriver
    rw [Release.eq_of_pathUnder_eq hr hs hpath]
  cases h with
  | pinned release =>
    obtain ⟨⟨hs, -⟩, hdriver⟩ := pinned?_eq_some_iff.mp release
    exact hsame hs hdriver (Option.some.inj hpath)
  | found =>
    exact (congrArg inferGeneration (Option.some.inj hpath)).trans
      (inferGeneration_pathUnder hr hroot)
  | probed _ _ release =>
    obtain ⟨⟨hs, -, -⟩, hdriver⟩ := probed?_eq_some_iff.mp release
    exact hsame hs hdriver (Option.some.inj hpath)
  | notFound => cases hpath

/-- **A driver has one generation.**  Below a root that does not have the name of the product in
it, the generation read off the path of a release's driver is the one that the release has.
So every search that finds this driver gives it this generation, whether it is pinned,
probed, configured or on the search path, and so has the backend that is set up with it. -/
theorem generation_eq_of_path (hr : r ∈ Release.known)
    (hroot : ¬"Microsoft Visual Studio".toList <:+: root.text.toList) :
    inferGeneration (r.pathUnder root) = r.generation ∧
      (∀ (d : Discovery) (m : Machine), (d.run m).1.resolution.path? = some (r.pathUnder root) →
        (d.run m).1.generation = r.generation) ∧
      ∀ (locator : Locator) (settings : Settings) (m : Machine) (b : Backend),
        (m.perform (Backend.select .msvs locator settings)).1 = .ok b →
        b.tool.path? = some (r.pathUnder root) → b.generation? = some r.generation := by
  refine ⟨inferGeneration_pathUnder hr hroot, fun d m hpath => ?_,
    fun locator settings m b hselect hpath => ?_⟩
  · rw [d.run_eq] at hpath ⊢
    exact (d.chosen_outcome m).generation_eq hr hroot hpath
  · have hselected := Backend.selected_msvs locator settings m
    rw [Backend.selected, hselect] at hselected
    split at hselected
    · cases hselected
    · cases hselected
      have hchosen := (Backend.discovery locator settings).chosen_outcome m
      exact congrArg some (hchosen.generation_eq hr hroot hpath)

/-- The name of the product, cut short in a root, is no hindrance: the driver of 2010 below it,
configured by its path. -/
theorem generation_eq_of_path_of_configured :
    let r : Release := ⟨"2010", 2010, "Microsoft Visual Studio 10.0"⟩
    let root : Path := ⟨"/opt/Microsoft Visual Studi/"⟩
    let d := Discovery.new { searchPath := none, base := ⟨"/"⟩ } [] none (some (r.pathUnder root))
    r ∈ Release.known ∧ ¬"Microsoft Visual Studio".toList <:+: root.text.toList ∧
      inferGeneration (r.pathUnder root) = .msbuild ∧
      (d.run default).1 = ⟨.found (r.pathUnder root), .msbuild⟩ := by
  intro r root d
  have hr : r ∈ Release.known := by decide
  have hroot : ¬"Microsoft Visual Studio".toList <:+: root.text.toList := by
    rw [← Text.occursIn_eq_true_iff]
    decide
  obtain ⟨hinfer, hrun, -⟩ := generation_eq_of_path hr hroot
  have hresolution : (d.run default).1.resolution = .found (r.pathUnder root) := rfl
  have hgeneration := hrun d default (by rw [hresolution]; rfl)
  refine ⟨hr, hroot, hinfer, ?_⟩
  cases h : (d.run default).1
  rw [h] at hresolution hgeneration
  cases hresolution
  cases hgeneration
  rfl

end CrossBuild.VisualStudio
