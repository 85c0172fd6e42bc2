import CrossBuild.Proofs.Files.Sound
import CrossBuild.Proofs.Path.Components

/-!
# Paths made of names

Names that entries can have are the segments of the path that they make up
(`Path.segments_relative`), and nothing else is in it.  Joined onto another path
they follow its components, whatever separators it ends with
(`Path.segments_join`).
-/
namespace CrossBuild

/-- The path that some names make up, seen from where they start. -/
def Place.relative (r : Place) : Path :=
  ⟨"/".intercalate r⟩

namespace Path

open FileTree (IsFileName)

theorem innerComponent?_of_isName {name : String} (h : FileTree.IsName name) :
    innerComponent? name = some (.name name) :=
  innerComponent?_eq_name_iff.mpr ⟨rfl, h.ne_empty, h.ne_here, h.ne_up⟩

/-! ## 1. Names one below the other -/

theorem toList_relative (r : Place) :
    r.relative.text.toList = ['/'].intercalate (r.map String.toList) := by
  rw [Place.relative, String.toList_intercalate]
  rfl

theorem toList_relative_cons {name : String} {r : Place} (hr : r ≠ []) :
    (Place.relative (name :: r)).text.toList =
      name.toList ++ separator :: r.relative.text.toList := by
  obtain ⟨other, r, rfl⟩ := List.exists_cons_of_ne_nil hr
  rw [toList_relative, toList_relative, List.map_cons, List.map_cons,
    List.intercalate_cons_cons, List.append_assoc]
  rfl

variable {r : Place} {name : String}

theorem segments_relative (hr : r ≠ []) (hnames : ∀ name ∈ r, IsFileName name) :
    r.relative.segments = r := by
  induction r with
  | nil => exact absurd rfl hr
  | cons name r ih =>
    have hname : (Path.mk name).segments = [name] := by
      rw [segments, Text.splitOn,
        Text.splitAfter_of_not_mem separator (hnames name List.mem_cons_self).not_separator]
      simp
    cases r with
    | nil => exact hname
    | cons other r =>
      have hrest := ih (by simp) fun n hn => hnames n (List.mem_cons_of_mem name hn)
      have hsplit : Place.relative (name :: other :: r) = ofChars
          (name.toList ++ separator :: (Place.relative (other :: r)).text.toList) :=
        ext_toList (by rw [toList_relative_cons (by simp), toList_ofChars])
      have hfirst : ofChars name.toList = ⟨name⟩ := ofChars_toList ⟨name⟩
      rw [hsplit, segments_append, hfirst, ofChars_toList, hname, hrest]
      rfl

theorem isAbsolute_relative (hr : r ≠ []) (hnames : ∀ name ∈ r, IsFileName name) :
    r.relative.isAbsolute = false := by
  rw [Bool.eq_false_iff]
  intro habsolute
  have hhead := head?_segments_of_isAbsolute habsolute
  rw [segments_relative hr hnames] at hhead
  have hmem := List.mem_of_head? hhead
  exact (hnames "" hmem).ne_empty rfl

theorem hasNul_relative (hnames : ∀ name ∈ r, IsFileName name) : r.relative.hasNul = false := by
  rw [hasNul, List.contains_eq_mem, decide_eq_false_iff_not]
  induction r with
  | nil => simp [Place.relative]
  | cons name r ih =>
    have hname := (hnames name List.mem_cons_self).not_nul
    cases r with
    | nil => exact hname
    | cons other r =>
      rw [toList_relative_cons (by simp), List.mem_append, List.mem_cons]
      rintro (h | h | h)
      · exact hname h
      · exact absurd h (by decide)
      · exact ih (fun n hn => hnames n (List.mem_cons_of_mem name hn)) h

/-! ## 2. Joining -/

/-- Names may be joined one by one, or all at once. -/
theorem joinAll_names (p : Path) (hr : r ≠ []) (hnames : ∀ name ∈ r, IsFileName name) :
    p.joinAll (r.map Path.mk) = p.join r.relative := by
  induction r generalizing p with
  | nil => exact absurd rfl hr
  | cons name r ih =>
    have hcons : p.joinAll ((name :: r).map Path.mk) =
        (p.join ⟨name⟩).joinAll (r.map Path.mk) := rfl
    rw [hcons]
    cases r with
    | nil => rfl
    | cons other r =>
      have hname := hnames name List.mem_cons_self
      have hrest : ∀ n ∈ other :: r, IsFileName n := fun n hn =>
        hnames n (List.mem_cons_of_mem name hn)
      have hlast : name.toList.getLast? ≠ some separator := fun h =>
        hname.not_separator (List.mem_of_getLast? h)
      have hrelative := isAbsolute_relative (by simp) hrest
      rw [ih _ (by simp) hrest, join_assoc]
      congr 1
      apply ext_toList
      rw [toList_relative_cons (by simp)]
      simp [join, hrelative, hname.ne_empty, hlast]

/-- What a path that is not empty goes on with, joined onto another one: the segments of the
first keep their components, and those of the second follow. -/
theorem segments_join {p q : Path} (hp : p.text ≠ "") (hq : q.isAbsolute = false) :
    ∃ before, (p.join q).segments = before ++ q.segments ∧
      before.filterMap innerComponent? = p.below := by
  obtain ⟨s, hs, hj⟩ := exists_join hp
  refine ⟨(ofChars s).segments, ?_, ?_⟩
  · rw [hj q hq, segments_append, ofChars_toList]
  · rcases hs with ⟨rfl, -⟩ | rfl
    · rfl
    · rw [below_append, below_nil, List.append_nil]
      rfl

theorem hasNul_join {p q : Path} (hp : p.hasNul = false) (hq : q.hasNul = false) :
    (p.join q).hasNul = false := by
  simp only [hasNul, List.contains_eq_mem, decide_eq_false_iff_not] at hp hq ⊢
  have hseparator : Char.ofNat 0 ≠ separator := by decide
  rw [join]
  split
  · exact hq
  · split
    · simp [hp, hq]
    · simp [hp, hq, hseparator]

theorem isAbsolute_of_isFileName (h : IsFileName name) : (Path.mk name).isAbsolute = false :=
  isAbsolute_relative (r := [name]) (by simp) (by simpa using h)

theorem size_join (p : Path) {q : Path} (hq : q.isAbsolute = false) :
    p.text.utf8ByteSize + q.text.utf8ByteSize ≤ (p.join q).text.utf8ByteSize := by
  rw [join, if_neg (by simp [hq])]
  split
  · exact Nat.le_of_eq String.utf8ByteSize_append.symm
  · simp only [String.utf8ByteSize_append]
    omega

/-- Every name makes a path longer. -/
theorem length_le_size_joinAll (p : Path) (hnames : ∀ name ∈ r, IsFileName name) :
    r.length ≤ (p.joinAll (r.map Path.mk)).text.utf8ByteSize := by
  have hgrows : p.text.utf8ByteSize + r.length ≤
      (p.joinAll (r.map Path.mk)).text.utf8ByteSize := by
    induction r generalizing p with
    | nil => exact Nat.le_refl _
    | cons name r ih =>
      have hname := hnames name List.mem_cons_self
      have hpos : 0 < name.utf8ByteSize :=
        Nat.pos_of_ne_zero fun hzero => hname.ne_empty (String.utf8ByteSize_eq_zero_iff.mp hzero)
      have hjoin : p.text.utf8ByteSize + name.utf8ByteSize ≤
          (p.join ⟨name⟩).text.utf8ByteSize := p.size_join (isAbsolute_of_isFileName hname)
      have hrest := ih (p.join ⟨name⟩) fun n hn => hnames n (List.mem_cons_of_mem name hn)
      calc p.text.utf8ByteSize + (r.length + 1)
          ≤ (p.join ⟨name⟩).text.utf8ByteSize + r.length := by omega
        _ ≤ ((p.join ⟨name⟩).joinAll (r.map Path.mk)).text.utf8ByteSize := hrest
  omega

theorem filterMap_names {r : Place} (hnames : ∀ name ∈ r, IsFileName name) :
    r.filterMap innerComponent? = r.map .name := by
  induction r with
  | nil => rfl
  | cons name r ih =>
    have hname := innerComponent?_of_isName (hnames name List.mem_cons_self).toIsName
    rw [List.filterMap_cons_some hname, ih fun n hn => hnames n (List.mem_cons_of_mem name hn)]
    rfl

/-! ## 3. Separators in front -/

theorem hasNul_slashes (n : Nat) (s : List Char) :
    (ofChars (List.replicate n separator ++ s)).hasNul = (ofChars s).hasNul := by
  have hseparator : Char.ofNat 0 ≠ separator := by decide
  simp [hasNul, List.mem_replicate, hseparator]

theorem below_slashes (n : Nat) (s : List Char) :
    (ofChars (List.replicate n separator ++ s)).below = (ofChars s).below := by
  induction n with
  | zero => rfl
  | succ n ih =>
    have hsplit : List.replicate (n + 1) separator ++ s =
        [] ++ separator :: (List.replicate n separator ++ s) := by
      rw [List.replicate_succ]
      rfl
    rw [hsplit, below_append, below_nil, List.nil_append, ih]

theorem size_slashes (n : Nat) (s : List Char) :
    (ofChars (List.replicate n separator ++ s)).text.utf8ByteSize =
      n + (ofChars s).text.utf8ByteSize := by
  induction n with
  | zero => simp
  | succ n ih =>
    have hsplit : (ofChars (List.replicate (n + 1) separator ++ s)).text =
        separator.toString ++ (ofChars (List.replicate n separator ++ s)).text := by
      rw [← String.toList_inj, String.toList_append, toList_ofChars, toList_ofChars]
      simp [List.replicate_succ]
    have hone : separator.toString.utf8ByteSize = 1 := by decide
    rw [hsplit, String.utf8ByteSize_append, ih, hone]
    omega

end Path

end CrossBuild
