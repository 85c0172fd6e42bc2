import CrossBuild.Path

/-!
# The components of joined paths

A path's components are what it starts from (`Path.lead`: the root, the
directory here, or nothing) and what its segments add below that
(`Path.below`).  Joining a relative path onto another one keeps the start of
the first and adds what is below the second, whatever separators and `.`
parts are written between them; joining onto an absolute path replaces
nothing.

Joins can be regrouped without changing the text (`Path.join_assoc`), so two
computations that push the same parts in another grouping give one path.
-/
namespace CrossBuild

/-! ## 1. Splitting a text -/

namespace Text

variable (sep : Char)

/-- What stands around a separator is split on its own. -/
theorem splitAfter_append (piece s t : List Char) :
    splitAfter sep piece (s ++ sep :: t) = splitAfter sep piece s ++ splitAfter sep [] t := by
  induction s generalizing piece with
  | nil => simp [splitAfter]
  | cons c s ih =>
    by_cases h : c = sep
    · simp [splitAfter, h, ih]
    · simp [splitAfter, h, ih]

theorem splitAfter_of_not_mem {piece s : List Char} (h : sep ∉ s) :
    splitAfter sep piece s = [piece.reverse ++ s] := by
  induction s generalizing piece with
  | nil => simp [splitAfter]
  | cons c s ih =>
    simp only [List.mem_cons, not_or] at h
    rw [splitAfter, if_neg (Ne.symm h.1), ih h.2]
    simp

theorem splitAfter_ne_nil (piece s : List Char) : splitAfter sep piece s ≠ [] := by
  induction s generalizing piece with
  | nil => simp [splitAfter]
  | cons c s ih =>
    rw [splitAfter]
    split
    · simp
    · exact ih _

end Text

namespace Path

/-! ## 2. What a path starts from, and what it adds -/

/-- What the components of a path start from, apart from the names in it. -/
def lead (p : Path) : List Component :=
  if p.isAbsolute then [.root]
  else if p.segments.head? = some "." then [.here]
  else []

/-- The components that a path adds to what it is joined onto. -/
def below (p : Path) : List Component :=
  p.segments.filterMap innerComponent?

theorem innerComponent?_empty : innerComponent? "" = none := rfl

theorem innerComponent?_dot : innerComponent? "." = none := rfl

theorem innerComponent?_eq_none {segment : String} :
    innerComponent? segment = none ↔ segment = "" ∨ segment = "." := by
  unfold innerComponent?
  split
  · simp_all
  · split <;> simp_all

theorem innerComponent?_eq_name_iff {segment name : String} :
    innerComponent? segment = some (.name name) ↔
      segment = name ∧ name ≠ "" ∧ name ≠ "." ∧ name ≠ ".." := by
  unfold innerComponent?
  grind

theorem innerComponent?_eq_up_iff {segment : String} :
    innerComponent? segment = some .up ↔ segment = ".." := by
  unfold innerComponent?
  grind

theorem lead_cases (p : Path) : p.lead = [] ∨ p.lead = [.root] ∨ p.lead = [.here] := by
  unfold lead
  split
  · exact .inr (.inl rfl)
  · split
    · exact .inr (.inr rfl)
    · exact .inl rfl

theorem isAbsolute_iff_lead {p : Path} : p.isAbsolute = true ↔ p.lead = [.root] := by
  unfold lead
  split
  · simp_all
  · split <;> simp_all

theorem segments_ne_nil (p : Path) : p.segments ≠ [] := by
  simp [segments, Text.splitOn, Text.splitAfter_ne_nil]

theorem head?_segments_of_lead_here {p : Path} (h : p.lead = [.here]) :
    p.segments.head? = some "." := by
  unfold lead at h
  split at h
  · cases h
  · split at h
    · assumption
    · cases h

/-- An absolute path has nothing before its first separator. -/
theorem head?_segments_of_isAbsolute {p : Path} (h : p.isAbsolute = true) :
    p.segments.head? = some "" := by
  rw [isAbsolute, beq_iff_eq, List.head?_eq_some_iff] at h
  obtain ⟨rest, h⟩ := h
  simp [segments, Text.splitOn, h, Text.splitAfter, separator]

theorem components_eq (p : Path) : p.components = p.lead ++ p.below := by
  have ha := @head?_segments_of_isAbsolute p
  unfold components lead below
  cases hs : p.segments with
  | nil => exact absurd hs p.segments_ne_nil
  | cons first rest =>
    rw [hs] at ha
    by_cases h : p.isAbsolute = true
    · have hf : first = "" := Option.some.inj (ha h)
      rw [hf, List.filterMap_cons_none innerComponent?_empty]
      simp [h]
    · by_cases hd : first = "."
      · rw [hd, List.filterMap_cons_none innerComponent?_dot]
        simp [h]
      · cases hc : innerComponent? first <;> simp [h, hd, hc]

/-- What a path adds are names and steps up. -/
theorem mem_below {p : Path} {c : Component} (h : c ∈ p.below) :
    c = .up ∨ ∃ s, c = .name s := by
  obtain ⟨segment, -, hc⟩ := List.mem_filterMap.mp h
  unfold innerComponent? at hc
  split at hc
  · cases hc
  · split at hc
    · exact .inl (Option.some.inj hc).symm
    · exact .inr ⟨segment, (Option.some.inj hc).symm⟩

/-- A path that is one name adds that name to what it is joined onto. -/
theorem below_of_name {p : Path} {s : String} (h : p.components = [.name s]) :
    p.isAbsolute = false ∧ p.below = [.name s] := by
  have hlead : p.lead = [] := by
    rcases p.lead_cases with hl | hl | hl
    · exact hl
    all_goals
      rw [components_eq, hl] at h
      cases h
  constructor
  · rw [Bool.eq_false_iff, Ne, isAbsolute_iff_lead, hlead]
    simp
  · rw [components_eq, hlead] at h
    exact h

/-- A relative path adds nothing when no other place is named in it. -/
theorem below_eq_nil_iff {p : Path} (hp : p.isAbsolute = false) :
    p.below = [] ↔ ∀ c ∈ p.components, c = .here := by
  constructor
  · intro hbelow c hc
    rw [components_eq, hbelow, List.append_nil] at hc
    rcases p.lead_cases with h | h | h
    · rw [h] at hc
      cases hc
    · rw [isAbsolute_iff_lead.mpr h] at hp
      cases hp
    · rw [h] at hc
      exact List.mem_singleton.mp hc
  · intro h
    refine List.eq_nil_iff_forall_not_mem.mpr fun c hc => ?_
    have hhere := h c (by rw [components_eq]; exact List.mem_append_right _ hc)
    rcases mem_below hc with hup | ⟨s, hname⟩
    · exact absurd (hhere.symm.trans hup) (by simp)
    · exact absurd (hhere.symm.trans hname) (by simp)

/-! ## 3. Paths as characters -/

/-- The path that is written with some characters. -/
def ofChars (cs : List Char) : Path :=
  ⟨String.ofList cs⟩

@[simp] theorem ofChars_toList (p : Path) : ofChars p.text.toList = p := by
  simp [ofChars]

@[simp] theorem toList_ofChars (cs : List Char) : (ofChars cs).text.toList = cs := by
  simp [ofChars]

theorem ext_toList {p q : Path} (h : p.text.toList = q.text.toList) : p = q := by
  rw [← ofChars_toList p, h, ofChars_toList]

theorem segments_ofChars (cs : List Char) :
    (ofChars cs).segments = (Text.splitAfter separator [] cs).map String.ofList := by
  simp [segments, Text.splitOn]

theorem segments_append (s t : List Char) :
    (ofChars (s ++ separator :: t)).segments = (ofChars s).segments ++ (ofChars t).segments := by
  simp only [segments_ofChars, Text.splitAfter_append, List.map_append]

theorem below_append (s t : List Char) :
    (ofChars (s ++ separator :: t)).below = (ofChars s).below ++ (ofChars t).below := by
  simp only [below, segments_append, List.filterMap_append]

theorem isAbsolute_ofChars (cs : List Char) :
    (ofChars cs).isAbsolute = (cs.head? == some separator) := by
  rw [isAbsolute, toList_ofChars]

/-- What a path starts from is not changed by what follows a separator. -/
theorem lead_append {s : List Char} (t : List Char) (h : s ≠ []) :
    (ofChars (s ++ separator :: t)).lead = (ofChars s).lead := by
  obtain ⟨first, rest, hs⟩ := List.exists_cons_of_ne_nil (ofChars s).segments_ne_nil
  obtain ⟨c, s', hc⟩ := List.exists_cons_of_ne_nil h
  simp only [lead, isAbsolute_ofChars, segments_append, hs, List.cons_append, List.head?_cons]
  simp only [hc, List.cons_append, List.head?_cons]

theorem lead_separator (t : List Char) : (ofChars (separator :: t)).lead = [.root] := by
  simp [lead, isAbsolute_ofChars]

theorem lead_after (s t t' : List Char) :
    (ofChars (s ++ separator :: t)).lead = (ofChars (s ++ separator :: t')).lead := by
  by_cases hs : s = []
  · rw [hs, List.nil_append, List.nil_append, lead_separator, lead_separator]
  · rw [lead_append t hs, lead_append t' hs]

theorem lead_nil : (ofChars []).lead = [] := by
  decide

theorem below_nil : (ofChars []).below = [] := by
  decide

/-! ## 4. Joining -/

theorem join_of_isAbsolute (p : Path) {q : Path} (hq : q.isAbsolute = true) : p.join q = q := by
  rw [join, if_pos hq]

theorem join_of_empty (q : Path) : (Path.mk "").join q = q := by
  unfold join
  split <;> simp

/-- A relative path goes after a separator, which is written unless the path
before it ends with one; `s` is what stands before that separator. -/
theorem exists_join {p : Path} (hp : p.text ≠ "") :
    ∃ s, (p = ofChars s ∧ s ≠ [] ∨ p = ofChars (s ++ [separator])) ∧
      ∀ q : Path, q.isAbsolute = false → p.join q = ofChars (s ++ separator :: q.text.toList) := by
  have hne : p.text.toList ≠ [] := fun h => hp (String.toList_eq_nil_iff.mp h)
  by_cases hlast : p.text.toList.getLast? = some separator
  · obtain ⟨s, hs⟩ := List.getLast?_eq_some_iff.mp hlast
    refine ⟨s, .inr (by rw [← hs, ofChars_toList]), fun q hq => ext_toList ?_⟩
    simp [join, hq, hs]
  · refine ⟨p.text.toList, .inl ⟨by rw [ofChars_toList], hne⟩, fun q hq => ext_toList ?_⟩
    simp [join, hq, hlast, hp]

/-- What a relative path is joined onto keeps its start. -/
theorem lead_join {p q : Path} (hp : p.text ≠ "") (hq : q.isAbsolute = false) :
    (p.join q).lead = p.lead := by
  obtain ⟨s, ⟨rfl, hs⟩ | rfl, hj⟩ := exists_join hp
  · rw [hj q hq, lead_append _ hs]
  · rw [hj q hq, lead_after]

/-- A join adds what the second path adds. -/
theorem below_join (p : Path) {q : Path} (hq : q.isAbsolute = false) :
    (p.join q).below = p.below ++ q.below := by
  by_cases hp : p.text = ""
  · obtain ⟨text⟩ := p
    cases hp
    rw [join_of_empty]
    rfl
  · obtain ⟨s, ⟨rfl, -⟩ | rfl, hj⟩ := exists_join hp
    · rw [hj q hq, below_append, ofChars_toList]
    · rw [hj q hq, below_append, below_append, below_nil, ofChars_toList, List.append_nil]

/-- **Components of a join.**  Below a path that is not empty, a relative path
adds its parts, and the `.` that it may begin with counts for nothing. -/
theorem components_join {p q : Path} (hp : p.text ≠ "") (hq : q.isAbsolute = false) :
    (p.join q).components = p.components ++ q.below := by
  rw [components_eq, components_eq, lead_join hp hq, below_join p hq, List.append_assoc]

theorem text_ne_empty_of_isAbsolute {p : Path} (h : p.isAbsolute = true) : p.text ≠ "" := by
  intro hp
  rw [isAbsolute, hp] at h
  exact absurd h (by decide)

/-- A join starts at the root exactly when one of its two parts does. -/
theorem isAbsolute_join (p q : Path) :
    (p.join q).isAbsolute = (p.isAbsolute || q.isAbsolute) := by
  cases hq : q.isAbsolute with
  | true => rw [join_of_isAbsolute p hq, hq, Bool.or_true]
  | false =>
    rw [Bool.or_false]
    by_cases hp : p.text = ""
    · obtain ⟨text⟩ := p
      cases hp
      rw [join_of_empty, hq]
      decide
    · rw [Bool.eq_iff_iff, isAbsolute_iff_lead, isAbsolute_iff_lead, lead_join hp hq]

theorem isAbsolute_joinAll (p : Path) (parts : List Path) :
    (p.joinAll parts).isAbsolute = (p.isAbsolute || parts.any Path.isAbsolute) := by
  unfold joinAll
  induction parts generalizing p with
  | nil => simp
  | cons q parts ih =>
    rw [List.foldl_cons, ih, isAbsolute_join, List.any_cons, Bool.or_assoc]

theorem text_join_ne_empty {p q : Path} (h : p.text ≠ "" ∨ q.text ≠ "") :
    (p.join q).text ≠ "" := by
  unfold join
  rcases h with h | h
  · split
    · rename_i hq
      exact text_ne_empty_of_isAbsolute hq
    · split <;> simp [h]
  · split
    · exact h
    · split <;> simp [h]

/-- After a separator a join goes on as it would from the start. -/
theorem join_after (s : List Char) (q : Path) {r : Path} (hr : r.isAbsolute = false) :
    (ofChars (s ++ separator :: q.text.toList)).join r =
      ofChars (s ++ separator :: (q.join r).text.toList) := by
  have hne : (ofChars (s ++ separator :: q.text.toList)).text ≠ "" := by
    simp [ofChars]
  apply ext_toList
  by_cases hq : q.text = ""
  · obtain ⟨text⟩ := q
    cases hq
    rw [join_of_empty]
    simp [join, hr]
  · have hnil : q.text.toList ≠ [] := fun h => hq (String.toList_eq_nil_iff.mp h)
    have hlast : (separator :: q.text.toList).getLast? = q.text.toList.getLast? := by
      obtain ⟨c, cs, hc⟩ := List.exists_cons_of_ne_nil hnil
      rw [hc, List.getLast?_cons_cons]
    by_cases hl : q.text.toList.getLast? = some separator
    · simp [join, hr, hne, hlast, hl, hq]
    · simp [join, hr, hne, hlast, hl, hq]

/-- Joins can be regrouped. -/
theorem join_assoc (p q r : Path) : (p.join q).join r = p.join (q.join r) := by
  cases hr : r.isAbsolute with
  | true => rw [join_of_isAbsolute _ hr, join_of_isAbsolute _ hr, join_of_isAbsolute _ hr]
  | false =>
    have ha : (q.join r).isAbsolute = q.isAbsolute := by
      rw [isAbsolute_join, hr, Bool.or_false]
    cases hq : q.isAbsolute with
    | true => rw [join_of_isAbsolute p hq, join_of_isAbsolute p (ha.trans hq)]
    | false =>
      by_cases hp : p.text = ""
      · obtain ⟨text⟩ := p
        cases hp
        rw [join_of_empty, join_of_empty]
      · obtain ⟨s, -, hj⟩ := exists_join hp
        rw [hj q hq, hj (q.join r) (ha.trans hq), join_after s q hr]

end Path

end CrossBuild
