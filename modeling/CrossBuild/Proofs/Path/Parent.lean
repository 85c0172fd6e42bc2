import CrossBuild.Proofs.Path.Components
import CrossBuild.Proofs.Text.Cut

/-!
# The directory that holds a path

Taking the parent drops the last component and nothing else
(`Path.parent?_components`), although it works on the text, read from its
end: it drops what counts for nothing there, then the last name, then what
counts for nothing again.  A text ends with the part that stands for its last
component (`Path.exists_lastPart`), and the parent is what is in front of it.
-/
namespace CrossBuild.Path

/-! ## 1. What counts for nothing at the end -/

/-- Separators and `.` segments at the end of a path matter neither to what it
starts from nor to what it adds, as long as the characters of its start are
kept. -/
theorem dropTrailing_keeps (root n : Nat) (cs : List Char)
    (hroot : (ofChars cs.reverse).lead.length ≤ root) :
    (ofChars (dropTrailing root n cs).reverse).lead = (ofChars cs.reverse).lead ∧
      (ofChars (dropTrailing root n cs).reverse).below = (ofChars cs.reverse).below := by
  induction n generalizing cs with
  | zero => exact ⟨rfl, rfl⟩
  | succ n ih =>
    unfold dropTrailing
    split
    · exact ⟨rfl, rfl⟩
    · rename_i hlen
      split
      · rename_i rest
        have hcs : ('/' :: rest).reverse = rest.reverse ++ [separator] := List.reverse_cons
        -- The path is not its separator alone: that one is its start and is kept.
        have hne : rest.reverse ≠ [] := by
          intro h
          rw [hcs, h, List.nil_append, lead_separator] at hroot
          rw [List.reverse_eq_nil_iff.mp h] at hlen
          simp only [List.length_cons, List.length_nil] at hroot hlen
          omega
        have hl := lead_append [] hne
        have hb := below_append rest.reverse []
        rw [below_nil, List.append_nil] at hb
        rw [hcs, hl] at hroot ⊢
        rw [hb]
        exact ih rest hroot
      · rename_i rest
        have hcs : ('.' :: '/' :: rest).reverse = rest.reverse ++ separator :: ['.'] := by
          simp [separator]
        have hsep : ('/' :: rest).reverse = rest.reverse ++ separator :: [] := List.reverse_cons
        have hb : (ofChars (rest.reverse ++ separator :: ['.'])).below =
            (ofChars (rest.reverse ++ separator :: [])).below := by
          rw [below_append, below_append]
          rfl
        have hl := lead_after rest.reverse ['.'] []
        rw [hcs, hl] at hroot ⊢
        rw [hb, ← hsep]
        rw [← hsep] at hroot
        exact ih ('/' :: rest) hroot
      · exact ⟨rfl, rfl⟩

/-- Nothing more can be dropped from the end of what is left. -/
def IsTrimmed (root : Nat) (cs : List Char) : Prop :=
  cs.length ≤ root ∨
    (∀ rest, cs ≠ '/' :: rest) ∧ ∀ rest, cs ≠ '.' :: '/' :: rest

theorem isTrimmed_dropTrailing (root n : Nat) (cs : List Char) (hn : cs.length ≤ n) :
    IsTrimmed root (dropTrailing root n cs) := by
  induction n generalizing cs with
  | zero => exact .inl (by simp only [dropTrailing]; omega)
  | succ n ih =>
    unfold dropTrailing
    split
    · rename_i h
      exact .inl h
    · split
      · exact ih _ (by simp only [List.length_cons] at hn; omega)
      · exact ih _ (by simp only [List.length_cons] at hn ⊢; omega)
      · rename_i h₁ h₂
        exact .inr ⟨h₁, h₂⟩

/-! ## 2. The last name -/

/-- What a part of a path can be written behind: nothing, or a text that ends with a separator. -/
def IsFront (u : List Char) : Prop :=
  u = [] ∨ ∃ u', u = u' ++ [separator]

/-- The last part of a text: `word` is written behind `u` and stands for the component `c`. -/
structure LastPart (u word : List Char) (c : Component) : Prop where
  edge : IsFront u
  not_separator : separator ∉ word
  component : innerComponent? (String.ofList word) = some c

namespace LastPart

variable {u word : List Char} {c : Component}

theorem segments (h : LastPart u word c) : (ofChars word).segments = [String.ofList word] := by
  rw [segments_ofChars, Text.splitAfter_of_not_mem separator h.not_separator]
  rfl

theorem below (h : LastPart u word c) : (ofChars (u ++ word)).below = (ofChars u).below ++ [c] := by
  have hb : (ofChars word).below = [c] := by
    rw [Path.below, h.segments, List.filterMap_cons_some h.component, List.filterMap_nil]
  rcases h.edge with rfl | ⟨u', rfl⟩
  · rw [List.nil_append, hb, below_nil]
    rfl
  · rw [List.append_assoc, List.singleton_append, below_append, below_append, hb, below_nil,
      List.append_nil]

/-- The last part is not what the path starts from. -/
theorem lead (h : LastPart u word c) : (ofChars (u ++ word)).lead = (ofChars u).lead := by
  rcases h.edge with rfl | ⟨u', rfl⟩
  · have ha : (ofChars word).isAbsolute ≠ true := by
      rw [isAbsolute_ofChars, Ne, beq_iff_eq]
      exact fun hhead => h.not_separator (List.mem_of_head? hhead)
    have hd : String.ofList word ≠ "." := by
      intro hdot
      have hc := h.component
      rw [hdot, innerComponent?_dot] at hc
      cases hc
    rw [List.nil_append, lead_nil, Path.lead, if_neg ha, h.segments, List.head?_cons,
      if_neg (fun heq => hd (Option.some.inj heq))]
  · rw [List.append_assoc, List.singleton_append, lead_after u' word []]

/-- A word after a separator, or alone, is one more component. -/
theorem components (h : LastPart u word c) :
    (ofChars (u ++ word)).components = (ofChars u).components ++ [c] := by
  rw [components_eq, components_eq, h.lead, h.below, List.append_assoc]

theorem inner (h : LastPart u word c) : c = .up ∨ ∃ s, c = .name s := by
  have hmem : c ∈ (ofChars (u ++ word)).below := by
    rw [h.below]
    exact List.mem_append_right _ List.mem_cons_self
  exact mem_below hmem

end LastPart

theorem fixedLength_eq (p : Path) : p.fixedLength = p.lead.length := by
  rw [fixedLength, components_eq]
  rcases p.lead_cases with h | h | h
  · rw [h, List.nil_append]
    cases hb : p.below with
    | nil => rfl
    | cons c rest =>
      have hc : c ∈ p.below := by simp [hb]
      rcases mem_below hc with rfl | ⟨s, rfl⟩ <;> rfl
  · rw [h]
    rfl
  · rw [h]
    rfl

theorem trimmedReverse_spec (p : Path) :
    (ofChars p.trimmedReverse.reverse).lead = p.lead ∧
      (ofChars p.trimmedReverse.reverse).below = p.below ∧
      IsTrimmed p.lead.length p.trimmedReverse := by
  have h := dropTrailing_keeps p.lead.length p.text.toList.reverse.length p.text.toList.reverse
    (Nat.le_of_eq (by rw [List.reverse_reverse, ofChars_toList]))
  rw [List.reverse_reverse, ofChars_toList] at h
  have ht : p.trimmedReverse =
      dropTrailing p.lead.length p.text.toList.reverse.length p.text.toList.reverse := by
    rw [trimmedReverse, fixedLength_eq]
  rw [ht]
  exact ⟨h.1, h.2, isTrimmed_dropTrailing _ _ _ (Nat.le_refl _)⟩

/-- A path that is no longer than its start has no other component. -/
theorem below_of_length_le {cs : List Char} (h : cs.length ≤ (ofChars cs).lead.length) :
    (ofChars cs).below = [] := by
  cases cs with
  | nil => exact below_nil
  | cons c rest =>
    by_cases hc : c = separator
    · have hrest : rest = [] := by
        rw [hc, lead_separator] at h
        simp only [List.length_cons, List.length_nil] at h
        exact List.length_eq_zero_iff.mp (by omega)
      rw [hc, hrest]
      decide
    · have hhere : (ofChars (c :: rest)).lead = [.here] := by
        rcases (ofChars (c :: rest)).lead_cases with hl | hl | hl
        · rw [hl] at h
          simp at h
        · rw [← isAbsolute_iff_lead, isAbsolute_ofChars, beq_iff_eq, List.head?_cons] at hl
          exact absurd (Option.some.inj hl) hc
        · exact hl
      have hrest : rest = [] := by
        rw [hhere] at h
        simp only [List.length_cons, List.length_nil] at h
        exact List.length_eq_zero_iff.mp (by omega)
      have hmem : separator ∉ c :: rest := by
        rw [hrest, List.mem_singleton]
        exact Ne.symm hc
      have hseg := segments_ofChars (c :: rest)
      rw [Text.splitAfter_of_not_mem separator hmem] at hseg
      have hdot := head?_segments_of_lead_here hhere
      rw [hseg, List.map_cons, List.head?_cons] at hdot
      rw [below, hseg, List.map_cons, Option.some.inj hdot]
      rfl

theorem components_nil : (ofChars []).components = [] := by
  decide

variable {front : List Component} {last : Component}

/-- What a path starts from does not end with a name or a step up. -/
theorem concat_ne_lead (hinner : last = .up ∨ ∃ s, last = .name s) (p : Path) :
    p.lead ≠ front ++ [last] := by
  intro h
  have hlast := congrArg List.getLast? h
  rw [List.getLast?_concat] at hlast
  rcases p.lead_cases with hl | hl | hl
  all_goals
    rw [hl] at hlast
    rcases hinner with rfl | ⟨s, rfl⟩
    all_goals simp at hlast

/-- The last segment of a trimmed text stands for a component, unless the text is a start only. -/
theorem innerComponent?_of_isTrimmed {cs : List Char}
    (hinner : last = .up ∨ ∃ s, last = .name s)
    (ht : IsTrimmed (ofChars cs.reverse).lead.length cs)
    (h : (ofChars cs.reverse).components = front ++ [last]) :
    innerComponent? (String.ofList (cs.takeWhile (· != separator)).reverse) ≠ none := by
  have hstart : ¬cs.length ≤ (ofChars cs.reverse).lead.length := by
    intro hlen
    rw [← List.length_reverse] at hlen
    rw [components_eq, below_of_length_le hlen, List.append_nil] at h
    exact concat_ne_lead hinner _ h
  obtain ⟨hslash, hdot⟩ := ht.resolve_left hstart
  rw [Ne, innerComponent?_eq_none, ← String.toList_inj, ← String.toList_inj,
    String.toList_ofList]
  cases cs with
  | nil =>
    rw [List.reverse_nil, components_nil] at h
    simp at h
  | cons c rest =>
    have hc : (c != separator) = true := by
      rw [bne_iff_ne]
      rintro rfl
      exact hslash rest rfl
    have htake : (c :: rest).takeWhile (· != separator) = c :: rest.takeWhile (· != separator) :=
      List.takeWhile_cons_of_pos hc
    rw [htake, List.reverse_cons]
    rintro (hnil | hone)
    · simp at hnil
    · -- The segment is a dot: it stands alone, and no name is last.
      have hone' : (rest.takeWhile (· != separator)).reverse ++ [c] = [] ++ ['.'] := hone
      obtain ⟨hrest, hcdot⟩ := List.append_inj' hone' rfl
      rw [List.reverse_eq_nil_iff] at hrest
      obtain rfl : c = '.' := (List.cons.inj hcdot).1
      cases rest with
      | nil => exact hstart (by decide)
      | cons d rest =>
        by_cases hd : d = separator
        · exact hdot rest (by rw [hd]; rfl)
        · rw [List.takeWhile_cons_of_pos (by simpa using hd)] at hrest
          cases hrest

/-- A trimmed text ends with the part that stands for its last component. -/
theorem IsTrimmed.exists_lastPart {cs : List Char} (hinner : last = .up ∨ ∃ s, last = .name s)
    (ht : IsTrimmed (ofChars cs.reverse).lead.length cs)
    (h : (ofChars cs.reverse).components = front ++ [last]) :
    ∃ u word, cs.reverse = u ++ word ∧ LastPart u word last ∧ (ofChars u).components = front := by
  obtain ⟨c, hc⟩ := Option.ne_none_iff_exists'.mp (innerComponent?_of_isTrimmed hinner ht h)
  let word := (cs.takeWhile (· != separator)).reverse
  let before := cs.dropWhile (· != separator)
  have hsplit : cs.reverse = before.reverse ++ word := by
    rw [← List.reverse_append, List.takeWhile_append_dropWhile]
  have hword : separator ∉ word := by
    rw [List.mem_reverse]
    intro hmem
    have hall := List.all_eq_true.mp List.all_takeWhile separator hmem
    simp at hall
  have hedge : IsFront before.reverse := by
    cases hb : before with
    | nil => exact .inl rfl
    | cons c rest =>
      have hc := List.head?_dropWhile_not (· != separator) cs
      rw [show cs.dropWhile (· != separator) = c :: rest from hb] at hc
      right
      exact ⟨rest.reverse, by simp_all⟩
  have hpart : LastPart before.reverse word c := ⟨hedge, hword, hc⟩
  have hwhole : (ofChars before.reverse).components ++ [c] = front ++ [last] := by
    rw [← hpart.components, ← hsplit, h]
  obtain ⟨hfront, hlast⟩ := List.append_inj' hwhole rfl
  cases hlast
  exact ⟨before.reverse, word, hsplit, hpart, hfront⟩

/-- The end of a path with a last component: a part that stands for it, and what counts for
nothing. -/
theorem exists_lastPart {p : Path} (hinner : last = .up ∨ ∃ s, last = .name s)
    (h : p.components = front ++ [last]) :
    ∃ u word, p.trimmedReverse.reverse = u ++ word ∧ LastPart u word last ∧
      (ofChars u).components = front := by
  obtain ⟨hl, hb, ht⟩ := p.trimmedReverse_spec
  rw [← hl] at ht
  exact ht.exists_lastPart hinner (by rw [components_eq, hl, hb, ← components_eq, h])

/-- The text of the parent: what stands in front of the last part, without what counts for
nothing at its end. -/
theorem parent?_of_lastPart {p : Path} {u word : List Char}
    (hsplit : p.trimmedReverse.reverse = u ++ word) (h : LastPart u word last) :
    p.parent? =
      some (ofChars (dropTrailing (ofChars u).lead.length u.reverse.length u.reverse).reverse) := by
  obtain ⟨hl, hb, -⟩ := p.trimmedReverse_spec
  have hcomponents : p.components = (ofChars u).components ++ [last] := by
    rw [components_eq, ← hl, ← hb, ← components_eq, hsplit, h.components]
  have hlead : p.lead = (ofChars u).lead := by
    rw [← hl, hsplit, h.lead]
  have hbefore : p.trimmedReverse.dropWhile (· != separator) = u.reverse := by
    rw [← p.trimmedReverse.reverse_reverse, hsplit, List.reverse_append]
    refine Text.dropWhile_run (Text.bne_of_mem_reverse h.not_separator) fun c hc => ?_
    rcases h.edge with rfl | ⟨u', rfl⟩
    · cases hc
    · simp_all
  rw [parent?, hcomponents, List.getLast?_concat, hbefore, fixedLength_eq, hlead]
  rcases h.inner with rfl | ⟨s, rfl⟩ <;> rfl

/-- What the parent is: it has the other components, and nothing can be dropped from its end. -/
theorem parent?_spec {p : Path} (hinner : last = .up ∨ ∃ s, last = .name s)
    (h : p.components = front ++ [last]) :
    ∃ cs, p.parent? = some (ofChars cs.reverse) ∧ (ofChars cs.reverse).components = front ∧
      IsTrimmed (ofChars cs.reverse).lead.length cs := by
  obtain ⟨u, word, hsplit, hpart, hfront⟩ := exists_lastPart hinner h
  obtain ⟨hl, hb⟩ := dropTrailing_keeps (ofChars u).lead.length u.reverse.length u.reverse
    (Nat.le_of_eq (by rw [List.reverse_reverse]))
  rw [List.reverse_reverse] at hl hb
  refine ⟨_, parent?_of_lastPart hsplit hpart, ?_, ?_⟩
  · rw [components_eq, hl, hb, ← components_eq, hfront]
  · rw [hl]
    exact isTrimmed_dropTrailing _ _ _ (Nat.le_refl _)

/-- **The parent of a path.**  A path whose last component is a name has a
parent, and its components are all the others. -/
theorem parent?_components {p : Path} {names : List Component} {s : String}
    (h : p.components = names ++ [.name s]) :
    ∃ d, p.parent? = some d ∧ d.components = names := by
  obtain ⟨cs, hparent, hcomponents, -⟩ := parent?_spec (.inr ⟨s, rfl⟩) h
  exact ⟨_, hparent, hcomponents⟩

/-! ## 3. The text of the parent -/

theorem dropTrailing_suffix (root n : Nat) (cs : List Char) : dropTrailing root n cs <:+ cs := by
  induction n generalizing cs with
  | zero => exact List.suffix_rfl
  | succ n ih =>
    unfold dropTrailing
    split
    · exact List.suffix_rfl
    · split
      · exact (ih _).trans (List.suffix_cons _ _)
      · exact (ih _).trans (List.suffix_cons _ _)
      · exact List.suffix_rfl

theorem trimmedReverse_suffix (p : Path) : p.trimmedReverse <:+ p.text.toList.reverse :=
  dropTrailing_suffix _ _ _

/-- A path begins with the text of its parent. -/
theorem parent?_prefix {p d : Path} (h : p.parent? = some d) :
    d.text.toList <+: p.text.toList := by
  have hbefore (root n : Nat) (keep : Char → Bool) :
      dropTrailing root n (p.trimmedReverse.dropWhile keep) <:+ p.text.toList.reverse :=
    (dropTrailing_suffix root n _).trans ((List.dropWhile_suffix _).trans p.trimmedReverse_suffix)
  rw [parent?] at h
  split at h
  · cases h
  · cases h
  · cases h
    exact List.nil_prefix
  · rw [← Option.some.inj h]
    have hinitial := List.reverse_prefix.mpr (hbefore p.fixedLength
      (p.trimmedReverse.dropWhile (· != separator)).length (· != separator))
    rw [List.reverse_reverse] at hinitial
    rwa [String.toList_ofList]

/-- If the last component of a parent is a name, it is its last segment. -/
theorem segments_parent? {p d : Path} {names : List Component} {s s' : String}
    (h : p.components = names ++ [.name s'] ++ [.name s]) (hd : p.parent? = some d) :
    ∃ before, d.segments = before ++ [s'] := by
  obtain ⟨cs, hparent, hcomponents, htrimmed⟩ := parent?_spec (.inr ⟨s, rfl⟩) h
  cases hd.symm.trans hparent
  obtain ⟨u, word, hsplit, hpart, -⟩ := htrimmed.exists_lastPart (.inr ⟨s', rfl⟩) hcomponents
  obtain ⟨rfl, -⟩ := innerComponent?_eq_name_iff.mp hpart.component
  rw [hsplit]
  rcases hpart.edge with rfl | ⟨u', rfl⟩
  · exact ⟨[], hpart.segments⟩
  · rw [List.append_assoc, List.singleton_append, segments_append, hpart.segments]
    exact ⟨_, rfl⟩

end CrossBuild.Path
