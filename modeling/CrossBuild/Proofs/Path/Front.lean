import CrossBuild.Proofs.Path.Components

/-!
# The text of a joined path

A relative path is written behind a text that depends on the first path alone: that path, with a
separator where one is missing (`Path.exists_front`).  So the second path can be read off a join
(`Path.text_join_inj`), and ends it whatever it is.  The first one can be read off as well if
it is one part without a separator, be it empty (`Path.text_folder_join_inj`).

Any number of parts joined one after the other are one relative path joined onto the first
(`Path.join_joinAll`).
-/
namespace CrossBuild.Path

/-! ## 1. The end of a join -/

theorem isAbsolute_of_notMem {p : Path} (h : separator ∉ p.text.toList) : p.isAbsolute = false := by
  rw [isAbsolute, beq_eq_false_iff_ne]
  exact fun hhead => h (List.mem_of_head? hhead)

/-- What a relative path is written behind, when it is joined onto another one. -/
theorem exists_front (p : Path) :
    ∃ front, p.text.toList <+: front ∧ front.length ≤ p.text.toList.length + 1 ∧
      ∀ q : Path, q.isAbsolute = false → (p.join q).text.toList = front ++ q.text.toList := by
  by_cases hp : p.text = "" ∨ p.text.toList.getLast? = some separator
  · refine ⟨p.text.toList, List.prefix_rfl, by omega, fun q hq => ?_⟩
    rcases hp with hp | hp <;> simp [join, hq, hp]
  · obtain ⟨hne, hlast⟩ := not_or.mp hp
    refine ⟨p.text.toList ++ [separator], List.prefix_append _ _, by simp, fun q hq => ?_⟩
    simp [join, hq, hne, hlast]

/-- What is joined onto a path can be read off the text of the join. -/
theorem text_join_inj {p q r : Path} (hq : q.isAbsolute = false) (hr : r.isAbsolute = false)
    (h : (p.join q).text = (p.join r).text) : q.text = r.text := by
  obtain ⟨front, -, -, hjoin⟩ := p.exists_front
  have hlist := congrArg String.toList h
  rw [hjoin q hq, hjoin r hr] at hlist
  exact String.toList_inj.mp (List.append_cancel_left hlist)

/-- A join ends with what is joined. -/
theorem suffix_join (p q : Path) : q.text.toList <:+ (p.join q).text.toList := by
  cases hq : q.isAbsolute with
  | true => simp [join_of_isAbsolute p hq]
  | false =>
    obtain ⟨front, -, -, hjoin⟩ := p.exists_front
    rw [hjoin q hq]
    exact List.suffix_append _ _

theorem length_join_le (p q : Path) :
    (p.join q).text.length ≤ p.text.length + 1 + q.text.length := by
  cases hq : q.isAbsolute with
  | true =>
    rw [join_of_isAbsolute p hq]
    omega
  | false =>
    obtain ⟨front, -, hfront, hjoin⟩ := p.exists_front
    have hlength := congrArg List.length (hjoin q hq)
    simp only [List.length_append, String.length_toList] at hlength hfront
    omega

theorem length_le_join (p : Path) {q : Path} (hq : q.isAbsolute = false) :
    p.text.length + q.text.length ≤ (p.join q).text.length := by
  obtain ⟨front, hprefix, -, hjoin⟩ := p.exists_front
  have hlength := congrArg List.length (hjoin q hq)
  have hle := hprefix.length_le
  simp only [List.length_append, String.length_toList] at hlength hle
  omega

/-! ## 2. The start of a join -/

/-- A part without a separator can be read off the text of a join onto it. -/
theorem text_folder_join_inj {d d' : String} {q : Path} (hd : separator ∉ d.toList)
    (hd' : separator ∉ d'.toList) (hq : q.isAbsolute = false)
    (h : ((Path.mk d).join q).text = ((Path.mk d').join q).text) : d = d' := by
  -- An empty part is followed by no separator, so it is shorter than any other one.
  have hjoin {d : String} (hd : separator ∉ d.toList) : ((Path.mk d).join q).text.toList =
      (if d = "" then [] else d.toList ++ [separator]) ++ q.text.toList := by
    have hlast : d.toList.getLast? ≠ some separator := fun h => hd (List.mem_of_getLast? h)
    by_cases hne : d = ""
    · simp [join, hq, hne]
    · simp [join, hq, hne, hlast]
  have hlist := congrArg String.toList h
  rw [hjoin hd, hjoin hd', List.append_cancel_right_eq] at hlist
  by_cases hne : d = "" <;> by_cases hne' : d' = ""
  · rw [hne, hne']
  · simp [hne, hne'] at hlist
  · simp [hne, hne'] at hlist
  · rw [if_neg hne, if_neg hne', List.append_cancel_right_eq] at hlist
    exact String.toList_inj.mp hlist

/-! ## 3. Parts joined one after the other -/

theorem join_joinAll (p q : Path) (parts : List Path) :
    (p.join q).joinAll parts = p.join (q.joinAll parts) := by
  induction parts generalizing q with
  | nil => rfl
  | cons r parts ih =>
    have hstep : (p.join q).joinAll (r :: parts) = (p.join (q.join r)).joinAll parts := by
      rw [← join_assoc]
      rfl
    rw [hstep, ih]
    rfl

theorem joinAll_append (p : Path) (front back : List Path) :
    p.joinAll (front ++ back) = (p.joinAll front).joinAll back :=
  List.foldl_append

/-- Relative parts make up one relative path, whatever they are joined onto. -/
theorem exists_joinAll {parts : List Path} (hne : parts ≠ [])
    (h : ∀ q ∈ parts, q.isAbsolute = false) :
    ∃ r : Path, r.isAbsolute = false ∧ ∀ p : Path, p.joinAll parts = p.join r := by
  obtain ⟨q, parts, rfl⟩ := List.exists_cons_of_ne_nil hne
  refine ⟨q.joinAll parts, ?_, fun p => join_joinAll p q parts⟩
  rw [isAbsolute_joinAll, h q List.mem_cons_self, Bool.false_or, List.any_eq_false]
  simpa using fun r hr => h r (List.mem_cons_of_mem q hr)

theorem length_le_joinAll (p : Path) {parts : List Path}
    (h : ∀ q ∈ parts, q.isAbsolute = false) : p.text.length ≤ (p.joinAll parts).text.length := by
  induction parts generalizing p with
  | nil => exact Nat.le_refl _
  | cons q parts ih =>
    have hq := p.length_le_join (h q List.mem_cons_self)
    have hrest := ih (p.join q) fun r hr => h r (List.mem_cons_of_mem q hr)
    rw [joinAll, List.foldl_cons]
    rw [joinAll] at hrest
    omega

end CrossBuild.Path
