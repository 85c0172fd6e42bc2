import CrossBuild.Text.Search
import Mathlib.Data.List.TakeWhile

/-!
# Cutting a text in two

Where a text is one part and another, a fixed text may begin or end it, a
character of it is in one of the parts, and a run of characters ends in front
of the first one that cannot belong to it: the run and the rest are known from
the text (`Text.run_unique`).
-/
namespace CrossBuild.Text

/-! ## 1. Starts and ends -/

theorem before?_eq_some_iff {pattern cs front : List Char} :
    before? pattern cs = some front ↔ cs = front ++ pattern := by
  simp only [before?, Option.map_eq_some_iff, after?_eq_some_iff]
  constructor
  · rintro ⟨a, ha, rfl⟩
    rw [← List.reverse_inj, ha]
    simp
  · rintro rfl
    exact ⟨front.reverse, by simp, front.reverse_reverse⟩

theorem eq_false_of_all {p : Char → Bool} {text : List Char}
    (h : text.all (fun c => !p c) = true) : ∀ c ∈ text, p c = false := by
  simpa using h

/-- A character of two texts together is in one of them, at a place that tells how the other
is cut. -/
theorem append_cons_eq_append_iff {c : Char} {x y a z : List Char} :
    x ++ c :: y = a ++ z ↔
      (∃ y', a = x ++ c :: y' ∧ y = y' ++ z) ∨ ∃ x', x = a ++ x' ∧ x' ++ c :: y = z := by
  constructor
  · intro h
    rcases List.append_eq_append_iff.mp h with ⟨u, ha, hu⟩ | ⟨u, hx, hz⟩
    · cases u with
      | nil => exact .inr ⟨[], by simpa using ha.symm, hu⟩
      | cons d u =>
        obtain ⟨rfl, rfl⟩ := List.cons_eq_cons.mp hu
        exact .inl ⟨u, ha, rfl⟩
    · exact .inr ⟨u, hx, hz.symm⟩
  · rintro (⟨y', rfl, rfl⟩ | ⟨x', rfl, rfl⟩) <;> simp

theorem cons_of_append {c : Char} {x y a z : List Char} (h : x ++ c :: y = a ++ z) :
    (∃ y', a = x ++ c :: y' ∧ y = y' ++ z) ∨ ∃ x', x' ++ c :: y = z :=
  (append_cons_eq_append_iff.mp h).imp_right fun ⟨x', _, hx'⟩ => ⟨x', hx'⟩

theorem cons_of_append_of_notMem {c : Char} {x y a z : List Char} (hc : c ∉ a)
    (h : x ++ c :: y = a ++ z) : ∃ x', x' ++ c :: y = z := by
  rcases cons_of_append h with ⟨y', rfl, -⟩ | h
  · exact absurd (by simp) hc
  · exact h

/-- A pattern at the start of a text is left out, if it is there. -/
theorem getD_after?_iff {pattern cs rest : List Char} :
    (after? pattern cs).getD cs = rest ↔
      cs = pattern ++ rest ∨ ¬pattern <+: cs ∧ cs = rest := by
  cases h : after? pattern cs with
  | some rest' =>
    rw [after?_eq_some_iff] at h
    subst h
    simp
  | none =>
    have habsent : ¬pattern <+: cs := by
      rintro ⟨rest', rfl⟩
      cases h.symm.trans (after?_eq_some_iff.mpr rfl)
    rw [Option.getD_none]
    constructor
    · exact fun he => .inr ⟨habsent, he⟩
    · rintro (rfl | ⟨-, he⟩)
      · exact absurd (List.prefix_append _ _) habsent
      · exact he

/-! ## 2. Runs of characters -/

variable {p : Char → Bool} {run rest : List Char}

theorem takeWhile_run (hrun : ∀ c ∈ run, p c = true) (hrest : ∀ c ∈ rest.head?, p c = false) :
    (run ++ rest).takeWhile p = run := by
  rw [List.takeWhile_append_of_pos hrun]
  cases rest with
  | nil => exact List.append_nil run
  | cons c rest =>
    rw [List.takeWhile_cons_of_neg (by simp [hrest c rfl]), List.append_nil]

theorem dropWhile_run (hrun : ∀ c ∈ run, p c = true) (hrest : ∀ c ∈ rest.head?, p c = false) :
    (run ++ rest).dropWhile p = rest := by
  rw [List.dropWhile_append_of_pos hrun]
  cases rest with
  | nil => rfl
  | cons c rest => exact List.dropWhile_cons_of_neg (by simp [hrest c rfl])

/-- What a text does not hold ends no run in it, also read from its end. -/
theorem bne_of_mem_reverse {x : Char} (h : x ∉ run) : ∀ c ∈ run.reverse, (c != x) = true := by
  intro c hc
  rw [bne_iff_ne]
  rintro rfl
  exact h (List.mem_reverse.mp hc)

/-- A run and what follows it are known from the text, where the run goes as far as it can. -/
theorem run_unique {run' rest' : List Char} (hrun : ∀ c ∈ run, p c = true)
    (hrun' : ∀ c ∈ run', p c = true) (hrest : ∀ c ∈ rest.head?, p c = false)
    (hrest' : ∀ c ∈ rest'.head?, p c = false) (h : run ++ rest = run' ++ rest') :
    run = run' ∧ rest = rest' := by
  have hruns : run = run' := by rw [← takeWhile_run hrun hrest, h, takeWhile_run hrun' hrest']
  subst hruns
  exact ⟨rfl, List.append_cancel_left h⟩

end CrossBuild.Text
