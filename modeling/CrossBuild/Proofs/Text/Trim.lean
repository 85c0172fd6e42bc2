import CrossBuild.Proofs.Text.Cut
import CrossBuild.Proofs.Text.Words
import CrossBuild.Text.Letters

/-!
# Trimmed texts

What is left of a text that is trimmed has no blank at its ends, and the text is made of it and of
blanks around it.  That says which text is left (`Text.trimChars_eq_iff`).  Only the end is trimmed
where the text does not begin with a blank.

Lowering turns letters into letters and leaves every other character alone, so it
makes no blank and removes none: a text can be trimmed before it is lowered or afterwards.
-/
namespace CrossBuild.Text

/-! ## 1. Trimming -/

/-- A text has no blank at its ends. -/
structure Tight (core : List Char) : Prop where
  first : ∀ c ∈ core.head?, isBlank c = false
  last : ∀ c ∈ core.getLast?, isBlank c = false

instance (gap : List Char) : Decidable (Blanks gap) :=
  decidable_of_iff (gap.all isBlank = true) List.all_eq_true

theorem Blanks.reverse {gap : List Char} (h : Blanks gap) : Blanks gap.reverse :=
  fun c hc => h c (List.mem_reverse.mp hc)

theorem Blanks.append {gap gap' : List Char} (h : Blanks gap) (h' : Blanks gap') :
    Blanks (gap ++ gap') :=
  fun c hc => (List.mem_append.mp hc).elim (h c) (h' c)

/-- The blanks in front of a text, and what is left of it without them. -/
theorem exists_dropBlanks (text : List Char) :
    ∃ front, Blanks front ∧ text = front ++ dropBlanks text ∧
      ∀ c ∈ (dropBlanks text).head?, isBlank c = false := by
  refine ⟨text.takeWhile isBlank, fun c hc => ?_, List.takeWhile_append_dropWhile.symm,
    fun c hc => ?_⟩
  · exact List.mem_takeWhile_imp hc
  · have hstop := List.head?_dropWhile_not isBlank text
    rw [dropBlanks, Option.mem_def] at hc
    rw [hc] at hstop
    exact hstop

/-- The blanks at the end of a text, and what is left of it without them. -/
theorem exists_dropBlanksEnd (text : List Char) :
    ∃ back, Blanks back ∧ text = dropBlanksEnd text ++ back ∧
      ∀ c ∈ (dropBlanksEnd text).getLast?, isBlank c = false := by
  obtain ⟨front, hfront, htext, hhead⟩ := exists_dropBlanks text.reverse
  refine ⟨front.reverse, hfront.reverse, ?_, ?_⟩
  · rw [← List.reverse_inj, htext, dropBlanksEnd]
    simp
  · rwa [dropBlanksEnd, List.getLast?_reverse]

theorem dropBlanks_append {front text : List Char} (hfront : Blanks front)
    (htext : ∀ c ∈ text.head?, isBlank c = false) : dropBlanks (front ++ text) = text :=
  dropWhile_run hfront htext

theorem dropBlanksEnd_append {text back : List Char} (hback : Blanks back)
    (htext : ∀ c ∈ text.getLast?, isBlank c = false) : dropBlanksEnd (text ++ back) = text := by
  rw [dropBlanksEnd, List.reverse_append,
    dropBlanks_append hback.reverse (by rwa [List.head?_reverse]), List.reverse_reverse]

theorem dropBlanks_of_blanks {gap : List Char} (h : Blanks gap) : dropBlanks gap = [] := by
  have hnil : ∀ c ∈ ([] : List Char).head?, isBlank c = false := by simp
  simpa using dropBlanks_append h hnil

/-- **What trimming leaves.**  It has no blank at its ends, and the text is it with blanks around
it; there is one such part of every text. -/
theorem trimChars_eq_iff {text core : List Char} :
    trimChars text = core ↔
      Tight core ∧ ∃ front back, Blanks front ∧ Blanks back ∧ text = front ++ core ++ back := by
  constructor
  · rintro rfl
    obtain ⟨front, hfront, htext, hhead⟩ := exists_dropBlanks text
    obtain ⟨back, hback, hrest, hlast⟩ := exists_dropBlanksEnd (dropBlanks text)
    refine ⟨⟨fun c hc => hhead c ?_, hlast⟩, front, back, hfront, hback, ?_⟩
    · -- What is left begins as the text does once the blanks in front of it are gone.
      rw [trimChars] at hc
      rw [hrest, List.head?_append, Option.mem_def, Option.mem_def.mp hc, Option.some_or]
    · rw [List.append_assoc, trimChars, ← hrest, ← htext]
  · rintro ⟨htight, front, back, hfront, hback, rfl⟩
    by_cases hcore : core = []
    · subst hcore
      rw [List.append_nil, trimChars, dropBlanks_of_blanks (hfront.append hback)]
      rfl
    · have hhead : ∀ c ∈ (core ++ back).head?, isBlank c = false := by
        obtain ⟨d, rest, hd⟩ := List.exists_cons_of_ne_nil hcore
        rw [hd, List.cons_append, List.head?_cons]
        have hfirst := htight.first
        rwa [hd, List.head?_cons] at hfirst
      rw [trimChars, List.append_assoc, dropBlanks_append hfront hhead,
        dropBlanksEnd_append hback htight.last]

theorem trimChars_eq_nil_iff {text : List Char} : trimChars text = [] ↔ Blanks text := by
  rw [trimChars_eq_iff]
  constructor
  · rintro ⟨-, front, back, hfront, hback, rfl⟩
    simpa using hfront.append hback
  · exact fun h => ⟨⟨by simp, by simp⟩, text, [], h, blanks_nil, by simp⟩

/-- Blanks around a text do not matter to what trimming leaves. -/
theorem trimChars_around {front back : List Char} (hfront : Blanks front) (hback : Blanks back)
    (text : List Char) : trimChars (front ++ text ++ back) = trimChars text := by
  obtain ⟨htight, front', back', hfront', hback', htext⟩ :=
    trimChars_eq_iff.mp (Eq.refl (trimChars text))
  refine trimChars_eq_iff.mpr
    ⟨htight, front ++ front', back' ++ back, hfront.append hfront', hback'.append hback, ?_⟩
  calc front ++ text ++ back
      _ = front ++ (front' ++ trimChars text ++ back') ++ back := by rw [← htext]
      _ = front ++ front' ++ trimChars text ++ (back' ++ back) := by simp only [List.append_assoc]

/-- In front of a text there is nothing to trim if it does not begin with a blank. -/
theorem trimChars_of_head {text : List Char} (h : ∀ c ∈ text.head?, isBlank c = false) :
    trimChars text = dropBlanksEnd text := by
  have hdrop : dropBlanks text = text := dropBlanks_append blanks_nil h
  rw [trimChars, hdrop]

theorem trimChars_cons {c : Char} (hc : isBlank c = false) (text : List Char) :
    trimChars (c :: text) = c :: dropBlanksEnd text := by
  obtain ⟨back, hback, htext, hlast⟩ := exists_dropBlanksEnd text
  refine trimChars_eq_iff.mpr ⟨⟨by simpa using hc, ?_⟩, [], back, blanks_nil, hback, ?_⟩
  · cases hend : dropBlanksEnd text with
    | nil => simpa using hc
    | cons d rest =>
      rw [List.getLast?_cons_cons, ← hend]
      exact hlast
  · rw [List.nil_append, List.cons_append, ← htext]

/-! ## 2. Lowering -/

/-- A letter that has a lower case of its own, or is one. -/
def Cased (c : Char) : Prop :=
  c.isAlpha = true ∨ c.toNat = 0x212A

theorem isAlpha_iff {c : Char} :
    c.isAlpha = true ↔ (65 ≤ c.toNat ∧ c.toNat ≤ 90) ∨ (97 ≤ c.toNat ∧ c.toNat ≤ 122) := by
  have hranges : c.isAlpha = (decide ('A'.val ≤ c.val ∧ c.val ≤ 'Z'.val) ||
      (decide ('a'.val ≤ c.val) && decide (c.val ≤ 'z'.val))) := rfl
  simp only [hranges, Bool.or_eq_true, Bool.and_eq_true, decide_eq_true_eq,
    UInt32.le_iff_toNat_le]
  exact Iff.rfl

theorem Cased.isBlank_eq {c : Char} (h : Cased c) : isBlank c = false := by
  rw [Cased, isAlpha_iff] at h
  simp only [isBlank, Bool.or_eq_false_iff, Bool.and_eq_false_iff, decide_eq_false_iff_not,
    beq_eq_false_iff_ne]
  omega

/-- Lowering leaves a character alone, or makes a letter of a letter. -/
theorem lowerChar_cases (c : Char) : lowerChar c = c ∨ Cased c ∧ Cased (lowerChar c) := by
  unfold lowerChar
  split
  · rename_i h
    exact .inr ⟨.inr h, .inl (by decide)⟩
  · unfold Char.toLower
    split
    · rename_i h
      have hc : 65 ≤ c.toNat ∧ c.toNat ≤ 90 := by simpa [UInt32.le_iff_toNat_le] using h
      have hlower : (c.val + ('a'.val - 'A'.val)).toNat = c.toNat + 32 := by
        rw [UInt32.toNat_add]
        exact Nat.mod_eq_of_lt (by change c.toNat + 32 < 2 ^ 32; omega)
      refine .inr ⟨.inl (isAlpha_iff.mpr (.inl hc)), .inl (isAlpha_iff.mpr (.inr ?_))⟩
      change 97 ≤ (c.val + ('a'.val - 'A'.val)).toNat ∧ (c.val + ('a'.val - 'A'.val)).toNat ≤ 122
      omega
    · exact .inl rfl

/-- Only a character that is no letter is lowered to itself as one that is no letter. -/
theorem lowerChar_eq_iff {c d : Char} (hd : ¬Cased d) : lowerChar c = d ↔ c = d := by
  rcases lowerChar_cases c with h | ⟨hc, hlower⟩
  · rw [h]
  · constructor
    · rintro rfl
      exact absurd hlower hd
    · rintro rfl
      exact absurd hc hd

theorem isBlank_lowerChar (c : Char) : isBlank (lowerChar c) = isBlank c := by
  rcases lowerChar_cases c with h | ⟨hc, hlower⟩
  · rw [h]
  · rw [hc.isBlank_eq, hlower.isBlank_eq]

theorem lowerName_append (s t : String) : lowerName (s ++ t) = lowerName s ++ lowerName t := by
  simp [lowerName]

theorem Blanks.lower {gap : List Char} (h : Blanks gap) : Blanks (gap.map lowerChar) := by
  intro c hc
  obtain ⟨d, hd, rfl⟩ := List.mem_map.mp hc
  rw [isBlank_lowerChar, h d hd]

theorem Tight.lower {core : List Char} (h : Tight core) : Tight (core.map lowerChar) := by
  constructor
  · intro c hc
    rw [List.head?_map, Option.mem_def, Option.map_eq_some_iff] at hc
    obtain ⟨d, hd, rfl⟩ := hc
    rw [isBlank_lowerChar, h.first d hd]
  · intro c hc
    rw [List.getLast?_map, Option.mem_def, Option.map_eq_some_iff] at hc
    obtain ⟨d, hd, rfl⟩ := hc
    rw [isBlank_lowerChar, h.last d hd]

/-- A text can be lowered before it is trimmed. -/
theorem trimChars_lower (text : List Char) :
    trimChars (text.map lowerChar) = (trimChars text).map lowerChar := by
  obtain ⟨htight, front, back, hfront, hback, htext⟩ :=
    trimChars_eq_iff.mp (Eq.refl (trimChars text))
  refine trimChars_eq_iff.mpr ⟨htight.lower, _, _, hfront.lower, hback.lower, ?_⟩
  rw [← List.map_append, ← List.map_append, ← htext]

end CrossBuild.Text
