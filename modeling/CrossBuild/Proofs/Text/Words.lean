import CrossBuild.Text.Blank

/-!
# The words of a text

A text is blanks, words, and blanks between them (`Text.Spaced`).  A word
goes as far as it can: what follows it begins with a blank, or is nothing.
Every text is made up in this way, and in one way only, by the words that the
scan of `Text.words` finds (`Text.words_eq_iff`).
-/
namespace CrossBuild.Text

/-! ## 1. Texts made up of words -/

/-- A text that has blanks only. -/
def Blanks (text : List Char) : Prop :=
  ∀ c ∈ text, isBlank c = true

/-- A text that has no blank. -/
def Unbroken (text : List Char) : Prop :=
  ∀ c ∈ text, isBlank c = false

/-- A text is made up of words, each as long as it can be, and of blanks. -/
inductive Spaced : List Char → List (List Char) → Prop where
  | blanks {gap : List Char} (blanks : Blanks gap) : Spaced gap []
  | word {gap word rest : List Char} {more : List (List Char)} (blanks : Blanks gap)
    (ne_nil : word ≠ []) (unbroken : Unbroken word) (ends : ∀ c ∈ rest.head?, isBlank c = true)
    (others : Spaced rest more) : Spaced (gap ++ (word ++ rest)) (word :: more)

theorem blanks_nil : Blanks [] := fun c hc => by cases hc

theorem unbroken_nil : Unbroken [] := fun c hc => by cases hc

theorem Blanks.cons {c : Char} {gap : List Char} (hc : isBlank c = true) (h : Blanks gap) :
    Blanks (c :: gap) := by
  simpa [Blanks, hc] using h

/-- A blank in front of a text leaves its words as they are. -/
theorem Spaced.cons_blank {c : Char} {text : List Char} {ws : List (List Char)}
    (hc : isBlank c = true) (h : Spaced text ws) : Spaced (c :: text) ws := by
  cases h with
  | blanks hgap => exact .blanks (hgap.cons hc)
  | word hgap hne hword hends hothers => exact .word (hgap.cons hc) hne hword hends hothers

/-- Words have characters, and no blanks among them. -/
theorem Spaced.of_mem {text w : List Char} {ws : List (List Char)} (h : Spaced text ws)
    (hw : w ∈ ws) : w ≠ [] ∧ Unbroken w := by
  induction h with
  | blanks => cases hw
  | word _ hne hword _ _ ih =>
    rcases List.mem_cons.mp hw with rfl | hw
    · exact ⟨hne, hword⟩
    · exact ih hw

/-- A text without words is blank. -/
theorem spaced_nil_iff {text : List Char} : Spaced text [] ↔ Blanks text := by
  constructor
  · rintro ⟨hgap⟩
    exact hgap
  · exact .blanks

/-! ## 2. The scan for words -/

theorem wordsAfter_blank {c : Char} {cs : List Char} (hc : isBlank c = true) :
    wordsAfter [] (c :: cs) = wordsAfter [] cs := by
  simp [wordsAfter, hc]

theorem wordsAfter_blanks {gap cs : List Char} (h : Blanks gap) :
    wordsAfter [] (gap ++ cs) = wordsAfter [] cs := by
  induction gap with
  | nil => rfl
  | cons c gap ih =>
    rw [List.cons_append, wordsAfter_blank (h c List.mem_cons_self)]
    exact ih fun d hd => h d (List.mem_cons_of_mem c hd)

/-- The characters of a word are kept until it ends. -/
theorem wordsAfter_unbroken {word cs : List Char} (h : Unbroken word) (begun : List Char) :
    wordsAfter begun (word ++ cs) = wordsAfter (word.reverse ++ begun) cs := by
  induction word generalizing begun with
  | nil => rfl
  | cons c word ih =>
    have hc : isBlank c = false := h c List.mem_cons_self
    rw [List.cons_append, wordsAfter, if_neg (by simp [hc]),
      ih (fun d hd => h d (List.mem_cons_of_mem c hd)), List.reverse_cons, List.append_assoc,
      List.singleton_append]

/-- A word ends where a blank or nothing follows. -/
theorem wordsAfter_end {begun rest : List Char} (hne : begun ≠ [])
    (hends : ∀ c ∈ rest.head?, isBlank c = true) :
    wordsAfter begun rest = begun.reverse :: wordsAfter [] rest := by
  cases rest with
  | nil => simp [wordsAfter, hne]
  | cons c rest =>
    have hc : isBlank c = true := hends c rfl
    simp [wordsAfter, hc, hne]

/-- What the scan finds makes up the text together with what it holds. -/
theorem spaced_wordsAfter (cs : List Char) {begun : List Char} (h : Unbroken begun) :
    Spaced (begun.reverse ++ cs) (wordsAfter begun cs) := by
  have hreverse {begun : List Char} (h : Unbroken begun) : Unbroken begun.reverse :=
    fun c hc => h c (List.mem_reverse.mp hc)
  induction cs generalizing begun with
  | nil =>
    by_cases hne : begun = []
    · subst hne
      exact .blanks blanks_nil
    · rw [wordsAfter_end hne (by simp)]
      exact .word blanks_nil (by simpa using hne) (hreverse h) (by simp) (.blanks blanks_nil)
  | cons c cs ih =>
    cases hc : isBlank c with
    | false =>
      have hbegun : Unbroken (c :: begun) := by simpa [Unbroken, hc] using h
      have hmore := ih hbegun
      rw [List.reverse_cons, List.append_assoc, List.singleton_append] at hmore
      rw [wordsAfter, if_neg (by simp [hc])]
      exact hmore
    | true =>
      have hrest : Spaced (c :: cs) (wordsAfter [] (c :: cs)) := by
        rw [wordsAfter_blank hc]
        exact (ih unbroken_nil).cons_blank hc
      by_cases hne : begun = []
      · subst hne
        exact hrest
      · have hends : ∀ d ∈ (c :: cs).head?, isBlank d = true := by simpa using hc
        rw [wordsAfter_end hne hends]
        exact .word blanks_nil (by simpa using hne) (hreverse h) hends hrest

/-- There is one way to make up a text of words. -/
theorem Spaced.wordsAfter_eq {text : List Char} {ws : List (List Char)} (h : Spaced text ws) :
    wordsAfter [] text = ws := by
  induction h with
  | @blanks gap hgap =>
    rw [← gap.append_nil, wordsAfter_blanks hgap]
    rfl
  | @word gap word rest more hgap hne hword hends _ ih =>
    rw [wordsAfter_blanks hgap, wordsAfter_unbroken hword, List.append_nil,
      wordsAfter_end (by simpa using hne) hends, List.reverse_reverse, ih]

/-- The words that are found are those of which the text is made up. -/
theorem words_eq_iff {s : String} {ws : List String} :
    words s = ws ↔ Spaced s.toList (ws.map String.toList) := by
  have htoList (ls : List (List Char)) : (ls.map String.ofList).map String.toList = ls := by
    simp [Function.comp_def]
  constructor
  · rintro rfl
    rw [words, htoList]
    exact spaced_wordsAfter s.toList unbroken_nil
  · intro h
    rw [words, h.wordsAfter_eq]
    simp [Function.comp_def]

theorem unbroken_of_mem_words {s w : String} (h : w ∈ words s) : Unbroken w.toList :=
  ((words_eq_iff.mp rfl).of_mem (List.mem_map_of_mem h)).2

theorem words_eq_nil_iff {s : String} : words s = [] ↔ Blanks s.toList := by
  rw [words_eq_iff, List.map_nil, spaced_nil_iff]

end CrossBuild.Text
