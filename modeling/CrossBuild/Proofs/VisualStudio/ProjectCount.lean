import CrossBuild.Proofs.Backend.Verdict
import CrossBuild.Proofs.Text.Cut
import CrossBuild.Proofs.Text.Removal
import Mathlib.Data.Nat.Find

/-!
# The count of a summary

A summary line may stand anywhere in an output, also inside a line
(`Msvs.SummaryAt`).  The one that begins furthest to the left counts, whatever
comes after it (`Msvs.FirstSummary`): its count is a number if it is written
in ASCII digits and is in range, and there is none otherwise.

What is printed in front of a summary changes the count only by an earlier
summary.  That one may take the marks with which the later one begins, where it
lacks some of its own (`Msvs.UnfinishedAt`): the text in front holds no summary
then and spoils the count all the same.
-/
namespace CrossBuild.Msvs

open Text

/-! ## 1. Numbers in ASCII digits -/

theorem asciiNumberAfter_eq_some_iff {k n : Nat} {cs : List Char} :
    asciiNumberAfter k cs = some n ↔
      (∀ c ∈ cs, c.isDigit = true) ∧ Nat.ofDigitChars 10 cs k = n := by
  induction cs generalizing k with
  | nil => simp [asciiNumberAfter]
  | cons c cs ih =>
    rw [asciiNumberAfter, digitValue?, Nat.ofDigitChars_cons]
    by_cases hc : c.isDigit = true
    · simp [hc, ih]
    · simp [hc]

/-- A number is read from nonempty texts of ASCII digits, and is their decimal value. -/
theorem asciiNumber?_eq_some_iff {n : Nat} {cs : List Char} :
    asciiNumber? cs = some n ↔
      cs ≠ [] ∧ (∀ c ∈ cs, c.isDigit = true) ∧ Nat.ofDigitChars 10 cs 0 = n := by
  cases cs with
  | nil => simp [asciiNumber?]
  | cons c cs => simp [asciiNumber?, asciiNumberAfter_eq_some_iff]

theorem isDecimalDigit_of_isDigit {c : Char} (h : c.isDigit = true) : isDecimalDigit c = true := by
  have hrange := Char.isDigit_iff_toNat.mp h
  simp only [isDecimalDigit, inRanges, List.any_eq_true, Bool.and_eq_true, decide_eq_true_eq]
  exact ⟨(0x30, 0x39), by simp [decimalDigitRanges], hrange.1, hrange.2⟩

/-! ## 2. Summaries in a text -/

/-- A summary in a text: what stands in front of it, the digits of its count, and what
follows it. -/
structure SummaryAt (text front digits behind : List Char) : Prop where
  text_eq : text = front ++ (summaryStart ++ (digits ++ (summaryEnd ++ behind)))
  ne_nil : digits ≠ []
  decimal : ∀ c ∈ digits, isDecimalDigit c = true

/-- The first summary in a text counts with these digits: none begins further to the left. -/
def FirstSummary (text digits : List Char) : Prop :=
  ∃ front behind, SummaryAt text front digits behind ∧
    ∀ front' digits' behind', SummaryAt text front' digits' behind' →
      front.length ≤ front'.length

theorem summaryAt_cons_iff {c : Char} {cs front digits behind : List Char} :
    SummaryAt (c :: cs) (c :: front) digits behind ↔ SummaryAt cs front digits behind := by
  constructor
  · rintro ⟨htext, hne, hdecimal⟩
    exact ⟨(List.cons_eq_cons.mp htext).2, hne, hdecimal⟩
  · rintro ⟨rfl, hne, hdecimal⟩
    exact ⟨rfl, hne, hdecimal⟩

/-- The run of digits ends where the rest of the line begins. -/
theorem summaryDigits?_eq_some_iff {cs digits : List Char} :
    summaryDigits? cs = some digits ↔ ∃ behind, SummaryAt cs [] digits behind := by
  have hends (behind : List Char) :
      ∀ c ∈ (summaryEnd ++ behind).head?, isDecimalDigit c = false := by
    intro c hc
    cases hc
    decide
  constructor
  · intro h
    unfold summaryDigits? at h
    split at h
    · cases h
    · rename_i rest hrest
      rw [after?_eq_some_iff] at hrest
      simp only [Bool.or_eq_true, List.isEmpty_iff, Option.isNone_iff_eq_none] at h
      split at h
      · cases h
      · rename_i hfits
        rw [not_or] at hfits
        obtain ⟨behind, hbehind⟩ := Option.ne_none_iff_exists'.mp hfits.2
        cases h
        refine ⟨behind, ?_, hfits.1, fun c hc => List.mem_takeWhile_imp hc⟩
        rw [after?_eq_some_iff] at hbehind
        rw [List.nil_append, ← hbehind, List.takeWhile_append_dropWhile]
        exact hrest
  · rintro ⟨behind, htext, hne, hdecimal⟩
    have hstart : after? summaryStart cs = some (digits ++ (summaryEnd ++ behind)) :=
      after?_eq_some_iff.mpr htext
    have hend : after? summaryEnd (summaryEnd ++ behind) = some behind :=
      after?_eq_some_iff.mpr rfl
    simp [summaryDigits?, hstart, takeWhile_run hdecimal (hends behind),
      dropWhile_run hdecimal (hends behind), hend, hne]

/-- The search finds the first summary. -/
theorem firstSummary?_eq_some_iff {text digits : List Char} :
    firstSummary? text = some digits ↔ FirstSummary text digits := by
  induction text with
  | nil =>
    refine iff_of_false (by simp [firstSummary?]) ?_
    rintro ⟨front, behind, ⟨htext, -, -⟩, -⟩
    have hnil := (List.append_eq_nil_iff.mp htext.symm).2
    exact absurd (List.append_eq_nil_iff.mp hnil).1 (by decide)
  | cons c cs ih =>
    rw [firstSummary?]
    cases h : summaryDigits? (c :: cs) with
    | some found =>
      obtain ⟨behind, hfound⟩ := summaryDigits?_eq_some_iff.mp h
      constructor
      · rintro hdigits
        cases hdigits
        exact ⟨[], behind, hfound, fun _ _ _ _ => Nat.zero_le _⟩
      · rintro ⟨front, behind', hfront, hfirst⟩
        have hnil : front = [] :=
          List.eq_nil_of_length_eq_zero (Nat.le_zero.mp (hfirst [] found behind hfound))
        subst hnil
        exact h.symm.trans (summaryDigits?_eq_some_iff.mpr ⟨behind', hfront⟩)
    | none =>
      have hcons {front digits behind : List Char}
          (hsummary : SummaryAt (c :: cs) front digits behind) :
          ∃ front', front = c :: front' ∧ SummaryAt cs front' digits behind := by
        cases front with
        | nil =>
          rw [summaryDigits?_eq_some_iff.mpr ⟨behind, hsummary⟩] at h
          cases h
        | cons d front' =>
          cases (List.cons_eq_cons.mp hsummary.text_eq).1
          exact ⟨front', rfl, summaryAt_cons_iff.mp hsummary⟩
      simp only [ih]
      constructor
      · rintro ⟨front, behind, hsummary, hfirst⟩
        refine ⟨c :: front, behind, summaryAt_cons_iff.mpr hsummary, ?_⟩
        intro front' digits' behind' h'
        obtain ⟨rest, rfl, hrest⟩ := hcons h'
        exact Nat.succ_le_succ (hfirst rest digits' behind' hrest)
      · rintro ⟨front, behind, hsummary, hfirst⟩
        obtain ⟨rest, rfl, hrest⟩ := hcons hsummary
        refine ⟨rest, behind, hrest, fun front' digits' behind' h' => ?_⟩
        exact Nat.le_of_succ_le_succ (hfirst _ _ _ (summaryAt_cons_iff.mpr h'))

/-! ## 3. What stands in front of a summary -/

/-- A summary line between the count and the marks that close it. -/
def summaryWords : List Char := " up-to-date, 0 skipped ".toList

/-- A text ends in a summary that lacks one or more of its closing marks: what stands in front
of it, the digits of its count, and the marks that it has and lacks. -/
structure UnfinishedAt (text front digits marks missing : List Char) : Prop where
  text_eq : text = front ++ (summaryStart ++ ((digits ++ summaryWords) ++ marks))
  ne_nil : digits ≠ []
  decimal : ∀ c ∈ digits, isDecimalDigit c = true
  marks_eq : "===".toList = marks ++ missing
  missing_ne_nil : missing ≠ []

theorem unbordered_summaryStart : Unbordered summaryStart := by
  have hshift : ∀ k < summaryStart.length, summaryStart.drop k <+: summaryStart → k = 0 := by
    decide
  intro x y z hxy hyz hy
  have hdrop : summaryStart.drop x.length = y := by
    rw [hxy, List.drop_left]
  have hlength := congrArg List.length hxy
  have hpos := List.length_pos_of_ne_nil hy
  rw [List.length_append] at hlength
  have hzero := hshift x.length (by omega) (hdrop ▸ ⟨z, hyz.symm⟩)
  exact List.eq_nil_of_length_eq_zero hzero

theorem mark_not_mem {digits : List Char} (h : ∀ c ∈ digits, isDecimalDigit c = true) :
    '=' ∉ digits ++ summaryWords := by
  intro hmem
  rcases List.mem_append.mp hmem with hmem | hmem
  · exact absurd (h '=' hmem) (by decide)
  · exact absurd hmem (by decide)

/-- A summary that begins in front of the start of another is wholly in front of it, or
lacks closing marks there. -/
theorem SummaryAt.in_front {text rest front digits behind : List Char}
    (h : SummaryAt (text ++ (summaryStart ++ rest)) front digits behind)
    (hlength : front.length < text.length) :
    (∃ behind', SummaryAt text front digits behind') ∨
      ∃ marks missing, UnfinishedAt text front digits marks missing := by
  obtain ⟨begun, rfl, hbegun⟩ : ∃ begun, text = front ++ begun ∧
      summaryStart ++ (digits ++ (summaryEnd ++ behind)) = begun ++ (summaryStart ++ rest) := by
    rcases List.append_eq_append_iff.mp h.text_eq with ⟨u, rfl, -⟩ | ⟨begun, htext, he⟩
    · rw [List.length_append] at hlength
      omega
    · exact ⟨begun, htext, he⟩
  have hne : begun ≠ [] := by
    rintro rfl
    simp at hlength
  obtain ⟨x, rfl⟩ := unbordered_summaryStart.prefix_of_append hne hbegun.symm
  -- The other begins with a mark, and this one has marks only where it ends.
  have hstart : summaryStart = '=' :: summaryStart.tail := by decide
  have hend : summaryEnd = summaryWords ++ "===".toList := by decide
  have hrest : digits ++ (summaryEnd ++ behind) = x ++ (summaryStart ++ rest) := by
    rwa [List.append_assoc, List.append_right_inj] at hbegun
  have hmark : x ++ '=' :: (summaryStart.tail ++ rest) =
      (digits ++ summaryWords) ++ ("===".toList ++ behind) := by
    rw [← List.cons_append, ← hstart, ← hrest, hend]
    simp
  rcases append_cons_eq_append_iff.mp hmark with ⟨y, hy, -⟩ | ⟨marks, rfl, hmarks⟩
  · exact absurd (hy ▸ by simp) (mark_not_mem h.decimal)
  · rcases append_cons_eq_append_iff.mp hmarks with ⟨missing, hmissing, -⟩ | ⟨behind', rfl, -⟩
    · exact .inr ⟨marks, '=' :: missing, rfl, h.ne_nil, h.decimal, hmissing, List.cons_ne_nil _ _⟩
    · refine .inl ⟨behind', ?_, h.ne_nil, h.decimal⟩
      rw [hend]
      simp

theorem SummaryAt.append {text front digits behind : List Char}
    (h : SummaryAt text front digits behind) (rest : List Char) :
    SummaryAt (text ++ rest) front digits (behind ++ rest) := by
  refine ⟨?_, h.ne_nil, h.decimal⟩
  rw [h.text_eq]
  simp

/-- The marks with which another summary begins close an unfinished one. -/
theorem UnfinishedAt.closed {text front digits marks missing : List Char}
    (h : UnfinishedAt text front digits marks missing) (rest : List Char) :
    ∃ behind, SummaryAt (text ++ (summaryStart ++ rest)) front digits behind := by
  have hbegins : ∀ k ≤ 3, ("===".toList).drop k <+: summaryStart := by decide
  have hcount : marks.length ≤ 3 := by
    have hlength := congrArg List.length h.marks_eq
    rw [List.length_append] at hlength
    exact (Nat.le_add_right _ _).trans hlength.symm.le
  have hmissing : ("===".toList).drop marks.length = missing := by
    rw [h.marks_eq, List.drop_left]
  obtain ⟨left, hleft⟩ := hmissing ▸ hbegins marks.length hcount
  have hstart : summaryStart ++ rest = missing ++ (left ++ rest) := by
    rw [← hleft, List.append_assoc]
  have hend : summaryEnd = summaryWords ++ (marks ++ missing) := by
    rw [← h.marks_eq]
    decide
  refine ⟨left ++ rest, ?_, h.ne_nil, h.decimal⟩
  rw [hstart, hend, h.text_eq]
  simp

/-- A summary begins in a text: it is whole there, or it lacks closing marks at the end. -/
def BeginsIn (text front digits : List Char) : Prop :=
  (∃ behind, SummaryAt text front digits behind) ∨
    ∃ marks missing, UnfinishedAt text front digits marks missing

/-- Which summaries begin in front of the start of another is decided in front of it. -/
theorem beginsIn_iff {text front digits : List Char} (rest : List Char) :
    BeginsIn text front digits ↔
      (∃ behind, SummaryAt (text ++ (summaryStart ++ rest)) front digits behind) ∧
        front.length < text.length := by
  have hpos : 0 < summaryStart.length := by decide
  constructor
  · rintro (⟨behind, h⟩ | ⟨marks, missing, h⟩)
    · refine ⟨⟨_, h.append _⟩, ?_⟩
      rw [h.text_eq]
      simp only [List.length_append]
      omega
    · refine ⟨h.closed rest, ?_⟩
      rw [h.text_eq]
      simp only [List.length_append]
      omega
  · rintro ⟨⟨behind, h⟩, hlength⟩
    exact h.in_front hlength

/-! ## 4. The first summary -/

theorem exists_leftmost {p : List Char → List Char → Prop} (h : ∃ front digits, p front digits) :
    ∃ front digits, p front digits ∧
      ∀ front' digits', p front' digits' → front.length ≤ front'.length := by
  classical
  have hlengths : ∃ k front digits, p front digits ∧ front.length = k := by
    obtain ⟨front, digits, hp⟩ := h
    exact ⟨_, front, digits, hp, rfl⟩
  obtain ⟨front, digits, hp, hlength⟩ := Nat.find_spec hlengths
  refine ⟨front, digits, hp, fun front' digits' hp' => ?_⟩
  exact hlength ▸ Nat.find_min' hlengths ⟨front', digits', hp', rfl⟩

theorem SummaryAt.exists_first {text front digits behind : List Char}
    (h : SummaryAt text front digits behind) : ∃ digits, FirstSummary text digits := by
  obtain ⟨front, digits, ⟨behind, hsummary⟩, hfirst⟩ :=
    exists_leftmost (p := fun front digits => ∃ behind, SummaryAt text front digits behind)
      ⟨front, digits, behind, h⟩
  exact ⟨digits, front, behind, hsummary, fun front' digits' behind' h' =>
    hfirst front' digits' ⟨behind', h'⟩⟩

theorem firstSummary?_eq_none_iff {text : List Char} :
    firstSummary? text = none ↔ ∀ front digits behind, ¬SummaryAt text front digits behind := by
  simp only [Option.eq_none_iff_forall_ne_some, ne_eq, firstSummary?_eq_some_iff]
  constructor
  · intro h front digits behind hsummary
    obtain ⟨digits, hfirst⟩ := hsummary.exists_first
    exact h digits hfirst
  · rintro h digits ⟨front, behind, hsummary, -⟩
    exact h front digits behind hsummary

theorem FirstSummary.unique {text digits digits' : List Char} (h : FirstSummary text digits)
    (h' : FirstSummary text digits') : digits = digits' :=
  Option.some.inj
    ((firstSummary?_eq_some_iff.mpr h).symm.trans (firstSummary?_eq_some_iff.mpr h'))

/-- A summary that does not begin in front counts where one stands. -/
theorem SummaryAt.first {text digits behind : List Char}
    (h : SummaryAt (text ++ (summaryStart ++ (digits ++ (summaryEnd ++ behind)))) text digits
      behind)
    (hfront : ∀ front' digits', ¬BeginsIn text front' digits') :
    FirstSummary (text ++ (summaryStart ++ (digits ++ (summaryEnd ++ behind)))) digits := by
  refine ⟨text, behind, h, fun front' digits' behind' h' => ?_⟩
  by_contra hlength
  exact hfront front' digits' ((beginsIn_iff _).mpr ⟨⟨behind', h'⟩, Nat.not_le.mp hlength⟩)

/-- Where a summary begins in front, the digits of the first are the same whatever follows. -/
theorem BeginsIn.first {text : List Char} (h : ∃ front digits, BeginsIn text front digits) :
    ∃ digits, ∀ rest, FirstSummary (text ++ (summaryStart ++ rest)) digits := by
  obtain ⟨front, digits, hbegins, hfirst⟩ := exists_leftmost h
  refine ⟨digits, fun rest => ?_⟩
  obtain ⟨⟨behind, hsummary⟩, hlength⟩ := (beginsIn_iff rest).mp hbegins
  refine ⟨front, behind, hsummary, fun front' digits' behind' h' => ?_⟩
  by_cases hlength' : front'.length < text.length
  · exact hfirst front' digits' ((beginsIn_iff rest).mpr ⟨⟨behind', h'⟩, hlength'⟩)
  · omega

/-! ## 5. Counts -/

theorem upToDateCount?_eq_some_iff {stdout : String} {n : Nat} :
    upToDateCount? stdout = some n ↔
      ∃ digits, FirstSummary stdout.toList digits ∧ (∀ c ∈ digits, c.isDigit = true) ∧
        Nat.ofDigitChars 10 digits 0 = n ∧ n ≤ 4294967295 := by
  have hlimit : n < countLimit ↔ n ≤ 4294967295 := by
    rw [countLimit]
    omega
  simp only [upToDateCount?, Option.bind_eq_some_iff, Option.filter_eq_some_iff,
    firstSummary?_eq_some_iff, asciiNumber?_eq_some_iff, decide_eq_true_eq, hlimit]
  constructor
  · rintro ⟨digits, hfirst, ⟨-, hascii, hvalue⟩, hle⟩
    exact ⟨digits, hfirst, hascii, hvalue, hle⟩
  · rintro ⟨digits, hfirst, hascii, hvalue, hle⟩
    obtain ⟨front, behind, hsummary, -⟩ := id hfirst
    exact ⟨digits, hfirst, ⟨hsummary.ne_nil, hascii, hvalue⟩, hle⟩

theorem upToDateCount?_eq_none_iff {stdout : String} :
    upToDateCount? stdout = none ↔
      (∀ front digits behind, ¬SummaryAt stdout.toList front digits behind) ∨
      ∃ digits, FirstSummary stdout.toList digits ∧
        ((∃ c ∈ digits, c.isDigit = false) ∨ 4294967295 < Nat.ofDigitChars 10 digits 0) := by
  rw [← firstSummary?_eq_none_iff, Option.eq_none_iff_forall_ne_some]
  simp only [ne_eq, upToDateCount?_eq_some_iff]
  cases hfound : firstSummary? stdout.toList with
  | none =>
    refine iff_of_true ?_ (.inl rfl)
    rintro n ⟨digits, hfirst, -⟩
    rw [firstSummary?_eq_some_iff.mpr hfirst] at hfound
    cases hfound
  | some digits =>
    have hfirst := firstSummary?_eq_some_iff.mp hfound
    constructor
    · intro h
      refine .inr ⟨digits, hfirst, ?_⟩
      by_contra hcount
      push Not at hcount
      refine h _ ⟨digits, hfirst, fun c hc => ?_, rfl, hcount.2⟩
      exact (Bool.not_eq_false _).mp (hcount.1 c hc)
    · rintro (hnone | ⟨digits, hfirst, hcount⟩) n ⟨digits', hfirst', hascii, rfl, hle⟩
      · cases hnone
      · cases hfirst.unique hfirst'
        rcases hcount with ⟨c, hc, hdigit⟩ | hlarge
        · rw [hascii c hc] at hdigit
          cases hdigit
        · exact absurd hle (Nat.not_le.mpr hlarge)

/-! ## 6. Printed summaries -/

/-- The summary line of a build that found `n` projects up to date and did nothing else. -/
def summaryLine (n : Nat) : String :=
  "=== Build: 0 succeeded, 0 failed, " ++ toString n ++ " up-to-date, 0 skipped ==="

theorem summaryLine_toList (n : Nat) :
    (summaryLine n).toList = summaryStart ++ (Nat.toDigits 10 n ++ summaryEnd) := by
  have hn : (toString n).toList = Nat.toDigits 10 n := by
    rw [Nat.toString_eq_ofList_toDigits, String.toList_ofList]
  unfold summaryLine summaryStart summaryEnd
  rw [String.toList_append, String.toList_append, hn, List.append_assoc]

theorem toList_around_summaryLine (front behind : String) (n : Nat) :
    (front ++ summaryLine n ++ behind).toList =
      front.toList ++ (summaryStart ++ (Nat.toDigits 10 n ++ (summaryEnd ++ behind.toList))) := by
  rw [String.toList_append, String.toList_append, summaryLine_toList]
  simp only [List.append_assoc]

/-- Every number is read back exactly from behind the texts in which no summary begins. -/
theorem forall_reads_back_iff {front : String} :
    (∀ n ≤ 4294967295, ∀ behind : String,
      upToDateCount? (front ++ summaryLine n ++ behind) = some n) ↔
      ∀ front' digits, ¬BeginsIn front.toList front' digits := by
  simp only [upToDateCount?_eq_some_iff, toList_around_summaryLine]
  constructor
  · intro h front' digits hbegins
    -- Otherwise zero and one would be read back from the same digits.
    obtain ⟨digits, hfirst⟩ := BeginsIn.first ⟨front', digits, hbegins⟩
    obtain ⟨zero, hzero, -, hvalue, -⟩ := h 0 (by decide) ""
    obtain ⟨one, hone, -, hvalue', -⟩ := h 1 (by decide) ""
    rw [hzero.unique (hfirst _)] at hvalue
    rw [hone.unique (hfirst _), hvalue] at hvalue'
    cases hvalue'
  · intro h n hn behind
    have hascii : ∀ c ∈ Nat.toDigits 10 n, c.isDigit = true :=
      fun c hc => Nat.isDigit_of_mem_toDigits (by decide) (by decide) hc
    have hsummary : SummaryAt _ front.toList (Nat.toDigits 10 n) behind.toList :=
      ⟨rfl, Nat.toDigits_ne_nil, fun c hc => isDecimalDigit_of_isDigit (hascii c hc)⟩
    exact ⟨_, hsummary.first h, hascii, Nat.ofDigitChars_ten_toDigits, hn⟩

/-- **The first summary counts.**  The count of an output is `n` exactly if the digits of the
first summary in it are ASCII digits of value `n`, in 32 bits, and there is none exactly if
there is no summary or the first is not one of those.  What was printed is read back, exactly
behind the texts that neither hold a summary nor end in one that lacks closing marks.  The
verdict asks for a count of one. -/
theorem count_of_firstSummary :
    (∀ (stdout : String) (n : Nat), upToDateCount? stdout = some n ↔
      ∃ digits, FirstSummary stdout.toList digits ∧ (∀ c ∈ digits, c.isDigit = true) ∧
        Nat.ofDigitChars 10 digits 0 = n ∧ n ≤ 4294967295) ∧
    (∀ stdout : String, upToDateCount? stdout = none ↔
      (∀ front digits behind, ¬SummaryAt stdout.toList front digits behind) ∨
      ∃ digits, FirstSummary stdout.toList digits ∧
        ((∃ c ∈ digits, c.isDigit = false) ∨ 4294967295 < Nat.ofDigitChars 10 digits 0)) ∧
    (∀ front : String,
      (∀ n ≤ 4294967295, ∀ behind : String,
        upToDateCount? (front ++ summaryLine n ++ behind) = some n) ↔
      (∀ front' digits behind, ¬SummaryAt front.toList front' digits behind) ∧
        ∀ front' digits marks missing, ¬UnfinishedAt front.toList front' digits marks missing) ∧
    (∀ (tool : ToolResolution) (generation : VisualStudio.Generation) (target : Target)
      (m : Machine) (i : Invocation),
      (m.perform ((Backend.msvs tool generation).checkUpToDate target i)).1 = .ok i ↔
        upToDateCount? i.output.stdout = some 1) := by
  refine ⟨fun _ _ => upToDateCount?_eq_some_iff, fun _ => upToDateCount?_eq_none_iff, ?_, ?_⟩
  · intro front
    rw [forall_reads_back_iff]
    constructor
    · intro h
      exact ⟨fun front' digits behind h' => h front' digits (.inl ⟨behind, h'⟩),
        fun front' digits marks missing h' => h front' digits (.inr ⟨marks, missing, h'⟩)⟩
    · rintro ⟨hsummary, hunfinished⟩ front' digits (⟨behind, h⟩ | ⟨marks, missing, h⟩)
      · exact hsummary front' digits behind h
      · exact hunfinished front' digits marks missing h
  · intro tool generation target m i
    rw [Backend.checkUpToDate_eq_ok_iff _ m (by rintro ⟨⟩)]
    constructor
    · rintro ⟨⟩
      assumption
    · exact .msvs tool generation target

/-- A rule of marks around a summary line does not change its count. -/
theorem count_of_firstSummary_in_rule :
    let front := "Build started\r\n======="
    let i : Invocation :=
      { command := "devenv p.sln /Build", directory := ⟨"/work"⟩
        output := { status := some 0, stdout := front ++ summaryLine 1 ++ "=======\r\n" } }
    (∀ front' digits behind, ¬SummaryAt front.toList front' digits behind) ∧
      (∀ front' digits marks missing, ¬UnfinishedAt front.toList front' digits marks missing) ∧
      upToDateCount? i.output.stdout = some 1 ∧
      ((default : Machine).perform
        ((Backend.msvs (.found ⟨"devenv"⟩) .msbuild).checkUpToDate .all i)).1 = .ok i := by
  intro front i
  obtain ⟨-, hnone, hreads, hverdict⟩ := count_of_firstSummary
  have hsummary : ∀ front' digits behind, ¬SummaryAt front.toList front' digits behind :=
    firstSummary?_eq_none_iff.mp (by decide)
  have hunfinished : ∀ front' digits marks missing,
      ¬UnfinishedAt front.toList front' digits marks missing := by
    intro front' digits marks missing h
    have hskipped : 'k' ∉ front.toList := by decide
    refine hskipped ?_
    have hwords : 'k' ∈ summaryWords := by decide
    rw [h.text_eq]
    simp only [List.mem_append, hwords, or_true, true_or]
  have hcount : upToDateCount? i.output.stdout = some 1 :=
    (hreads front).mpr ⟨hsummary, hunfinished⟩ 1 (by decide) "=======\r\n"
  exact ⟨hsummary, hunfinished, hcount, (hverdict _ _ _ _ _).mpr hcount⟩

/-- **An unfinished summary spoils the next.**  Not every number is read back from behind a text
that holds no summary: one that lacks its closing marks takes those with which the
next begins, and counts. -/
theorem not_forall_reads_back :
    ¬ ∀ n ≤ 4294967295, ∀ front behind : String,
        (∀ front' digits behind', ¬SummaryAt front.toList front' digits behind') →
        upToDateCount? (front ++ summaryLine n ++ behind) = some n := by
  intro h
  let front := "=== Build: 0 succeeded, 0 failed, 5 up-to-date, 0 skipped "
  have hsummary : ∀ front' digits behind, ¬SummaryAt front.toList front' digits behind :=
    firstSummary?_eq_none_iff.mp (by decide)
  have hcount : upToDateCount? (front ++ summaryLine 1 ++ "") = some 5 := by
    rw [upToDateCount?, toList_around_summaryLine]
    decide
  rw [h 1 (by decide) front "" hsummary] at hcount
  cases hcount

end CrossBuild.Msvs
