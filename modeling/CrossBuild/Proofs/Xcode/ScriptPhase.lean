import CrossBuild.Build.Xcode
import CrossBuild.Proofs.Text.Cut
import CrossBuild.Proofs.Text.Removal

/-!
# Blocks of script phases

What the scanner of `Xcode.phaseBlock?` accepts, as a grammar: a line end and
three lines, with a path text or the path of a script in each, and a fourth
line if that one follows.  The texts in the lines have no blanks, so the
scanner needs no choice: it cuts at line ends, and reads a hash from the end
of its line.

A block therefore is one of a `Phase` (`phaseBlock?_eq_some_iff`), and blocks
are a pattern in the sense of `Text.IsPattern`.  Both kinds of noise are then
removed as `Text.Removes` says.
-/
namespace CrossBuild.Xcode

open Text (Starts IsPattern Removes Literal)

/-! ## 1. Paths -/

/-- An absolute path without blanks. -/
def PathText (text : List Char) : Prop :=
  ∃ x, text = '/' :: x ∧ x ≠ [] ∧ ∀ c ∈ x, Text.isBlank c = false

/-- The path of a phase's script. -/
def ScriptPath (text : List Char) : Prop :=
  ∃ folder hash, PathText folder ∧ hash ≠ [] ∧ (∀ c ∈ hash, isHashDigit c = true) ∧
    text = folder ++ ("/Script-".toList ++ (hash ++ ".sh".toList))

theorem isPathText_iff {text : List Char} : isPathText text = true ↔ PathText text := by
  unfold isPathText
  split
  · rename_i c cs
    simp only [List.all_eq_true, Bool.not_eq_true']
    constructor
    · exact fun h => ⟨c :: cs, rfl, List.cons_ne_nil c cs, h⟩
    · rintro ⟨x, hx, -, h⟩
      cases hx
      exact h
  · rename_i hshort
    refine iff_of_false Bool.false_ne_true ?_
    rintro ⟨x, rfl, hne, -⟩
    obtain ⟨c, cs, rfl⟩ := List.exists_cons_of_ne_nil hne
    exact hshort c cs rfl

theorem PathText.not_blank {text : List Char} (h : PathText text) :
    ∀ c ∈ text, Text.isBlank c = false := by
  obtain ⟨x, rfl, -, hx⟩ := h
  intro c hc
  rcases List.mem_cons.mp hc with rfl | hc
  · decide
  · exact hx c hc

theorem isBlank_of_isHashDigit {c : Char} (h : isHashDigit c = true) : Text.isBlank c = false := by
  have hrange : (48 ≤ c.toNat ∧ c.toNat ≤ 57) ∨ (65 ≤ c.toNat ∧ c.toNat ≤ 70) := by
    simpa [isHashDigit, Char.le_def, UInt32.le_iff_toNat_le] using h
  simp only [Text.isBlank, Bool.or_eq_false_iff, Bool.and_eq_false_iff, decide_eq_false_iff_not,
    beq_eq_false_iff_ne]
  omega

theorem ScriptPath.not_blank {text : List Char} (h : ScriptPath text) :
    ∀ c ∈ text, Text.isBlank c = false := by
  obtain ⟨folder, hash, hfolder, -, hhash, rfl⟩ := h
  have hname : ∀ c ∈ "/Script-".toList, Text.isBlank c = false :=
    Text.eq_false_of_all (by decide)
  have hend : ∀ c ∈ ".sh".toList, Text.isBlank c = false := Text.eq_false_of_all (by decide)
  intro c hc
  simp only [List.mem_append] at hc
  rcases hc with hc | hc | hc | hc
  · exact hfolder.not_blank c hc
  · exact hname c hc
  · exact isBlank_of_isHashDigit (hhash c hc)
  · exact hend c hc

/-- A hash is what a script's name ends with: the character in front of it is no digit. -/
theorem isScriptPath_iff {text : List Char} : isScriptPath text = true ↔ ScriptPath text := by
  unfold isScriptPath
  constructor
  · intro h
    split at h
    · cases h
    · rename_i named hnamed
      rw [Text.before?_eq_some_iff] at hnamed
      simp only at h
      split at h
      · cases h
      · rename_i folder hfolder
        rw [Text.before?_eq_some_iff] at hfolder
        simp only [Bool.and_eq_true, Bool.not_eq_true', List.isEmpty_eq_false_iff,
          isPathText_iff] at h
        refine ⟨folder, (named.reverse.takeWhile isHashDigit).reverse, h.2, by simpa using h.1,
          fun c hc => List.mem_takeWhile_imp (List.mem_reverse.mp hc), ?_⟩
        have hsplit : named = (named.reverse.dropWhile isHashDigit).reverse ++
            (named.reverse.takeWhile isHashDigit).reverse := by
          rw [← List.reverse_append, List.takeWhile_append_dropWhile, List.reverse_reverse]
        rw [hnamed, ← List.append_assoc folder, ← hfolder, ← List.append_assoc, ← hsplit]
  · rintro ⟨folder, hash, hfolder, hhash, hdigits, rfl⟩
    have hnamed : Text.before? ".sh".toList
        (folder ++ ("/Script-".toList ++ (hash ++ ".sh".toList))) =
          some (folder ++ ("/Script-".toList ++ hash)) := by
      rw [Text.before?_eq_some_iff]
      simp only [List.append_assoc]
    have hreverse : (folder ++ ("/Script-".toList ++ hash)).reverse =
        hash.reverse ++ '-' :: ("/Script".toList.reverse ++ folder.reverse) := by
      simp
    have hdigits' : ∀ c ∈ hash.reverse, isHashDigit c = true := by simpa using hdigits
    have htake : (folder ++ ("/Script-".toList ++ hash)).reverse.takeWhile isHashDigit =
        hash.reverse := by
      rw [hreverse, List.takeWhile_append_of_pos hdigits', List.takeWhile_cons_of_neg (by decide),
        List.append_nil]
    have hdrop : ((folder ++ ("/Script-".toList ++ hash)).reverse.dropWhile isHashDigit).reverse =
        folder ++ "/Script-".toList := by
      rw [hreverse, List.dropWhile_append_of_pos hdigits', List.dropWhile_cons_of_neg (by decide)]
      simp
    have hfront : Text.before? "/Script-".toList (folder ++ "/Script-".toList) = some folder :=
      Text.before?_eq_some_iff.mpr rfl
    simp only [hnamed, htake, hdrop, hfront]
    simp [isPathText_iff.mpr hfolder, hhash]

/-! ## 2. Lines -/

/-- The line of a start and a text. -/
def lineText (start : String) (text : List Char) : List Char :=
  start.toList ++ (text ++ ['\n'])

theorem line?_eq_some_iff {cs line rest : List Char} :
    line? cs = some (line, rest) ↔ cs = line ++ '\n' :: rest ∧ '\n' ∉ line := by
  induction cs generalizing line with
  | nil => simp [line?]
  | cons c cs ih =>
    by_cases hc : c = '\n'
    · subst hc
      cases line with
      | nil => simp [line?]
      | cons d line =>
        simp only [line?, if_true, Option.some.injEq, Prod.mk.injEq, List.cons_append,
          List.mem_cons, not_or, List.cons_eq_cons, reduceCtorEq, false_and, false_iff]
        rintro ⟨⟨hd, -⟩, hne, -⟩
        exact hne hd
    · simp only [line?, hc, if_false, Option.map_eq_some_iff, Prod.exists, Prod.mk.injEq]
      cases line with
      | nil => simp [hc]
      | cons d line =>
        simp only [List.cons_append, List.cons_eq_cons, List.mem_cons, not_or]
        constructor
        · rintro ⟨line', rest', h, ⟨rfl, rfl⟩, rfl⟩
          obtain ⟨hcs, hline⟩ := ih.mp h
          exact ⟨⟨rfl, hcs⟩, Ne.symm hc, hline⟩
        · rintro ⟨⟨rfl, hcs⟩, -, hline⟩
          exact ⟨line, rest, ih.mpr ⟨hcs, hline⟩, ⟨rfl, rfl⟩, rfl⟩

theorem lineOf?_eq_some_iff {start : String} {valid : List Char → Bool} {cs rest : List Char}
    (hstart : '\n' ∉ start.toList) (hvalid : ∀ text, valid text = true → '\n' ∉ text) :
    lineOf? start valid cs = some rest ↔
      ∃ text, valid text = true ∧ cs = lineText start text ++ rest := by
  simp only [lineOf?, Option.bind_eq_some_iff, Prod.exists, line?_eq_some_iff, lineText]
  constructor
  · rintro ⟨line, rest', ⟨rfl, -⟩, h⟩
    cases hafter : Text.after? start.toList line with
    | none => simp [hafter] at h
    | some text =>
      rw [Text.after?_eq_some_iff] at hafter
      subst hafter
      simp only [Text.after?_eq_some_iff.mpr rfl] at h
      split at h
      · rename_i htext
        cases h
        exact ⟨text, htext, by simp⟩
      · cases h
  · rintro ⟨text, htext, rfl⟩
    refine ⟨start.toList ++ text, rest, ⟨by simp, ?_⟩, ?_⟩
    · rw [List.mem_append, not_or]
      exact ⟨hstart, hvalid text htext⟩
    · simp only [Text.after?_eq_some_iff.mpr rfl]
      rw [if_pos htext]

/-! ## 3. Blocks -/

/-- What a script phase prints. -/
structure Phase where
  /-- The script that is announced. -/
  script : List Char
  /-- The folder that it is run in. -/
  folder : List Char
  /-- The script that is run. -/
  command : List Char
  script_valid : ScriptPath script
  folder_valid : PathText folder
  command_valid : ScriptPath command

/-- The three lines of a phase, after the line end that comes first. -/
def Phase.text (p : Phase) : List Char :=
  '\n' :: (lineText "PhaseScriptExecution " p.script ++
    (lineText "    cd " p.folder ++ lineText "    /bin/sh -c " p.command))

theorem Phase.text_append (p : Phase) (tail : List Char) :
    p.text ++ tail = '\n' :: (lineText "PhaseScriptExecution " p.script ++
      (lineText "    cd " p.folder ++ (lineText "    /bin/sh -c " p.command ++ tail))) := by
  simp [Phase.text]

/-- A phase with short paths. -/
def Phase.short : Phase where
  script := "/a/Script-0.sh".toList
  folder := "/b".toList
  command := "/c/Script-0.sh".toList
  script_valid := isScriptPath_iff.mp (by decide)
  folder_valid := isPathText_iff.mp (by decide)
  command_valid := isScriptPath_iff.mp (by decide)

/-- A block is the text of a phase, and the line about an idle tool whenever it follows
directly. -/
inductive PhaseAt : List Char → List Char → Prop where
  | idle (p : Phase) (rest : List Char) : PhaseAt (p.text ++ idleLine) rest
  | plain (p : Phase) {rest : List Char} (absent : ¬idleLine <+: rest) : PhaseAt p.text rest

theorem PhaseAt.exists_phase {b rest : List Char} (h : PhaseAt b rest) :
    ∃ (p : Phase) (tail : List Char), b = p.text ++ tail ∧ (tail = [] ∨ tail = idleLine) := by
  cases h with
  | idle p => exact ⟨p, idleLine, rfl, .inr rfl⟩
  | plain p => exact ⟨p, [], (List.append_nil _).symm, .inl rfl⟩

theorem newline_not_mem {text : List Char} (h : ∀ c ∈ text, Text.isBlank c = false) :
    '\n' ∉ text :=
  fun hmem => absurd (h _ hmem) (by decide)

theorem scriptLine_iff {start : String} (hstart : '\n' ∉ start.toList) {cs rest : List Char} :
    lineOf? start isScriptPath cs = some rest ↔
      ∃ text, ScriptPath text ∧ cs = lineText start text ++ rest := by
  rw [lineOf?_eq_some_iff hstart fun text h => newline_not_mem (isScriptPath_iff.mp h).not_blank]
  simp only [isScriptPath_iff]

theorem pathLine_iff {start : String} (hstart : '\n' ∉ start.toList) {cs rest : List Char} :
    lineOf? start isPathText cs = some rest ↔
      ∃ text, PathText text ∧ cs = lineText start text ++ rest := by
  rw [lineOf?_eq_some_iff hstart fun text h => newline_not_mem (isPathText_iff.mp h).not_blank]
  simp only [isPathText_iff]

/-- What is left after the three lines of a phase, and after the fourth one if it follows. -/
theorem phaseBlock?_newline_iff {tail rest : List Char} :
    phaseBlock? ('\n' :: tail) = some rest ↔
      ∃ (p : Phase) (after : List Char), '\n' :: tail = p.text ++ after ∧
        (Text.after? idleLine after).getD after = rest := by
  simp only [phaseBlock?, Option.bind_eq_some_iff, Option.map_eq_some_iff,
    scriptLine_iff (show '\n' ∉ "PhaseScriptExecution ".toList by decide),
    pathLine_iff (show '\n' ∉ "    cd ".toList by decide),
    scriptLine_iff (show '\n' ∉ "    /bin/sh -c ".toList by decide)]
  constructor
  · rintro ⟨_, ⟨script, hscript, rfl⟩, _, ⟨folder, hfolder, rfl⟩, after,
      ⟨command, hcommand, rfl⟩, hrest⟩
    exact ⟨⟨script, folder, command, hscript, hfolder, hcommand⟩, after,
      by rw [Phase.text_append], hrest⟩
  · rintro ⟨p, after, htail, hrest⟩
    refine ⟨_, ⟨p.script, p.script_valid, ?_⟩, _, ⟨p.folder, p.folder_valid, rfl⟩, after,
      ⟨p.command, p.command_valid, rfl⟩, hrest⟩
    rw [p.text_append] at htail
    exact (List.cons_eq_cons.mp htail).2

theorem newline_of_phaseBlock? {cs rest : List Char} (h : phaseBlock? cs = some rest) :
    ∃ tail, cs = '\n' :: tail := by
  unfold phaseBlock? at h
  split at h
  · exact ⟨_, rfl⟩
  · cases h

/-- The scanner accepts the blocks, and no other texts. -/
theorem phaseBlock?_eq_some_iff {cs rest : List Char} :
    phaseBlock? cs = some rest ↔ ∃ b, PhaseAt b rest ∧ cs = b ++ rest := by
  constructor
  · intro h
    obtain ⟨tail, rfl⟩ := newline_of_phaseBlock? h
    obtain ⟨p, after, hcs, hrest⟩ := phaseBlock?_newline_iff.mp h
    rw [hcs]
    rcases Text.getD_after?_iff.mp hrest with rfl | ⟨absent, rfl⟩
    · exact ⟨p.text ++ idleLine, .idle p rest, (List.append_assoc _ _ _).symm⟩
    · exact ⟨p.text, .plain p absent, rfl⟩
  · rintro ⟨b, hb, rfl⟩
    cases hb with
    | idle p =>
      have hrest := Text.getD_after?_iff.mpr (.inl (Eq.refl (idleLine ++ rest)))
      exact phaseBlock?_newline_iff.mpr ⟨p, idleLine ++ rest, by simp [Phase.text], hrest⟩
    | plain p absent =>
      have hrest := Text.getD_after?_iff.mpr (.inr ⟨absent, rfl⟩)
      exact phaseBlock?_newline_iff.mpr ⟨p, rest, by simp [Phase.text], hrest⟩

theorem isPattern_phase : IsPattern PhaseAt where
  ne_nil hb := by
    cases hb <;> simp [Phase.text]
  unique {b rest b' rest'} hb hb' he := by
    have h : phaseBlock? (b ++ rest) = some rest := phaseBlock?_eq_some_iff.mpr ⟨b, hb, rfl⟩
    have h' : phaseBlock? (b ++ rest) = some rest' := phaseBlock?_eq_some_iff.mpr ⟨b', hb', he⟩
    cases h.symm.trans h'
    exact List.append_cancel_right he

/-! ## 4. The two scans -/

theorem phaseBlock?_eq_none_iff {cs : List Char} :
    phaseBlock? cs = none ↔ ¬Starts PhaseAt cs := by
  rw [Option.eq_none_iff_forall_ne_some]
  simp only [ne_eq, phaseBlock?_eq_some_iff, Starts]
  grind

theorem removes_phases : Removes PhaseAt withoutPhases where
  nil := by
    rw [withoutPhases]
    rfl
  block {b rest} hb := by
    have h : phaseBlock? (b ++ rest) = some rest := phaseBlock?_eq_some_iff.mpr ⟨b, hb, rfl⟩
    rw [withoutPhases]
    split
    · rename_i rest' h'
      cases h.symm.trans h'
      rfl
    · rename_i h'
      cases h.symm.trans h'
  char {c cs} h := by
    rw [← phaseBlock?_eq_none_iff] at h
    rw [withoutPhases]
    split
    · rename_i h'
      cases h.symm.trans h'
    · rfl

theorem removes_shutdown : Removes (Literal shutdownLine) withoutShutdown where
  nil := by
    rw [withoutShutdown]
    rfl
  block {b rest} hb := by
    have h : Text.after? shutdownLine (b ++ rest) = some rest :=
      Text.after?_eq_some_iff.mpr (congrArg (· ++ rest) hb)
    rw [withoutShutdown]
    split
    · rename_i rest' h'
      cases h.symm.trans h'
      rfl
    · rename_i h'
      cases h.symm.trans h'
  char {c cs} h := by
    rw [Text.starts_literal] at h
    rw [withoutShutdown]
    split
    · rename_i rest' h'
      rw [Text.after?_eq_some_iff] at h'
      exact absurd ⟨rest', h'.symm⟩ h
    · rfl

theorem shutdownLine_ne_nil : shutdownLine ≠ [] := by decide

/-- The shutdown line has one line end. -/
theorem shutdownLine_eq : ∃ body, shutdownLine = body ++ ['\n'] ∧ '\n' ∉ body :=
  ⟨"__________Shutting down distcc-pump include server".toList, by decide, by decide⟩

theorem unbordered_shutdownLine : Text.Unbordered shutdownLine := by
  obtain ⟨body, hbody, hnewline⟩ := shutdownLine_eq
  exact hbody ▸ Text.unbordered_of_lineEnd hnewline

end CrossBuild.Xcode
