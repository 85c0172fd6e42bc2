import CrossBuild.Proofs.Xcode.Marker

/-!
# Shutdown lines that land in the output

The distributed compiler may print its line wherever a line of the output begins.  Both
scans then go on as they would without it, as long as no match goes over the place:
the inserted line neither ends a block early nor begins one.

Inside a block it keeps the block from being one, since blocks are looked for before
shutdown lines are taken out.  The rest of the block is left standing, and a build with
nothing to do is taken for one that did something
(`Xcode.not_forall_isNoOpOutput_insert`).
-/
namespace CrossBuild.Xcode

open Text

/-! ## 1. Line ends of a block -/

theorem newline_of_lineText {start : String} {text x y z : List Char}
    (hstart : '\n' ∉ start.toList) (htext : '\n' ∉ text)
    (h : x ++ '\n' :: y = lineText start text ++ z) : y = z ∨ ∃ x', x' ++ '\n' :: y = z := by
  rw [lineText, List.append_assoc, List.append_assoc] at h
  obtain ⟨x₀, h₀⟩ := cons_of_append_of_notMem hstart h
  obtain ⟨x₁, h₁⟩ := cons_of_append_of_notMem htext h₀
  cases x₁ with
  | nil => exact .inl (List.cons_eq_cons.mp h₁).2
  | cons c x₂ => exact .inr ⟨x₂, (List.cons_eq_cons.mp h₁).2⟩

/-- A line of a block does not begin with an underscore. -/
theorem Phase.not_underscore {p : Phase} {tail x y : List Char} (htail : '_' ∉ tail) :
    x ++ '\n' :: '_' :: y ≠ p.text ++ tail := by
  intro h
  rw [p.text_append] at h
  have hscript := newline_not_mem p.script_valid.not_blank
  have hfolder := newline_not_mem p.folder_valid.not_blank
  have hcommand := newline_not_mem p.command_valid.not_blank
  cases x with
  | nil => cases (List.cons_eq_cons.mp h).2
  | cons c x =>
    have h₀ := (List.cons_eq_cons.mp h).2
    rcases newline_of_lineText (by decide) hscript h₀ with h₁ | ⟨x₁, h₁⟩
    · cases h₁
    rcases newline_of_lineText (by decide) hfolder h₁ with h₂ | ⟨x₂, h₂⟩
    · cases h₂
    rcases newline_of_lineText (by decide) hcommand h₂ with h₃ | ⟨x₃, h₃⟩
    · exact htail (h₃ ▸ List.mem_cons_self)
    · exact htail (h₃ ▸ by simp)

theorem PhaseAt.not_underscore {x y rest : List Char} :
    ¬PhaseAt (x ++ '\n' :: '_' :: y) rest := by
  intro h
  obtain ⟨p, tail, hb, htail⟩ := h.exists_phase
  refine p.not_underscore ?_ hb
  rcases htail with rfl | rfl <;> decide

/-! ## 2. Cuts at a place -/

/-- A place is at the start of a line. -/
def AtLineStart (a : List Char) : Prop :=
  a = [] ∨ ∃ front, a = front ++ ['\n']

/-- Whatever follows the text of a block, a block begins it. -/
theorem PhaseAt.starts {b rest : List Char} (h : PhaseAt b rest) (rest' : List Char) :
    Starts PhaseAt (b ++ rest') := by
  cases h with
  | idle p => exact ⟨_, rest', .idle p rest', rfl⟩
  | plain p =>
    by_cases hidle : idleLine <+: rest'
    · obtain ⟨rest'', rfl⟩ := hidle
      exact ⟨_, rest'', .idle p rest'', (List.append_assoc _ _ _).symm⟩
    · exact ⟨_, rest', .plain p hidle, rfl⟩

theorem underscore_of_shutdownLine (rest : List Char) :
    ∃ t, shutdownLine ++ rest = '_' :: t :=
  ⟨_, rfl⟩

/-- The line about an idle tool has no underscore, and so does not go on in a shutdown line. -/
theorem PhaseAt.insert {b rest w : List Char} (h : PhaseAt b (rest ++ w)) :
    PhaseAt b (rest ++ (shutdownLine ++ w)) := by
  generalize hafter : rest ++ w = after at h
  cases h with
  | idle p => exact .idle p _
  | plain p absent =>
    refine .plain p ?_
    rintro ⟨more, hmore⟩
    rcases List.append_eq_append_iff.mp hmore with ⟨u, rfl, hu⟩ | ⟨u, hidle, hu⟩
    · exact absent (hafter ▸ List.append_assoc _ _ _ ▸ List.prefix_append _ _)
    · cases u with
      | nil =>
        rw [List.append_nil] at hidle
        exact absent (hafter ▸ hidle ▸ List.prefix_append _ _)
      | cons c u =>
        obtain ⟨t, ht⟩ := underscore_of_shutdownLine w
        obtain ⟨rfl, -⟩ := List.cons_eq_cons.mp (ht.symm.trans hu)
        exact absurd (hidle ▸ by simp) (show '_' ∉ idleLine by decide)

theorem starts_of_insert {v w : List Char} (hv : v ≠ []) (hline : AtLineStart v)
    (h : Starts PhaseAt (v ++ (shutdownLine ++ w))) : Starts PhaseAt (v ++ w) := by
  obtain ⟨b, rest, hb, he⟩ := h
  rcases List.append_eq_append_iff.mp he with ⟨y, rfl, hy⟩ | ⟨rest', rfl, rfl⟩
  · cases y with
    | nil =>
      rw [List.append_nil] at hb
      exact hb.starts w
    | cons c y =>
      obtain ⟨front, rfl⟩ := hline.resolve_left hv
      obtain ⟨t, ht⟩ := underscore_of_shutdownLine w
      obtain ⟨rfl, -⟩ := List.cons_eq_cons.mp (ht.symm.trans hy)
      rw [List.append_assoc] at hb
      exact absurd hb PhaseAt.not_underscore
  · rw [List.append_assoc]
    exact hb.starts _

theorem AtLineStart.of_suffix {a v : List Char} (h : AtLineStart a) (hv : v ≠ [])
    (hsuffix : v <:+ a) : AtLineStart v := by
  obtain ⟨u, rfl⟩ := hsuffix
  obtain ⟨v, c, rfl⟩ := List.eq_nil_or_concat v |>.resolve_left hv
  rcases h with h | ⟨front, h⟩
  · simp at h
  · rw [List.concat_eq_append, ← List.append_assoc] at h
    exact .inr ⟨v, by rw [List.concat_eq_append, (List.append_inj' h rfl).2]⟩

/-- The blocks in front of a place are cut as before. -/
theorem split_phase_insert {a w last : List Char} {pieces : List (List Char × List Char)}
    (hline : AtLineStart a) (h : Split PhaseAt w a pieces last) :
    Split PhaseAt (shutdownLine ++ w) a pieces last :=
  h.transfer (fun _ _ hb => hb.insert) fun _ hv hsuffix hstarts =>
    starts_of_insert hv (hline.of_suffix hv hsuffix) hstarts

theorem withoutPhases_insert {w : List Char} (h : ¬Starts PhaseAt ('\n' :: w)) :
    withoutPhases (shutdownLine ++ w) = shutdownLine ++ withoutPhases w := by
  obtain ⟨body, hbody, hnewline⟩ := shutdownLine_eq
  have hfree : Free PhaseAt (body ++ ['\n']) w :=
    free_append.mpr ⟨free_phase_of_newline hnewline, free_cons.mpr ⟨h, free_nil⟩⟩
  rw [hbody]
  exact removes_phases.gap hfree

/-! ## 3. Insertions -/

/-- No match goes over the place between two texts, and no block begins with the end of a line
in front of the second. -/
inductive Apart (a b : List Char) : Prop where
  | intro {pieces lines : List (List Char × List Char)} {last remainder : List Char}
    (phases : Split PhaseAt b a pieces last)
    (shutdowns : Split (Literal shutdownLine) (withoutPhases b) (kept pieces last) lines remainder)
    (follows : ¬Starts PhaseAt ('\n' :: b))

/-- Where no match goes over the place, an inserted line is gone after both scans. -/
theorem Apart.cleaned {a b : List Char} (h : Apart a b) (hline : AtLineStart a) :
    withoutShutdown (withoutPhases (a ++ (shutdownLine ++ b))) =
      withoutShutdown (withoutPhases (a ++ b)) := by
  obtain ⟨phases, shutdowns, follows⟩ := h
  rw [removes_phases.split (split_phase_insert hline phases), removes_phases.split phases,
    withoutPhases_insert follows,
    removes_shutdown.split (shutdowns.insert unbordered_shutdownLine),
    removes_shutdown.split shutdowns, withoutShutdown_line]

/-- No shutdown line goes over the start of a line. -/
theorem exists_split_shutdown {a : List Char} (hline : AtLineStart a) (w : List Char) :
    ∃ lines remainder, Split (Literal shutdownLine) w a lines remainder := by
  obtain ⟨lines, remainder, hsplit⟩ :=
    (isPattern_literal shutdownLine_ne_nil).exists_split uncrossed_nil a
  refine ⟨lines, remainder, hsplit.transfer (fun _ _ hb => hb) fun v hv hsuffix hstarts => ?_⟩
  rw [starts_literal] at hstarts
  rw [starts_literal, List.append_nil]
  obtain ⟨rest, he⟩ := hstarts
  rcases List.append_eq_append_iff.mp he with ⟨u, rfl, -⟩ | ⟨y, hy, -⟩
  · exact List.prefix_append _ _
  · -- The line end of the text would be that of the shutdown line, which has no other.
    obtain ⟨front, rfl⟩ := (hline.of_suffix hv hsuffix).resolve_left hv
    obtain ⟨body, hbody, hnewline⟩ := shutdownLine_eq
    have hends : body ++ '\n' :: [] = front ++ '\n' :: y := by
      rw [← hbody, hy, List.append_assoc]
      rfl
    obtain ⟨-, -, rfl⟩ := (List.append_cons_inj_of_notMem hnewline List.not_mem_nil).mp hends
    exact ⟨[], by rw [List.append_nil, hy, List.append_nil]⟩

theorem Apart.stripNoise {a b : String} (h : Apart a.toList b.toList)
    (hline : AtLineStart a.toList) :
    Xcode.stripNoise (a ++ String.ofList shutdownLine ++ b) = Xcode.stripNoise (a ++ b) := by
  simp only [Xcode.stripNoise, String.toList_append, String.toList_ofList, List.append_assoc,
    h.cleaned hline]

/-- Where there are no blocks, the line may land at the start of any line. -/
theorem stripNoise_insert_of_free {a b : String} (hline : AtLineStart a.toList)
    (ha : Free PhaseAt a.toList b.toList) (hb : ¬Starts PhaseAt ('\n' :: b.toList)) :
    stripNoise (a ++ String.ofList shutdownLine ++ b) = stripNoise (a ++ b) := by
  obtain ⟨lines, remainder, hshutdowns⟩ :=
    exists_split_shutdown hline (withoutPhases b.toList)
  have hapart : Apart a.toList b.toList := .intro (.last ha) hshutdowns hb
  exact hapart.stripNoise hline

/-- **Where a shutdown line may land.**  At the start of a line it does not change the verdict
if no match goes over the place and no block begins with its line end, nor if what
follows the place is accepted by itself. -/
theorem isNoOpOutput_insert {a b : String} (hline : a = "" ∨ ∃ front, a = front ++ "\n")
    (h : Apart a.toList b.toList ∨ isNoOpOutput b = true) :
    isNoOpOutput (a ++ String.ofList shutdownLine ++ b) = isNoOpOutput (a ++ b) := by
  have hstart : AtLineStart a.toList := by
    rcases hline with rfl | ⟨front, rfl⟩
    · exact .inl rfl
    · exact .inr ⟨front.toList, String.toList_append⟩
  rcases h with h | h
  · rw [isNoOpOutput, isNoOpOutput, h.stripNoise hstart]
  · rw [Bool.eq_iff_iff, isNoOpOutput_iff, isNoOpOutput_iff]
    rw [isNoOpOutput_iff] at h
    simp only [String.toList_append]
    exact iff_of_true (h.append _) (h.append _)

/-- Right after a block, where what is left in front does not end a line. -/
theorem isNoOpOutput_insert_after_block :
    let a := "Checking Dependencies..." ++ String.ofList Phase.short.text
    let b := "\n** BUILD SUCCEEDED **\n"
    Apart a.toList b.toList ∧
      isNoOpOutput (a ++ String.ofList shutdownLine ++ b) = isNoOpOutput (a ++ b) := by
  intro a b
  have hblock : PhaseAt Phase.short.text ([] ++ b.toList) := .plain _ (by decide)
  have hfree : Free PhaseAt "Checking Dependencies...".toList
      (Phase.short.text ++ ([] ++ b.toList)) := free_phase (by decide) (by decide)
  have hsplit : Split PhaseAt b.toList a.toList
      [("Checking Dependencies...".toList, Phase.short.text)] [] := by
    simpa [a] using Split.piece hfree hblock (.last free_nil)
  have hapart : Apart a.toList b.toList := by
    refine .intro hsplit (.last (free_shutdown (by decide))) fun hstarts => ?_
    exact absurd (newline_of_starts hstarts).2 (by decide)
  have hline : a = "" ∨ ∃ front, a = front ++ "\n" := by
    refine .inr ⟨"Checking Dependencies..." ++ String.ofList Phase.short.text.dropLast, ?_⟩
    decide
  exact ⟨hapart, isNoOpOutput_insert hline (.inl hapart)⟩

/-! ## 4. Insertions into a block -/

theorem lineText_append_inj {start : String} {text text' z z' : List Char} (htext : '\n' ∉ text)
    (htext' : '\n' ∉ text') (h : lineText start text ++ z = lineText start text' ++ z') :
    text = text' ∧ z = z' := by
  have hline : text ++ '\n' :: z = text' ++ '\n' :: z' := by simpa [lineText] using h
  have hfirst := line?_eq_some_iff.mpr ⟨Eq.refl (text ++ '\n' :: z), htext⟩
  cases hfirst.symm.trans (line?_eq_some_iff.mpr ⟨hline, htext'⟩)
  exact ⟨rfl, rfl⟩

/-- A block goes on right after its first line. -/
theorem not_starts_interrupted {script rest : List Char} (hscript : '\n' ∉ script) :
    ¬Starts PhaseAt ('\n' :: (lineText "PhaseScriptExecution " script ++ '_' :: rest)) := by
  rintro ⟨b, after, hb, he⟩
  obtain ⟨p, tail, rfl, -⟩ := hb.exists_phase
  rw [List.append_assoc, p.text_append] at he
  have hlines := (List.cons_eq_cons.mp he).2
  have hrest := (lineText_append_inj hscript (newline_not_mem p.script_valid.not_blank) hlines).2
  cases hrest

/-- Inside a block an inserted line keeps it from being removed. -/
theorem not_forall_isNoOpOutput_insert :
    ¬∀ a b : String, (a = "" ∨ ∃ front, a = front ++ "\n") →
      isNoOpOutput (a ++ String.ofList shutdownLine ++ b) = isNoOpOutput (a ++ b) := by
  intro hall
  let a := "Checking Dependencies...\nPhaseScriptExecution /a/Script-0.sh\n"
  let b := "    cd /b\n    /bin/sh -c /c/Script-0.sh\n\n** BUILD SUCCEEDED **\n"
  have haccepted : isNoOpOutput (a ++ b) = true := by
    have h := accepted_of_noise [.phase .short false] [] List.mem_cons_self
      (show "Checking Dependencies...\n** BUILD SUCCEEDED **\n".toList =
        "Checking Dependencies...".toList ++ '\n' :: "** BUILD SUCCEEDED **\n".toList from rfl)
      (by decide) (by decide)
    have htext : (a ++ b).toList = "Checking Dependencies...".toList ++
        (noiseText [.phase .short false] ++
          ('\n' :: "** BUILD SUCCEEDED **\n".toList ++ noiseText [])) := by
      decide +kernel
    rw [isNoOpOutput_iff, htext]
    exact h
  have hphases : withoutPhases (a.toList ++ (shutdownLine ++ b.toList)) =
      a.toList ++ (shutdownLine ++ b.toList) := by
    have htext : a.toList ++ (shutdownLine ++ b.toList) = "Checking Dependencies...".toList ++
        '\n' :: 'P' :: ("haseScriptExecution /a/Script-0.sh\n".toList ++
          (shutdownLine ++ b.toList)) := by
      decide +kernel
    have hfree : Free PhaseAt (a.toList ++ (shutdownLine ++ b.toList)) [] := by
      rw [htext]
      refine free_append.mpr ⟨free_phase (by decide) (by simp),
        free_cons.mpr ⟨?_, free_cons.mpr ⟨fun hstarts => ?_, free_phase (by decide) (by decide)⟩⟩⟩
      · exact not_starts_interrupted (show '\n' ∉ "/a/Script-0.sh".toList by decide)
      · exact absurd (newline_of_starts hstarts).1 (by decide)
    exact removes_phases.eq_kept (.last hfree)
  have hshutdown : withoutShutdown (a.toList ++ (shutdownLine ++ b.toList)) =
      a.toList ++ b.toList := by
    have ha : withoutShutdown a.toList = a.toList :=
      removes_shutdown.eq_kept (.last (free_shutdown (by decide)))
    have hb : withoutShutdown b.toList = b.toList :=
      removes_shutdown.eq_kept (.last (free_shutdown (by decide)))
    rw [removes_shutdown.occurrence shutdownLine_ne_nil unbordered_shutdownLine, ha, hb]
  have hrejected : ¬Accepted (a.toList ++ (shutdownLine ++ b.toList)) := by
    rw [Accepted, hphases, hshutdown]
    decide
  have h := hall a b (.inr ⟨"Checking Dependencies...\nPhaseScriptExecution /a/Script-0.sh", rfl⟩)
  rw [haccepted, isNoOpOutput_iff] at h
  simp only [String.toList_append, String.toList_ofList, List.append_assoc] at h
  exact hrejected h

end CrossBuild.Xcode
