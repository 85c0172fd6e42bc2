import CrossBuild.Proofs.Xcode.Noise

/-!
# Noise never hides that nothing was done

An accepted output ends with a marker, `Checking Dependencies...` or `Check dependencies`,
and a banner.  Noise may stand between the two and after the banner, and is gone when the
verdict is reached: an induction over the pieces of noise, where the line end of one
and that of the next do not make a block of their own.

Anything may stand in front.  A block that begins there could only take the marker away
by going over its capital letter, and the rest of its line would then be left
where the marker goes on with a word and a space: what follows the letter in a block
has a dot before its first blank, or its first blank is a line end
(`PhaseAt.breaks`).
-/
namespace CrossBuild.Xcode

open Text

/-! ## 1. A capital letter in a block -/

/-- The characters that end a word: blanks, and dots. -/
def isStop (c : Char) : Bool :=
  isBlank c || c == '.'

/-- The first stop of a text is at one place. -/
theorem stop_unique {a a' z z' : List Char} {c c' : Char} (ha : ∀ d ∈ a, isStop d = false)
    (ha' : ∀ d ∈ a', isStop d = false) (hc : isStop c = true) (hc' : isStop c' = true)
    (h : a ++ c :: z = a' ++ c' :: z') : a = a' ∧ c = c' := by
  have hstops {c : Char} {z : List Char} (hc : isStop c = true) :
      ∀ d ∈ (c :: z).head?, (!isStop d) = false := by
    simpa using hc
  obtain ⟨haa, hcz⟩ :=
    run_unique (p := fun d => !isStop d) (by simpa using ha) (by simpa using ha') (hstops hc)
      (hstops hc') h
  exact ⟨haa, (List.cons_eq_cons.mp hcz).1⟩

/-- A character that is not in the start of a line is in the text of it, or comes later. -/
theorem cons_of_lineText {c : Char} {start : String} {text x y z : List Char}
    (hstart : c ∉ start.toList) (hc : c ≠ '\n') (h : x ++ c :: y = lineText start text ++ z) :
    (∃ x' e, text = x' ++ c :: e ∧ y = e ++ '\n' :: z) ∨ ∃ x', x' ++ c :: y = z := by
  rw [lineText, List.append_assoc, List.append_assoc] at h
  obtain ⟨x', h⟩ := cons_of_append_of_notMem hstart h
  rcases cons_of_append h with ⟨e, htext, he⟩ | ⟨x', h⟩
  · exact .inl ⟨x', e, htext, he⟩
  · exact .inr (cons_of_append_of_notMem (by simpa using hc) h)

/-- A word and then a dot, or a line end and a space. -/
inductive Breaks : List Char → Prop where
  | dot {word : List Char} (rest : List Char) (plain : ∀ d ∈ word, isStop d = false) :
    Breaks (word ++ '.' :: rest)
  | line {word : List Char} (rest : List Char) (plain : ∀ d ∈ word, isStop d = false) :
    Breaks (word ++ '\n' :: ' ' :: rest)

theorem Breaks.append {text : List Char} (h : Breaks text) (rest : List Char) :
    Breaks (text ++ rest) := by
  cases h with
  | dot after plain =>
    rw [List.append_assoc]
    exact .dot (after ++ rest) plain
  | line after plain =>
    rw [List.append_assoc]
    exact .line (after ++ rest) plain

theorem isStop_eq_false_of_ne {c : Char} (hblank : isBlank c = false) (hne : c ≠ '.') :
    isStop c = false := by
  simp [isStop, hblank, hne]

theorem breaks_of_dot {e : List Char} (hblank : ∀ d ∈ e, isBlank d = false) (hdot : '.' ∈ e) :
    Breaks e := by
  obtain ⟨word, rest, rfl, hword⟩ := List.eq_append_cons_of_mem hdot
  refine .dot rest fun d hd => isStop_eq_false_of_ne ?_ (ne_of_mem_of_not_mem hd hword)
  exact hblank d (List.mem_append_left _ hd)

theorem breaks_of_line {e : List Char} (hblank : ∀ d ∈ e, isBlank d = false)
    (rest : List Char) : Breaks (e ++ '\n' :: ' ' :: rest) := by
  by_cases hdot : '.' ∈ e
  · exact (breaks_of_dot hblank hdot).append _
  · exact .line rest fun d hd =>
      isStop_eq_false_of_ne (hblank d hd) (ne_of_mem_of_not_mem hd hdot)

/-- After a capital letter the path of a script has the dot of its suffix. -/
theorem ScriptPath.breaks {text x e : List Char} (h : ScriptPath text)
    (he : text = x ++ 'C' :: e) : Breaks e := by
  refine breaks_of_dot (fun d hd => h.not_blank d (he ▸ by simp [hd])) ?_
  obtain ⟨folder, hash, -, -, -, rfl⟩ := h
  have hassoc : x ++ 'C' :: e = (folder ++ ("/Script-".toList ++ hash)) ++ ".sh".toList := by
    simp [← he]
  rcases cons_of_append hassoc with ⟨y, -, rfl⟩ | ⟨x', hx⟩
  · simp
  · exact absurd (hx ▸ by simp) (show 'C' ∉ ".sh".toList by decide)

/-- The letter is in one of the three texts of a phase, since the lines themselves have none. -/
theorem Phase.breaks {p : Phase} {tail x y : List Char} (htail : 'C' ∉ tail)
    (h : x ++ 'C' :: y = p.text ++ tail) : Breaks y := by
  rw [p.text_append] at h
  obtain ⟨x₀, h₀⟩ : ∃ x₀, x₀ ++ 'C' :: y = lineText "PhaseScriptExecution " p.script ++
      (lineText "    cd " p.folder ++ (lineText "    /bin/sh -c " p.command ++ tail)) :=
    cons_of_append_of_notMem (show 'C' ∉ ['\n'] by decide) h
  rcases cons_of_lineText (by decide) (by decide) h₀ with ⟨x', e, he, rfl⟩ | ⟨x₁, h₁⟩
  · exact (p.script_valid.breaks he).append _
  rcases cons_of_lineText (by decide) (by decide) h₁ with ⟨x', e, he, rfl⟩ | ⟨x₂, h₂⟩
  · exact breaks_of_line (fun d hd => p.folder_valid.not_blank d (he ▸ by simp [hd])) _
  rcases cons_of_lineText (by decide) (by decide) h₂ with ⟨x', e, he, rfl⟩ | ⟨x₃, h₃⟩
  · exact (p.command_valid.breaks he).append _
  exact absurd (h₃ ▸ by simp) htail

theorem PhaseAt.breaks {x y rest : List Char} (h : PhaseAt (x ++ 'C' :: y) rest) : Breaks y := by
  obtain ⟨p, tail, hb, htail⟩ := h.exists_phase
  refine p.breaks ?_ hb
  rcases htail with rfl | rfl <;> decide

/-! ## 2. What is left of a broken line -/

/-- The first stop of the shutdown line is a space. -/
theorem free_shutdown_word {word z : List Char} {c : Char} (hword : ∀ d ∈ word, isStop d = false)
    (hc : isStop c = true) (hne : c ≠ ' ') : Free (Literal shutdownLine) (word ++ [c]) z := by
  have habsent : ∀ {word : List Char}, (∀ d ∈ word, isStop d = false) →
      ¬Starts (Literal shutdownLine) (word ++ c :: z) := by
    intro word hword hstarts
    obtain ⟨rest, he⟩ := starts_literal.mp hstarts
    have hline : shutdownLine = "__________Shutting".toList ++
        ' ' :: "down distcc-pump include server\n".toList := by decide
    rw [hline, List.append_assoc] at he
    exact hne (stop_unique hword (eq_false_of_all (by decide)) hc (by decide) he.symm).2
  induction word with
  | nil => exact free_cons.mpr ⟨habsent hword, free_nil⟩
  | cons d word ih =>
    refine free_cons.mpr ⟨?_, ih fun d hd => hword d (List.mem_cons_of_mem _ hd)⟩
    simpa using habsent hword

/-- Neither scan changes a broken line up to its break. -/
theorem Breaks.cleaned {text : List Char} (h : Breaks text) :
    ∃ word c z, withoutShutdown (withoutPhases text) = word ++ c :: z ∧
      (∀ d ∈ word, isStop d = false) ∧ isStop c = true ∧ c ≠ ' ' := by
  obtain ⟨word, c, z, hphases, hword, hc, hne⟩ : ∃ word c z,
      withoutPhases text = (word ++ [c]) ++ z ∧
        (∀ d ∈ word, isStop d = false) ∧ isStop c = true ∧ c ≠ ' ' := by
    cases h with
    | @dot word rest plain =>
      have hnewline : '\n' ∉ word ++ ['.'] := by
        rw [List.mem_append, not_or]
        exact ⟨fun hmem => absurd (plain _ hmem) (by decide), by decide⟩
      refine ⟨word, '.', withoutPhases rest, ?_, plain, by decide, by decide⟩
      rw [← removes_phases.gap (free_phase_of_newline hnewline), List.append_assoc]
      rfl
    | @line word rest plain =>
      have hnewline : '\n' ∉ word := fun hmem => absurd (plain _ hmem) (by decide)
      have hfree : Free PhaseAt (word ++ ['\n']) (' ' :: rest) := by
        refine free_append.mpr ⟨free_phase_of_newline hnewline, free_cons.mpr ⟨?_, free_nil⟩⟩
        intro hstarts
        cases (newline_of_starts hstarts).2
      refine ⟨word, '\n', withoutPhases (' ' :: rest), ?_, plain, by decide, by decide⟩
      rw [← removes_phases.gap hfree, List.append_assoc]
      rfl
  refine ⟨word, c, withoutShutdown z, ?_, hword, hc, hne⟩
  rw [hphases, removes_shutdown.gap (free_shutdown_word hword hc hne), List.append_assoc]
  rfl

/-! ## 3. Texts in front -/

/-- No block takes away a capital letter after which a word and a space are left. -/
theorem uncrossed_phase {v word more : List Char} (hword : ∀ d ∈ word, isStop d = false)
    (h : withoutShutdown (withoutPhases v) = word ++ ' ' :: more) :
    Uncrossed PhaseAt ('C' :: v) := by
  intro x y rest _ hy hb he
  obtain ⟨c, y, rfl⟩ := List.exists_cons_of_ne_nil hy
  cases he
  obtain ⟨word', c, z, hcleaned, hword', hc, hne⟩ := (hb.breaks.append rest).cleaned
  exact hne (stop_unique hword' hword hc (by decide) (hcleaned.symm.trans h)).2

theorem uncrossed_shutdown (v : List Char) : Uncrossed (Literal shutdownLine) ('C' :: v) := by
  intro x y rest _ hy hxy he
  obtain ⟨c, y, rfl⟩ := List.exists_cons_of_ne_nil hy
  cases he
  have hline : x ++ 'C' :: y = shutdownLine := hxy
  exact absurd (hline ▸ by simp) (show 'C' ∉ shutdownLine by decide)

theorem ending_eq {ending : String} (h : ending ∈ noOpEndings) :
    ∃ word more, ending.toList = 'C' :: (word ++ ' ' :: more) ∧ ∀ d ∈ word, isStop d = false := by
  simp only [noOpEndings, List.mem_cons, List.not_mem_nil, or_false] at h
  rcases h with rfl | rfl
  · exact ⟨"hecking".toList, "Dependencies...\n** BUILD SUCCEEDED **\n".toList, by decide,
      eq_false_of_all (by decide)⟩
  · exact ⟨"heck".toList, "dependencies\n** BUILD SUCCEEDED **\n\n".toList, by decide,
      eq_false_of_all (by decide)⟩

/-- Whatever stands in front, an accepted text is accepted. -/
theorem Accepted.append {text : List Char} (h : Accepted text) (front : List Char) :
    Accepted (front ++ text) := by
  obtain ⟨ending, hending, before, hbefore⟩ := h
  obtain ⟨word, more, hcapital, hword⟩ := ending_eq hending
  rw [hcapital] at hbefore
  obtain ⟨u₂, v₂, htext₂, hv₂, hends₂⟩ :=
    removes_shutdown.of_eq_append_cons (isPattern_literal shutdownLine_ne_nil) hbefore.symm
  obtain ⟨u₁, v₁, rfl, hv₁, hends₁⟩ := removes_phases.of_eq_append_cons isPattern_phase htext₂
  have hphases : Uncrossed PhaseAt ('C' :: v₁) := uncrossed_phase hword (by rw [hv₁, hv₂])
  obtain ⟨pieces, last, hsplit⟩ := isPattern_phase.exists_split hphases (front ++ u₁)
  refine ⟨ending, hending, ?_⟩
  rw [← List.append_assoc, removes_phases.split hsplit, hends₁, hcapital, ← hends₂]
  exact removes_shutdown.suffix (isPattern_literal shutdownLine_ne_nil) (uncrossed_shutdown v₂) _

/-! ## 4. Noise after the marker -/

/-- A whole piece of noise. -/
inductive Noise where
  /-- A block of a script phase, with or without the line about an idle tool. -/
  | phase (p : Phase) (idle : Bool)
  | shutdown

/-- What a piece of noise prints. -/
def Noise.text : Noise → List Char
  | phase p true => p.text ++ idleLine
  | phase p false => p.text
  | shutdown => shutdownLine

/-- What pieces of noise print one after the other. -/
def noiseText (items : List Noise) : List Char :=
  items.flatMap Noise.text

theorem noiseText_cons (item : Noise) (items : List Noise) :
    noiseText (item :: items) = item.text ++ noiseText items := rfl

/-- What may follow noise without being taken for a part of it. -/
def Follows (rest : List Char) : Prop :=
  ∀ c ∈ rest.head?, c = '\n' ∨ c = '_'

theorem Noise.follows (item : Noise) (rest : List Char) : Follows (item.text ++ rest) := by
  intro c hc
  cases item with
  | phase p idle =>
    left
    cases idle <;> exact (Option.some_inj.mp hc).symm
  | shutdown => exact .inr (Option.some_inj.mp hc).symm

theorem follows_noiseText (items : List Noise) {rest : List Char} (h : Follows rest) :
    Follows (noiseText items ++ rest) := by
  cases items with
  | nil => exact h
  | cons item items =>
    rw [noiseText_cons, List.append_assoc]
    exact item.follows _

theorem Follows.head_ne {rest : List Char} (h : Follows rest) {c : Char} (hc : c ≠ '\n')
    (hc' : c ≠ '_') : rest.head? ≠ some c := by
  intro hhead
  rcases h c hhead with rfl | rfl
  · exact hc rfl
  · exact hc' rfl

/-- A piece of noise is gone after both scans. -/
theorem Noise.cleaned (item : Noise) {rest : List Char} (h : Follows rest) :
    withoutShutdown (withoutPhases (item.text ++ rest)) = withoutShutdown (withoutPhases rest) := by
  cases item with
  | phase p idle =>
    cases idle with
    | true => rw [text, removes_phases.block (.idle p rest)]
    | false =>
      have habsent : ¬idleLine <+: rest := by
        rintro ⟨rest', rfl⟩
        have hhead : (idleLine ++ rest').head? = some 'm' := rfl
        exact h.head_ne (by decide) (by decide) hhead
      rw [text, removes_phases.block (.plain p habsent)]
  | shutdown =>
    rw [text, withoutPhases_append (by decide) (h.head_ne (by decide) (by decide)),
      withoutShutdown_line]

/-- The line end of a piece and that of the next one do not make a block. -/
theorem cleaned_noiseText (items : List Noise) {rest : List Char} (h : Follows rest) :
    withoutShutdown (withoutPhases (noiseText items ++ rest)) =
      withoutShutdown (withoutPhases rest) := by
  induction items with
  | nil => rfl
  | cons item items ih =>
    rw [noiseText_cons, List.append_assoc, item.cleaned (follows_noiseText items h), ih]

theorem cleaned_append {gap rest : List Char} (hphase : 'P' ∉ gap) (hshutdown : '_' ∉ gap)
    (hrest : rest.head? ≠ some 'P') :
    withoutShutdown (withoutPhases (gap ++ rest)) =
      gap ++ withoutShutdown (withoutPhases rest) := by
  rw [withoutPhases_append hphase hrest, withoutShutdown_append hshutdown]

/-- A marker and a banner are left of a text that has noise after each of them. -/
theorem accepted_of_noise {marker banner : List Char} {ending : String} (items rest : List Noise)
    (hending : ending ∈ noOpEndings) (hsplit : ending.toList = marker ++ '\n' :: banner)
    (hphase : 'P' ∉ ending.toList) (hshutdown : '_' ∉ ending.toList) :
    Accepted (marker ++ (noiseText items ++ ('\n' :: banner ++ noiseText rest))) := by
  rw [hsplit, List.mem_append, not_or] at hphase hshutdown
  have hnil : Follows [] := by simp [Follows]
  have hfollows (items : List Noise) : Follows (noiseText items) := by
    simpa using follows_noiseText items hnil
  have hbanner : Follows ('\n' :: banner ++ noiseText rest) := by simp [Follows]
  have hrest : withoutShutdown (withoutPhases (noiseText rest)) = [] := by
    simpa [removes_phases.nil, removes_shutdown.nil] using cleaned_noiseText rest hnil
  have hcleaned : withoutShutdown (withoutPhases (marker ++
      (noiseText items ++ ('\n' :: banner ++ noiseText rest)))) = ending.toList := by
    rw [cleaned_append hphase.1 hshutdown.1
        ((follows_noiseText items hbanner).head_ne (by decide) (by decide)),
      cleaned_noiseText items hbanner,
      cleaned_append hphase.2 hshutdown.2 ((hfollows rest).head_ne (by decide) (by decide)),
      hrest, List.append_nil, hsplit]
  exact ⟨ending, hending, hcleaned ▸ List.suffix_rfl⟩

/-- **Noise never hides that nothing was done.**  After any text, a marker, noise, the banner
that belongs to the marker and shutdown lines are accepted, and so is what is accepted
already. -/
theorem isNoOpOutput_of_noise (front : String) (items : List Noise) (n : Nat) :
    let noise := String.ofList (noiseText items)
    let shutdowns := String.ofList (noiseText (List.replicate n .shutdown))
    isNoOpOutput (front ++ "Checking Dependencies..." ++ noise ++
        "\n** BUILD SUCCEEDED **\n" ++ shutdowns) = true ∧
      isNoOpOutput (front ++ "Check dependencies" ++ noise ++
        "\n** BUILD SUCCEEDED **\n\n" ++ shutdowns) = true ∧
      ∀ stdout, isNoOpOutput stdout = true → isNoOpOutput (front ++ stdout) = true := by
  intro noise shutdowns
  refine ⟨?_, ?_, fun stdout h => ?_⟩
  · have haccepted : Accepted ("Checking Dependencies...".toList ++ (noiseText items ++
        ('\n' :: "** BUILD SUCCEEDED **\n".toList ++
          noiseText (List.replicate n .shutdown)))) :=
      accepted_of_noise items _ List.mem_cons_self rfl (by decide) (by decide)
    rw [isNoOpOutput_iff]
    simpa [noise, shutdowns] using haccepted.append front.toList
  · have haccepted : Accepted ("Check dependencies".toList ++ (noiseText items ++
        ('\n' :: "** BUILD SUCCEEDED **\n\n".toList ++
          noiseText (List.replicate n .shutdown)))) :=
      accepted_of_noise items _ (List.mem_cons_of_mem _ List.mem_cons_self) rfl (by decide)
        (by decide)
    rw [isNoOpOutput_iff]
    simpa [noise, shutdowns] using haccepted.append front.toList
  · rw [isNoOpOutput_iff] at h ⊢
    rw [String.toList_append]
    exact h.append front.toList

/-- A block that is begun in front of the marker. -/
theorem isNoOpOutput_of_noise_after_begun_block :
    let front := "\nPhaseScriptExecution /"
    let noise := String.ofList (noiseText [.phase .short true, .shutdown])
    let shutdowns := String.ofList (noiseText (List.replicate 1 .shutdown))
    let stdout := "" ++ "Checking Dependencies..." ++ noise ++
      "\n** BUILD SUCCEEDED **\n" ++ shutdowns
    isNoOpOutput stdout = true ∧ isNoOpOutput (front ++ stdout) = true := by
  intro front noise shutdowns stdout
  have haccepted : isNoOpOutput stdout = true :=
    (isNoOpOutput_of_noise "" [.phase .short true, .shutdown] 1).1
  exact ⟨haccepted, (isNoOpOutput_of_noise front [] 0).2.2 stdout haccepted⟩

end CrossBuild.Xcode
