import CrossBuild.Proofs.Xcode.ScriptPhase

/-!
# What noise is

A build's output is cut into gaps and blocks of script phases, in the one way in which
no block begins in a gap, and the gaps are kept.  Out of these every shutdown line is
taken, in whatever order: a line of this kind does not overlap another.  What is
left decides the verdict by its end (`Xcode.stripNoise_exact`).

A block begins with a line end and a capital letter, and a shutdown line with an
underscore, which most texts do not have.  Both scans keep such texts as they are.
-/
namespace CrossBuild.Xcode

open Text

/-! ## 1. Verdicts -/

/-- A text that, without its noise, ends as the output of a build with nothing to do. -/
def Accepted (text : List Char) : Prop :=
  ∃ ending ∈ noOpEndings, ending.toList <:+ withoutShutdown (withoutPhases text)

theorem isNoOpOutput_iff {stdout : String} :
    isNoOpOutput stdout = true ↔ Accepted stdout.toList := by
  simp only [isNoOpOutput, stripNoise, endsWith, List.any_eq_true, List.isSuffixOf_iff_suffix,
    String.toList_ofList, Accepted]

/-- **What noise is.**  There is one cut of an output into gaps and whole blocks of script
phases, a fourth line included where it follows, such that no block begins in a gap.
The first pass keeps the gaps, and the second takes out of them every shutdown line;
the verdict is whether what is left has one of two ends. -/
theorem stripNoise_exact (stdout : String) :
    ∃ pieces last,
      stdout.toList = (pieces.flatMap fun p => p.1 ++ p.2) ++ last ∧
      (Split PhaseAt [] stdout.toList pieces last ∧
        ∀ pieces' last', Split PhaseAt [] stdout.toList pieces' last' →
          pieces' = pieces ∧ last' = last) ∧
      withoutPhases stdout.toList = kept pieces last ∧
      (∀ text, Without shutdownLine (kept pieces last) text ↔
        text = (stripNoise stdout).toList) ∧
      (isNoOpOutput stdout = true ↔
        "Checking Dependencies...\n** BUILD SUCCEEDED **\n".toList <:+
            (stripNoise stdout).toList ∨
          "Check dependencies\n** BUILD SUCCEEDED **\n\n".toList <:+
            (stripNoise stdout).toList) := by
  obtain ⟨pieces, last, hsplit⟩ := isPattern_phase.exists_split uncrossed_nil stdout.toList
  have hkept : withoutPhases stdout.toList = kept pieces last := removes_phases.eq_kept hsplit
  refine ⟨pieces, last, hsplit.text_eq,
    ⟨hsplit, fun _ _ h' => hsplit.unique isPattern_phase h'⟩, hkept, fun text => ?_, ?_⟩
  · rw [removes_shutdown.without_iff shutdownLine_ne_nil unbordered_shutdownLine, stripNoise,
      String.toList_ofList, hkept]
  · rw [isNoOpOutput_iff, stripNoise, String.toList_ofList]
    simp [Accepted, noOpEndings]

/-! ## 2. Texts without noise -/

theorem newline_of_starts {c : Char} {cs : List Char} (h : Starts PhaseAt (c :: cs)) :
    c = '\n' ∧ cs.head? = some 'P' := by
  obtain ⟨b, rest, hb, he⟩ := h
  obtain ⟨p, tail, rfl, -⟩ := hb.exists_phase
  rw [List.append_assoc, p.text_append] at he
  obtain ⟨rfl, rfl⟩ := List.cons_eq_cons.mp he
  exact ⟨rfl, rfl⟩

theorem free_phase {gap rest : List Char} (hgap : 'P' ∉ gap) (hrest : rest.head? ≠ some 'P') :
    Free PhaseAt gap rest := by
  induction gap with
  | nil => exact free_nil
  | cons c gap ih =>
    rw [List.mem_cons, not_or] at hgap
    refine free_cons.mpr ⟨fun hstarts => ?_, ih hgap.2⟩
    have hhead := (newline_of_starts hstarts).2
    cases gap with
    | nil => exact hrest hhead
    | cons d gap =>
      cases hhead
      exact hgap.2 List.mem_cons_self

theorem withoutPhases_append {gap rest : List Char} (hgap : 'P' ∉ gap)
    (hrest : rest.head? ≠ some 'P') : withoutPhases (gap ++ rest) = gap ++ withoutPhases rest :=
  removes_phases.gap (free_phase hgap hrest)

theorem free_phase_of_newline {gap rest : List Char} (h : '\n' ∉ gap) : Free PhaseAt gap rest :=
  free_of_forall fun _ hc _ hstarts => h ((newline_of_starts hstarts).1 ▸ hc)

theorem free_shutdown {gap rest : List Char} (h : '_' ∉ gap) :
    Free (Literal shutdownLine) gap rest := by
  refine free_of_forall fun c hc cs hstarts => h ?_
  obtain ⟨rest', he⟩ := starts_literal.mp hstarts
  exact (List.cons_eq_cons.mp he).1 ▸ hc

theorem withoutShutdown_append {gap rest : List Char} (hgap : '_' ∉ gap) :
    withoutShutdown (gap ++ rest) = gap ++ withoutShutdown rest :=
  removes_shutdown.gap (free_shutdown hgap)

theorem withoutShutdown_line (rest : List Char) :
    withoutShutdown (shutdownLine ++ rest) = withoutShutdown rest :=
  removes_shutdown.block rfl

end CrossBuild.Xcode
