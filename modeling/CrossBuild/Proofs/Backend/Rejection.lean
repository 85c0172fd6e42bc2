import CrossBuild.Proofs.Backend.Verdict

/-!
# What the user sees of a rejected build

A build that fails, or that does work when it should not, is rejected with an
error, and what its tool printed goes with it: into a dump, the dump into the
error, the error into a diagnostic, and the diagnostic into a text.

The text still has both streams as they were printed, whatever they hold
(`Invocation.rejection_shows_output`).  None of the four layers adds a line end to
the dump, since the dump ends in one, or takes anything from it.
-/
namespace CrossBuild

/-! ## 1. Dumps -/

namespace Report

/-- A line of 80 characters, which begins with a label and goes on with `=`. -/
structure IsBanner (label line : String) : Prop where
  width : line.length = 80
  fill : ∃ n, line = label ++ String.ofList (List.replicate n '=')

/-- Both streams of an output as they were printed, each below its banner; there is no
second banner if nothing was printed to the error stream. -/
inductive Shows (o : Output) : String → Prop where
  | quiet {banner : String} (isBanner : IsBanner "STDOUT " banner) (stderr : o.stderr = "") :
    Shows o (banner ++ "\n" ++ o.stdout ++ "\n")
  | noisy {banner banner' : String} (isBanner : IsBanner "STDOUT " banner)
    (isBanner' : IsBanner "STDERR " banner') (stderr : o.stderr ≠ "") :
    Shows o (banner ++ "\n" ++ o.stdout ++ "\n" ++ (banner' ++ "\n" ++ o.stderr ++ "\n"))

/-- Any label that is not wider than a banner fills one. -/
theorem isBanner_banner {label : String} (h : label.length ≤ 80) :
    IsBanner label (banner label) := by
  refine ⟨?_, _, rfl⟩
  rw [banner, String.length_append, String.length_ofList, List.length_replicate, bannerWidth]
  omega

/-- The second stream of a dump is optional. -/
theorem notUpToDate_eq (stdout stderr : String) :
    notUpToDate stdout stderr = "Build is not up-to-date:\n" ++ streamSection "STDOUT " stdout ++
      (if stderr = "" then "" else streamSection "STDERR " stderr) := rfl

/-- The dump of an output is a heading and the output as it was printed. -/
theorem notUpToDate_shows (o : Output) :
    ∃ dump, Shows o dump ∧
      notUpToDate o.stdout o.stderr = "Build is not up-to-date:\n" ++ dump := by
  have hstdout : IsBanner "STDOUT " (banner "STDOUT ") := isBanner_banner (by decide)
  have hstderr : IsBanner "STDERR " (banner "STDERR ") := isBanner_banner (by decide)
  by_cases h : o.stderr = ""
  · refine ⟨streamSection "STDOUT " o.stdout, .quiet hstdout h, ?_⟩
    rw [notUpToDate_eq, if_pos h, String.append_empty]
  · refine ⟨streamSection "STDOUT " o.stdout ++ streamSection "STDERR " o.stderr,
      .noisy hstdout hstderr h, ?_⟩
    rw [notUpToDate_eq, if_neg h, String.append_assoc]

theorem Shows.ends_line {o : Output} {dump : String} (h : Shows o dump) :
    ∃ text, dump = text ++ "\n" := by
  cases h with
  | quiet => exact ⟨_, rfl⟩
  | noisy => exact ⟨_, (String.append_assoc ..).symm⟩

end Report

/-! ## 2. Diagnostics -/

theorem Severity.render_error (color : Bool) :
    Severity.error.render color = if color then "\x1b[1;31merror\x1b[0m" else "error" := by
  cases color <;> decide

namespace Diagnostic

/-- A detail that ends a line is shown as it is. -/
theorem detailText_of_line {text : String} :
    detailText (some (text ++ "\n")) = "\n" ++ (text ++ "\n") := by
  have hends : Text.endsWith (text ++ "\n") "\n" = true := (Text.endsWith_iff _ _).mpr ⟨text, rfl⟩
  rw [detailText, if_pos hends, String.append_empty]

theorem suggestionText_eq (suggestions : List String) :
    suggestionText suggestions =
      if suggestions = [] then ""
      else "\n" ++ String.join (suggestions.map fun text => text ++ "\n") := by
  cases suggestions with
  | nil => rfl
  | cons text rest =>
    have hline : line "" = fun text => text ++ "\n" :=
      funext fun text => by rw [line, String.empty_append]
    simp only [suggestionText, lines, hline, List.isEmpty_cons, Bool.false_eq_true, if_false,
      reduceCtorEq]

/-- Only the first word of a diagnostic is coloured. -/
theorem format_eq (d : Diagnostic) (color : Bool) :
    d.format color = d.severity.render color ++ (": " ++ d.message ++ "\n" ++
      lines "  --> " (d.location.toList.map Path.text) ++ lines "  -> " d.context ++
      detailText d.detail ++ suggestionText d.suggestions) := by
  simp only [format, line, String.append_assoc]

end Diagnostic

/-! ## 3. Rejections -/

/-- An invocation is rejected with an error: for its status, or by a backend with a tool that
should have had nothing to do. -/
inductive Invocation.Rejected (i : Invocation) (e : VerifyError) : Prop where
  | failed (ensure : i.ensureSuccess = .error e)
  | work {b : Backend} {target : Target} {m : Machine} (ne_gypd : b ≠ .gypd)
    (check : (m.perform (b.checkUpToDate target i)).1 = .error e)

namespace Invocation

variable {i : Invocation} {e : VerifyError}

theorem Rejected.error_eq (h : i.Rejected e) :
    e = .commandFailed i.command i.output.status i.report ∨
      ∃ format, e = .notUpToDate format i.command i.report := by
  cases h with
  | failed hensure =>
    rw [Backend.ensureSuccess_eq] at hensure
    split at hensure
    · cases hensure
    · exact .inl (Except.error.inj hensure).symm
  | @work b target m hb hcheck =>
    obtain ⟨es, hperform⟩ := b.perform_checkUpToDate m hb target i
    rw [hperform] at hcheck
    simp only at hcheck
    split at hcheck
    · cases hcheck
    · exact .inr ⟨b.format, (Except.error.inj hcheck).symm⟩

/-- Every rejection is shown as an error at no location, with the dump of the output. -/
theorem Rejected.diagnostic (h : i.Rejected e) :
    e.diagnostic.severity = .error ∧ e.diagnostic.message = e.message ∧
      e.diagnostic.location = none ∧ e.diagnostic.detail = some i.report := by
  rcases h.error_eq with rfl | ⟨format, rfl⟩ <;> exact ⟨rfl, rfl, rfl, rfl⟩

/-- **A rejected build's output reaches the user whole.**  Behind the message and the context
lines stands a blank line and a heading, then each stream under a banner as it was printed, and
then nothing but the suggestions.  Colours change the first word alone. -/
theorem rejection_shows_output (i : Invocation) (e : VerifyError) (h : i.Rejected e) :
    ∃ dump, Report.Shows i.output dump ∧ ∀ color,
      e.diagnostic.format color =
        (if color then "\x1b[1;31merror\x1b[0m" else "error") ++
          (": " ++ e.message ++ "\n" ++
            String.join (e.diagnostic.context.map fun text => "  -> " ++ text ++ "\n") ++
            "\n" ++ "Build is not up-to-date:\n" ++ dump ++
            (if e.diagnostic.suggestions = [] then ""
              else "\n" ++ String.join (e.diagnostic.suggestions.map (· ++ "\n")))) := by
  obtain ⟨hseverity, hmessage, hlocation, hdetail⟩ := h.diagnostic
  obtain ⟨dump, hshows, hreport⟩ := Report.notUpToDate_shows i.output
  refine ⟨dump, hshows, fun color => ?_⟩
  obtain ⟨text, rfl⟩ := hshows.ends_line
  have hdump : Diagnostic.detailText (some i.report) =
      "\n" ++ ("Build is not up-to-date:\n" ++ (text ++ "\n")) := by
    rw [report, hreport, ← String.append_assoc, Diagnostic.detailText_of_line]
  have hnowhere : Diagnostic.lines "  --> " ((none : Option Path).toList.map Path.text) = "" := rfl
  rw [Diagnostic.format_eq, hseverity, hmessage, hlocation, hdetail, hdump, hnowhere,
    Severity.render_error, Diagnostic.suggestionText_eq, String.append_empty]
  simp only [String.append_assoc]
  rfl

/-- Output that looks like a banner is shown as well, under the one that it needs. -/
theorem rejection_shows_output_of_work :
    let i : Invocation :=
      { command := "make", directory := ⟨"/work"⟩
        output := { status := some 0, stdout := "STDERR ====", stderr := "" } }
    let e : VerifyError := .notUpToDate .make "make" i.report
    i.Rejected e ∧ ∃ dump, Report.Shows i.output dump ∧
      e.diagnostic.format true =
        "\x1b[1;31merror\x1b[0m: build is not up-to-date\n" ++
          "  -> format: make\n  -> command: make\n\nBuild is not up-to-date:\n" ++ dump ++
          "\n" ++ Diagnostic.notUpToDateHelp ++ "\n" := by
  intro i e
  let b : Backend := .make (.found ⟨"/usr/bin/make"⟩)
  have hwork : ¬NoOpOutput b .all i.output.stdout := mt (b.isNoOp_iff _ _).mpr (by decide)
  have hcheck := (b.checkUpToDate_eq_error_iff { files := .empty } (by decide) .all i).mpr hwork
  have hrejected : i.Rejected e := .work (by decide) hcheck
  obtain ⟨dump, hshows, hformat⟩ := rejection_shows_output i e hrejected
  refine ⟨hrejected, dump, hshows, ?_⟩
  have hmessage : e.message = "build is not up-to-date" := rfl
  have hcontext : e.diagnostic.context = ["format: make", "command: make"] := rfl
  have hsuggestions : e.diagnostic.suggestions = [Diagnostic.notUpToDateHelp] := rfl
  rw [hformat, hmessage, hcontext, hsuggestions]
  simp [← String.append_assoc]

end Invocation

end CrossBuild
