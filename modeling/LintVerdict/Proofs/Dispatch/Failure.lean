import LintVerdict.Proofs.Dispatch.Run
import LintVerdict.Proofs.Dispatch.Walk
import LintVerdict.Proofs.Pattern.Findings
import LintVerdict.Proofs.Pattern.Matches
import LintVerdict.Proofs.Text

/-!
# Failures are never silent

A command that fails without a finding gets one that stands for the failure. So every failing
run of a linter has findings of its own in the report, and a clean report has none.

## Main definitions

* `ProcessOutput.Says`: what a command that failed without a finding says.
* `LinterRun.Silent`: a command failed without a finding in its output.
* `Report.Audible`: every failure of a report is heard.
* `Report.TellsOf`: what a report says about the linters that ran.

## Main results

* `LinterRun.findings_of_silent`: the one finding of a silent failure.
* `Report.audible_ofResults`: a report on results whose failures have findings.
* `run_audible`: every failure in the report of a run is heard.
-/

namespace LintVerdict

/-- A line without a character that can be seen. -/
def IsBlankLine (line : String) : Prop := ∀ c ∈ line.toList, Text.isBlank c = true

/-- What a command that failed without a finding says: its first line that is not blank, and if
there is none, how it ended. -/
inductive ProcessOutput.Says (o : ProcessOutput) : String → Prop
  | line {front back : List String} {line : String} :
      Text.lines o.output = front ++ line :: back → (∀ l ∈ front, IsBlankLine l) →
      ¬ IsBlankLine line → Says o (Text.trim line)
  | status {code : Int} : (∀ l ∈ Text.lines o.output, IsBlankLine l) →
      o.exitCode = some code → Says o ("exited with status " ++ toString code)
  | signal : (∀ l ∈ Text.lines o.output, IsBlankLine l) → o.exitCode = none →
      Says o "terminated by signal"

namespace LinterRun

/-- What the pattern of the linter finds in what its command printed. -/
def found (x : LinterRun) : List Finding :=
  x.spec.pattern.findings x.spec.id x.output.output x.spec.message

/-- The command failed, and the pattern finds nothing in what it printed. -/
def Silent (x : LinterRun) : Prop := x.output.exitCode ≠ some 0 ∧ x.found = []

end LinterRun

/-- Every failure of a report is heard, and nothing else is. -/
structure Report.Audible (r : Report) : Prop where
  /-- The outcome is decided by the failing runs. -/
  outcome : r.outcome = .failed ↔ r.failed ≠ []
  /-- There are findings exactly if there are failing runs. -/
  findings : r.failed ≠ [] ↔ r.findings ≠ []
  /-- Failing runs are runs. -/
  failed_le_checked : r.failed.length ≤ r.checked
  /-- Every failing run has a finding. -/
  failed_le_findings : r.failed.length ≤ r.findings.length
  /-- The findings are those of the failing runs, one run after the other, each with findings of
  its own linter. -/
  blocks : ∃ blocks : List (List Finding), r.findings = blocks.flatten ∧
    List.Forall₂ (fun run block => block ≠ [] ∧ ∀ f ∈ block, f.linter = run.linter)
      r.failed blocks

/-- What a report says about the linters that ran. -/
structure Report.TellsOf (r : Report) (xs : List LinterRun) : Prop where
  /-- All of them count. -/
  checked : r.checked = xs.length
  /-- The findings are theirs, in order. -/
  findings : r.findings = xs.flatMap fun x => x.result.findings
  /-- The failing ones are listed. -/
  failed : r.failed = (xs.filter fun x => x.result.isFailure).map
    fun x => ⟨x.scope.path, x.spec.id, x.output.exitCode⟩
  /-- A silent failure has exactly one finding, at the scope itself, with what its command
  says. -/
  silent : ∀ x ∈ xs, x.Silent → ∃ message, x.output.Says message ∧ message ≠ "" ∧
    x.result.findings = [⟨x.spec.id, x.scope.path, none, none, message⟩]

/-! ### The first line -/

theorem trim_eq_empty_iff {line : String} : Text.trim line = "" ↔ IsBlankLine line := by
  rw [Text.trim, IsBlankLine, ← Text.trimChars_eq_nil_iff, ← String.ofList_nil,
    String.ofList_inj]

/-- The message of a failure without findings is what its command says. -/
theorem says_firstLine? (o : ProcessOutput) :
    o.Says ((firstLine? o.output).getD (exitMessage o.exitCode)) := by
  have hblank : ∀ l, ((fun l : String => !l.isEmpty) ∘ Text.trim) l = true ↔
      ¬ IsBlankLine l := by
    intro l
    rw [← trim_eq_empty_iff]
    simp
  rw [firstLine?, List.find?_map]
  cases hline : (Text.lines o.output).find? ((fun l => !l.isEmpty) ∘ Text.trim) with
  | some line =>
      obtain ⟨hne, front, back, hlines, hfront⟩ := List.find?_eq_some_iff_append.mp hline
      have hblanks : ∀ l ∈ front, IsBlankLine l := by
        intro l hl
        by_contra hl'
        have hempty := hfront l hl
        rw [(hblank l).mpr hl'] at hempty
        exact absurd hempty nofun
      rw [Option.map_some, Option.getD_some]
      exact .line hlines hblanks ((hblank line).mp hne)
  | none =>
      have hall : ∀ l ∈ Text.lines o.output, IsBlankLine l := fun l hl =>
        not_not.mp (mt (hblank l).mpr (List.find?_eq_none.mp hline l hl))
      cases hcode : o.exitCode with
      | none => exact .signal hall hcode
      | some code => exact .status hall hcode

/-- A command always says something. -/
theorem ProcessOutput.Says.ne_empty {o : ProcessOutput} {message : String} (h : o.Says message) :
    message ≠ "" := by
  cases h with
  | line _ _ hline => exact mt trim_eq_empty_iff.mp hline
  | status _ _ => simp
  | signal _ _ => decide

/-! ### One linter -/

namespace LinterRun

variable {x : LinterRun}

theorem result_findings (x : LinterRun) :
    x.result.findings =
      if x.found.isEmpty && !x.output.succeeded then
        [failureFinding x.scope x.spec.id x.output] else x.found := rfl

theorem silent_iff :
    x.Silent ↔ (x.found.isEmpty && !x.output.succeeded) = true := by
  simp [Silent, ProcessOutput.succeeded, and_comm]

/-- **A silent failure has one finding**, at the scope itself, with what its command says. -/
theorem findings_of_silent (h : x.Silent) :
    ∃ message, x.output.Says message ∧ message ≠ "" ∧
      x.result.findings = [⟨x.spec.id, x.scope.path, none, none, message⟩] := by
  have hsays := says_firstLine? x.output
  exact ⟨_, hsays, hsays.ne_empty, by rw [result_findings, if_pos (silent_iff.mp h)]; rfl⟩

/-- All other findings are read from the output. -/
theorem findings_of_not_silent (h : ¬ x.Silent) : x.result.findings = x.found := by
  rw [result_findings, if_neg (mt silent_iff.mpr h)]

/-- A failing linter has a finding. -/
theorem findings_ne_nil (h : x.result.isFailure = true) : x.result.findings ≠ [] := by
  by_cases hsilent : x.Silent
  · obtain ⟨message, -, -, hfindings⟩ := findings_of_silent hsilent
    rw [hfindings]
    exact List.cons_ne_nil _ _
  · intro hnil
    have hcode : x.output.exitCode = some 0 := by
      by_contra hcode
      exact hsilent ⟨hcode, findings_of_not_silent hsilent ▸ hnil⟩
    have hexit : x.result.exitCode = some 0 := hcode
    rw [RunResult.isFailure, hnil, hexit] at h
    exact absurd h (by decide)

/-- All findings of a linter name it. -/
theorem linter_of_mem_findings {f : Finding} (h : f ∈ x.result.findings) :
    f.linter = x.spec.id := by
  by_cases hsilent : x.Silent
  · obtain ⟨message, -, -, hfindings⟩ := findings_of_silent hsilent
    rw [hfindings, List.mem_singleton] at h
    rw [h]
  · rw [findings_of_not_silent hsilent] at h
    exact OutputPattern.linter_of_mem_findings h

end LinterRun

/-! ### The report -/

/-- There are at least as many elements as blocks, if no block is empty. -/
theorem length_le_flatten {α β : Type} {R : α → List β → Prop} {xs : List α}
    {blocks : List (List β)} (h : List.Forall₂ (fun x block => block ≠ [] ∧ R x block) xs blocks) :
    xs.length ≤ blocks.flatten.length := by
  induction h with
  | nil => exact Nat.le_refl 0
  | cons hx _ ih =>
      have hpos := List.length_pos_iff.mpr hx.1
      rw [List.length_cons, List.flatten_cons, List.length_append]
      omega

/-- The findings of all results are those of the failing ones. -/
theorem flatMap_findings_filter (xs : List RunResult) :
    (xs.filter RunResult.isFailure).flatMap RunResult.findings =
      xs.flatMap RunResult.findings := by
  induction xs with
  | nil => rfl
  | cons x xs ih =>
      cases hx : x.isFailure with
      | true => simp [hx, ih]
      | false => simp [hx, ih, RunResult.findings_eq_nil hx]

/-- **A report is audible** if every failing result has findings and all of them name its
linter. -/
theorem Report.audible_ofResults {xs : List RunResult}
    (hne : ∀ x ∈ xs, x.isFailure = true → x.findings ≠ [])
    (hlinter : ∀ x ∈ xs, ∀ f ∈ x.findings, f.linter = x.linter) : (ofResults xs).Audible := by
  have hblocks : List.Forall₂
      (fun (run : FailedRun) block => block ≠ [] ∧ ∀ f ∈ block, f.linter = run.linter)
      ((xs.filter RunResult.isFailure).map RunResult.failedRun)
      ((xs.filter RunResult.isFailure).map RunResult.findings) := by
    rw [List.forall₂_map_left_iff, List.forall₂_map_right_iff, List.forall₂_same]
    intro x hx
    obtain ⟨hmem, hfails⟩ := List.mem_filter.mp hx
    exact ⟨hne x hmem hfails, hlinter x hmem⟩
  have hsplit : xs.flatMap RunResult.findings =
      ((xs.filter RunResult.isFailure).map RunResult.findings).flatten := by
    rw [← flatMap_findings_filter, List.flatMap_def]
  have hlength := length_le_flatten hblocks
  rw [← hsplit] at hlength
  rw [ofResults_eq]
  refine ⟨?_, ⟨?_, ?_⟩, ?_, hlength, ⟨_, hsplit, hblocks⟩⟩
  · simp [List.any_eq_true, List.filter_eq_nil_iff]
  · intro hfailed
    exact List.length_pos_iff.mp (Nat.lt_of_lt_of_le (List.length_pos_iff.mpr hfailed) hlength)
  · intro hfindings hfailed
    rw [List.map_eq_nil_iff] at hfailed
    exact hfindings (by rw [hsplit, hfailed]; rfl)
  · rw [List.length_map]
    exact List.length_filter_le _ _

/-- The report of a run is audible. -/
theorem Report.audible_of_run {σ : Type} {d : Dispatcher} {host : Host σ} {scopes : Scopes}
    {s s' : σ} {report : Report} (h : d.run host scopes s = (.ok report, s')) :
    report.Audible := by
  obtain ⟨xs, -, rfl⟩ := Dispatcher.ran_of_run_eq_ok h
  refine audible_ofResults (List.forall_mem_map.mpr fun x _ => LinterRun.findings_ne_nil) ?_
  exact List.forall_mem_map.mpr fun x _ f => LinterRun.linter_of_mem_findings

/-- **A failure is never silent, and a clean run has no findings.** The report of a run tells of
the linters that ran. Every failing one has a block of findings of its own, and if it failed in
silence, the block is one finding with what its command says. -/
theorem run_audible {σ : Type} {d : Dispatcher} {host : Host σ} {scopes : Scopes} {s s' : σ}
    {report : Report} (h : d.run host scopes s = (.ok report, s')) :
    report.Audible ∧ ∃ xs, Dispatcher.Ran d host scopes s xs s' ∧ report.TellsOf xs := by
  obtain ⟨xs, hran, rfl⟩ := Dispatcher.ran_of_run_eq_ok h
  refine ⟨Report.audible_ofResults ?_ ?_, xs, hran, ?_⟩
  · exact List.forall_mem_map.mpr fun x _ => LinterRun.findings_ne_nil
  · exact List.forall_mem_map.mpr fun x _ f => LinterRun.linter_of_mem_findings
  · rw [Report.ofResults_eq]
    refine ⟨List.length_map _, List.flatMap_map .., ?_, fun x _ => LinterRun.findings_of_silent⟩
    rw [List.filter_map, List.map_map]
    rfl

/-! ### A silent failure -/

/-- The pattern of the bare linter finds nothing where nothing is printed. -/
theorem findings_bareLinter : bareLinter.pattern.findings "vet" "" none = [] := by
  have hnone : bareLinter.pattern.regex.matchAt? #[] 0 = none := by
    simp [bareLinter, Pattern.Regex.matchAt?, Pattern.Regex.first_group,
      Pattern.Regex.first_chars]
  have hmatches : bareLinter.pattern.matchesIn #[] = [] := by
    rw [OutputPattern.matchesIn, Pattern.Program.allMatches_ofRegex rfl rfl (by decide),
      Pattern.Regex.scan_of_none hnone, Pattern.Regex.scan_of_lt (by decide)]
  have htext : "".toList.toArray = #[] := rfl
  rw [OutputPattern.findings, htext, hmatches]
  rfl

/-- The bare linter fails in silence. -/
theorem evaluate_bareLinter :
    evaluate ⟨.package, "a"⟩ bareLinter ⟨"", some 1⟩ =
      ⟨⟨.package, "a"⟩, "vet", some 1, "",
        [⟨"vet", "a", none, none, "exited with status 1"⟩]⟩ := by
  have hfound : bareLinter.pattern.findings bareLinter.id "" bareLinter.message = [] :=
    findings_bareLinter
  have hfailure : failureFinding ⟨.package, "a"⟩ "vet" ⟨"", some 1⟩ =
      ⟨"vet", "a", none, none, "exited with status 1"⟩ := by
    decide
  simp only [evaluate, hfound]
  exact congrArg (fun f => RunResult.mk ⟨.package, "a"⟩ "vet" (some 1) "" [f]) hfailure

/-- A linter that fails in silence is heard. -/
theorem run_audible_failing :
    (bareDispatcher true).run failingSetting.host ⟨["a", "b"], []⟩ [] =
        (.ok ⟨.failed, [⟨"vet", "a", none, none, "exited with status 1"⟩],
          [⟨"a", "vet", some 1⟩], 1⟩, [⟨"vet", ["./a"]⟩]) ∧
      Report.Audible ⟨.failed, [⟨"vet", "a", none, none, "exited with status 1"⟩],
        [⟨"a", "vet", some 1⟩], 1⟩ ∧
      ∃ xs, Dispatcher.Ran (bareDispatcher true) failingSetting.host ⟨["a", "b"], []⟩ [] xs
          [⟨"vet", ["./a"]⟩] ∧
        Report.TellsOf ⟨.failed, [⟨"vet", "a", none, none, "exited with status 1"⟩],
          [⟨"a", "vet", some 1⟩], 1⟩ xs := by
  have hroot : failingSetting.workingRoot = .ok "/" := workingRoot_root rfl
  have hpairs : scheduled (bareDispatcher true).applicability ⟨["a", "b"], []⟩ =
      [(⟨.package, "a"⟩, "vet"), (⟨.package, "b"⟩, "vet")] := rfl
  have hcheck : (bareDispatcher true).check failingSetting.host "/" ⟨.package, "a"⟩ "vet" [] =
      (.ok (evaluate ⟨.package, "a"⟩ bareLinter ⟨"", some 1⟩), [⟨"vet", ["./a"]⟩]) := rfl
  have hrun : (bareDispatcher true).run failingSetting.host ⟨["a", "b"], []⟩ [] =
      (.ok ⟨.failed, [⟨"vet", "a", none, none, "exited with status 1"⟩],
        [⟨"a", "vet", some 1⟩], 1⟩, [⟨"vet", ["./a"]⟩]) := by
    rw [run_of_pairs (by rw [hpairs]; exact List.cons_ne_nil _ _), hroot, hpairs]
    simp only [Dispatcher.walk]
    rw [hcheck, evaluate_bareLinter]
    rfl
  exact ⟨hrun, run_audible hrun⟩

end LintVerdict
