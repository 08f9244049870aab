import LintVerdict.Report

/-!
# Recording a result

`Report.record` passes over a result that is no failure. No finding is lost by that, since a
result with findings is a failure, so one equation describes the report after any result.

## Main results

* `RunResult.findings_eq_nil`: a result that is no failure has no findings.
* `Report.record_eq`: the report after one more result.
* `Report.ofResults_eq`: the report of a list of results.
-/

namespace LintVerdict

namespace RunResult

/-- How a failing result is listed in a report. -/
def failedRun (x : RunResult) : FailedRun := ⟨x.scope.path, x.linter, x.exitCode⟩

/-- A result that is no failure has no findings. -/
theorem findings_eq_nil {x : RunResult} (h : x.isFailure = false) : x.findings = [] := by
  simp only [isFailure, Bool.or_eq_false_iff, Bool.not_eq_false', List.isEmpty_iff] at h
  exact h.2

end RunResult

/-- **The report after one more result**: it counts, its findings are added whether it is a
failure or not, and a failure is listed and decides the outcome. -/
theorem Report.record_eq (r : Report) (x : RunResult) :
    r.record x =
      { outcome := if x.isFailure then .failed else r.outcome
        findings := r.findings ++ x.findings
        failed := r.failed ++ if x.isFailure then [x.failedRun] else []
        checked := r.checked + 1 } := by
  cases hx : x.isFailure with
  | true => simp [record, hx, RunResult.failedRun]
  | false => simp [record, hx, RunResult.findings_eq_nil hx]

/-- The report after a list of further results. -/
theorem Report.foldl_record (r : Report) (xs : List RunResult) :
    xs.foldl record r =
      { outcome := if xs.any RunResult.isFailure then .failed else r.outcome
        findings := r.findings ++ xs.flatMap RunResult.findings
        failed := r.failed ++ (xs.filter RunResult.isFailure).map RunResult.failedRun
        checked := r.checked + xs.length } := by
  induction xs generalizing r with
  | nil => simp
  | cons x xs ih =>
      rw [List.foldl_cons, ih, record_eq]
      cases hx : x.isFailure <;> simp [hx, Nat.add_assoc, Nat.add_comm 1]

/-- **The report of a list of results**: it has failed if one of them has, it holds their
findings in order, it lists the failing ones, and it counts all. -/
theorem Report.ofResults_eq (xs : List RunResult) :
    ofResults xs =
      { outcome := if xs.any RunResult.isFailure then .failed else .clean
        findings := xs.flatMap RunResult.findings
        failed := (xs.filter RunResult.isFailure).map RunResult.failedRun
        checked := xs.length } := by
  simp [ofResults, foldl_record, clean]

end LintVerdict
