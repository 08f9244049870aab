import LintVerdict.Finding
import LintVerdict.Scope

/-!
# Reports

The result of every linter run is folded into one verdict.

## Main definitions

* `RunResult`: what one linter said about one scope, and when that is a failure.
* `Report`: the verdict with its findings, its failing runs and the number of runs.
* `Report.record`: the report after one more result.
* `aggregate`: verdict and findings of a finished list of results.
-/

namespace LintVerdict

/-- The result of one linter on one scope. -/
structure RunResult where
  /-- What was checked. -/
  scope : Scope
  /-- The id of the linter. -/
  linter : String
  /-- The exit code, absent when a signal ended the process. -/
  exitCode : Option Int
  /-- Everything the linter printed. -/
  output : String
  /-- The diagnostics read from the output. -/
  findings : List Finding
  deriving DecidableEq, Repr

/-- A run fails when its exit code is not zero or when it has findings. -/
def RunResult.isFailure (r : RunResult) : Bool := r.exitCode != some 0 || !r.findings.isEmpty

/-- The verdict of a run. -/
inductive Outcome where
  /-- No linter failed. -/
  | clean
  /-- Some linter failed. -/
  | failed
  deriving DecidableEq, Repr

/-- The word for a verdict. -/
def Outcome.name : Outcome → String
  | clean => "clean"
  | failed => "failed"

/-- One failing run. -/
structure FailedRun where
  /-- The path of the scope. -/
  scope : String
  /-- The id of the linter. -/
  linter : String
  /-- The exit code, absent when a signal ended the process. -/
  exitCode : Option Int
  deriving DecidableEq, Repr

/-- The verdict of all runs together. -/
structure Report where
  /-- The verdict. -/
  outcome : Outcome
  /-- The findings, in the order of the runs. -/
  findings : List Finding
  /-- The failing runs, in order. -/
  failed : List FailedRun
  /-- How many runs there were. -/
  checked : Nat
  deriving DecidableEq, Repr

namespace Report

/-- The report before any run. -/
def clean : Report := ⟨.clean, [], [], 0⟩

/-- Whether no run failed. -/
def isOk (r : Report) : Bool := r.outcome = .clean

/-- The report after one more result. -/
def record (r : Report) (x : RunResult) : Report :=
  if x.isFailure then
    { outcome := .failed
      findings := r.findings ++ x.findings
      failed := r.failed ++ [⟨x.scope.path, x.linter, x.exitCode⟩]
      checked := r.checked + 1 }
  else { r with checked := r.checked + 1 }

/-- The report of a list of results. -/
def ofResults (xs : List RunResult) : Report := xs.foldl record clean

end Report

/-- Whether the runs end after this result. -/
def RunResult.stops (failFast : Bool) (x : RunResult) : Bool := failFast && x.isFailure

/-- Verdict and findings of a finished list of results. -/
def aggregate (xs : List RunResult) : Bool × List Finding :=
  let r := Report.ofResults xs
  (r.isOk, r.findings)

end LintVerdict
