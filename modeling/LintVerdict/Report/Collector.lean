import LintVerdict.Report

/-!
# Collecting results

A collector takes results as they come in and answers to each one whether the runs end with it. What
comes in after such an answer is taken all the same.

## Main definitions

* `Collector`: the report so far, and whether the first failure ends the runs.
* `Collector.record`: takes one more result.
* `Collector.recordAll`: takes all results of a list.
-/

namespace LintVerdict

/-- Collects the results of linter runs. -/
structure Collector where
  /-- Whether the first failure ends the runs. -/
  failFast : Bool
  /-- The report on the results so far. -/
  report : Report
  deriving DecidableEq, Repr

namespace Collector

/-- A collector without results. -/
def new (failFast : Bool) : Collector := ⟨failFast, .clean⟩

/-- Whether the runs end with a result, and the collector after it. -/
def record (c : Collector) (x : RunResult) : Bool × Collector :=
  (x.stops c.failFast, { c with report := c.report.record x })

/-- The answers to all results of a list, and the collector after them. -/
def recordAll (c : Collector) : List RunResult → List Bool × Collector
  | [] => ([], c)
  | x :: xs =>
    let (stop, c) := c.record x
    let (stops, c) := c.recordAll xs
    (stop :: stops, c)

end Collector

end LintVerdict
