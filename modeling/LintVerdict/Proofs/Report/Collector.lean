import LintVerdict.Dispatch
import LintVerdict.Proofs.Report
import LintVerdict.Report.Collector

/-!
# What a collector reports

A collector passes over the findings of a result that is no failure, and it goes on after a failure
that ends the runs. So two things have to be seen: that no finding is lost, and that the report is
that of all results, whether or not the first failure ends the runs. Both follow from the equation
for one more result. The report on two lists is then that of the parts put together.

## Main definitions

* `RunResult.Fails`: the results that are failures.
* `Report.Sums`: a report that sums up results.

## Main results

* `Collector.recordAll_eq`: the answers to the results of a list, and the collector after them.
* `Collector.sums_recordAll`: a collector sums up the results that it has taken.
* `Dispatcher.walk_cons_of_ok`: a run of linters is recorded by a collector.
* `collected_report`: the report, the answers and the verdict on a list of results.
-/

namespace LintVerdict

/-- A result is a failure when its exit code is not zero or absent, or when it has findings. -/
def RunResult.Fails (x : RunResult) : Prop := x.exitCode ≠ some 0 ∨ x.findings ≠ []

instance (x : RunResult) : Decidable x.Fails := inferInstanceAs (Decidable (_ ∨ _))

/-- A report that sums up some results. -/
structure Report.Sums (r : Report) (xs : List RunResult) : Prop where
  /-- All results are counted. -/
  checked : r.checked = xs.length
  /-- The failures are listed, in order. -/
  failed : r.failed = (xs.filter fun x => x.Fails).map fun x => ⟨x.scope.path, x.linter, x.exitCode⟩
  /-- The findings of all results are there, in order. -/
  findings : r.findings = xs.flatMap RunResult.findings
  /-- The verdict is that of the failures. -/
  outcome : r.outcome = .failed ↔ ∃ x ∈ xs, x.Fails

/-! ### One result -/

theorem RunResult.isFailure_eq_decide (x : RunResult) : x.isFailure = decide x.Fails := by
  rw [isFailure, Bool.eq_iff_iff, decide_eq_true_iff]
  simp [Fails]

variable {xs ys : List RunResult} {x : RunResult} {c : Collector}

/-- **The runs end with a result** that is a failure, if the first failure ends them. -/
theorem Collector.fst_record (c : Collector) (x : RunResult) :
    (c.record x).1 = (c.failFast && decide x.Fails) := by
  rw [record, RunResult.stops, RunResult.isFailure_eq_decide]

/-- **A run of linters is recorded by a collector.** The result of a linter is recorded, and the run
ends there or goes on as the collector answers. -/
theorem Dispatcher.walk_cons_of_ok {σ : Type} {d : Dispatcher} {host : Host σ}
    {root linter : String} {scope : Scope} {rest : List (Scope × String)} {s t : σ}
    (hc : c.failFast = d.failFast) (h : d.check host root scope linter s = (.ok x, t)) :
    d.walk host root ((scope, linter) :: rest) c.report s =
      if (c.record x).1 then (.ok (c.record x).2.report, t)
      else d.walk host root rest (c.record x).2.report t := by
  rw [walk, h, Collector.record, hc]

/-! ### All results -/

theorem Collector.recordAll_cons (c : Collector) (x : RunResult) (xs : List RunResult) :
    c.recordAll (x :: xs) =
      ((c.record x).1 :: ((c.record x).2.recordAll xs).1, ((c.record x).2.recordAll xs).2) :=
  rfl

/-- **The answers to the results of a list** are those to each of them, and what is collected is
recorded into the report. -/
theorem Collector.recordAll_eq (c : Collector) (xs : List RunResult) :
    c.recordAll xs =
      (xs.map fun x => c.failFast && decide x.Fails,
        { c with report := xs.foldl Report.record c.report }) := by
  induction xs generalizing c with
  | nil => rfl
  | cons x xs ih =>
      rw [recordAll_cons, ih, c.fst_record]
      rfl

/-- The report on a list of results sums them up. -/
theorem Report.sums_ofResults (xs : List RunResult) : (ofResults xs).Sums xs := by
  have hfails : RunResult.isFailure = fun x : RunResult => decide x.Fails :=
    funext RunResult.isFailure_eq_decide
  rw [ofResults_eq, hfails]
  refine ⟨rfl, rfl, rfl, ?_⟩
  simp

/-- **A collector sums up the results that it has taken**, those after the end of the runs too. -/
theorem Collector.sums_recordAll (failFast : Bool) (xs : List RunResult) :
    ((new failFast).recordAll xs).2.report.Sums xs := by
  rw [recordAll_eq]
  exact Report.sums_ofResults xs

/-! ### The verdict on a list -/

theorem Outcome.eq_clean_iff {o : Outcome} : o = .clean ↔ ¬ o = .failed := by
  cases o <;> simp

theorem aggregate_eq (xs : List RunResult) :
    aggregate xs = (decide (∀ x ∈ xs, ¬ x.Fails), xs.flatMap RunResult.findings) := by
  have hsums := Report.sums_ofResults xs
  have hok : (Report.ofResults xs).isOk = decide (∀ x ∈ xs, ¬ x.Fails) := by
    rw [Report.isOk, decide_eq_decide, Outcome.eq_clean_iff, hsums.outcome]
    simp only [not_exists, not_and]
  rw [aggregate, hok, hsums.findings]

/-- **The verdict on two lists one after the other.** -/
theorem aggregate_append (xs ys : List RunResult) :
    aggregate (xs ++ ys) =
      ((aggregate xs).1 && (aggregate ys).1, (aggregate xs).2 ++ (aggregate ys).2) := by
  simp only [aggregate_eq, List.forall_mem_append, Bool.decide_and, List.flatMap_append]

/-- **What a collector reports.** A collector that has taken some results sums them all up, and the
report is the same whether or not the first failure ends the runs. It answers that the runs end
exactly if the first failure ends them and the result is one. The verdict on a finished list is that
no result fails, with the same findings, and of two lists one after the other the verdicts and the
findings are put together. -/
theorem collected_report (failFast : Bool) (xs ys : List RunResult) :
    ((Collector.new failFast).recordAll xs).2.report.Sums xs ∧
      ((Collector.new failFast).recordAll xs).2.report =
        ((Collector.new !failFast).recordAll xs).2.report ∧
      ((Collector.new failFast).recordAll xs).1 = (xs.map fun x => failFast && decide x.Fails) ∧
      (∀ c x, (Collector.record c x).1 = true ↔ c.failFast = true ∧ x.Fails) ∧
      aggregate xs = (decide (∀ x ∈ xs, ¬ x.Fails),
        ((Collector.new failFast).recordAll xs).2.report.findings) ∧
      aggregate (xs ++ ys) =
        ((aggregate xs).1 && (aggregate ys).1, (aggregate xs).2 ++ (aggregate ys).2) := by
  have hsums := Collector.sums_recordAll failFast xs
  refine ⟨hsums, ?_, ?_, fun c x => ?_, ?_, aggregate_append xs ys⟩
  · rw [Collector.recordAll_eq, Collector.recordAll_eq]
    rfl
  · rw [Collector.recordAll_eq]
    rfl
  · rw [Collector.fst_record, Bool.and_eq_true, decide_eq_true_iff]
  · rw [hsums.findings, aggregate_eq]

end LintVerdict
