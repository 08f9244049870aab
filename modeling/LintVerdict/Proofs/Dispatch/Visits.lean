import Mathlib.Data.List.Nodup
import Mathlib.Data.List.ProdSigma
import LintVerdict.Proofs.Dispatch.Failure
import LintVerdict.Proofs.Dispatch.Order

/-!
# Visiting a pair once

A run visits the scheduled pairs one after the other. The scopes are distinct and the two lists
of linters share none, but nothing keeps a linter from standing twice in one list, and then it is
run twice on every scope of the list. The file says exactly when a schedule repeats no pair, and
that without repeats no linter runs twice on a scope and no failing run is listed twice.

## Main definitions

* `LinterRun.visit`: the pair that a linter ran for.

## Main results

* `nodup_scheduled_iff`: when a schedule repeats no pair.
* `Dispatcher.Ran.visits_prefix`: the linters that ran are those of the first pairs.
* `visits_distinct_iff`: when the work of a run is not done twice.
-/

namespace LintVerdict

/-- The pair that a linter ran for. -/
def LinterRun.visit (x : LinterRun) : Scope × String := (x.scope, x.spec.id)

/-- The pair of a failing run, with its scope as a report shows it. -/
def FailedRun.visit (r : FailedRun) : String × String := (r.scope, r.linter)

/-! ### Schedules -/

section Schedule

variable {a : Applicability} {scopes : Scopes}

/-- The pairs that are scheduled. -/
theorem mem_scheduled_iff {p : Scope × String} :
    p ∈ scheduled a scopes ↔
      p.1.kind = .package ∧ p.1.path ∈ scopes.packages ∧ p.2 ∈ a.package ∨
        p.1.kind = .directory ∧ p.1.path ∈ scopes.directories ∧ p.2 ∈ a.directory := by
  obtain ⟨⟨kind, path⟩, linter⟩ := p
  simp only [scheduled, List.mem_append, List.mem_map, List.pair_mem_product, Prod.exists,
    Prod.mk.injEq, Scope.mk.injEq]
  constructor
  · rintro (⟨p, l, ⟨hp, hl⟩, ⟨rfl, rfl⟩, rfl⟩ | ⟨p, l, ⟨hp, hl⟩, ⟨rfl, rfl⟩, rfl⟩)
    · exact Or.inl ⟨rfl, hp, hl⟩
    · exact Or.inr ⟨rfl, hp, hl⟩
  · rintro (⟨rfl, hp, hl⟩ | ⟨rfl, hp, hl⟩)
    · exact Or.inl ⟨path, linter, ⟨hp, hl⟩, ⟨rfl, rfl⟩, rfl⟩
    · exact Or.inr ⟨path, linter, ⟨hp, hl⟩, ⟨rfl, rfl⟩, rfl⟩

/-- A product repeats no pair exactly if none of its lists has repeats, or one is empty. -/
theorem nodup_product_iff {α β : Type} {xs : List α} {ys : List β} (hxs : xs.Nodup) :
    (xs.product ys).Nodup ↔ xs = [] ∨ ys.Nodup := by
  constructor
  · intro h
    cases xs with
    | nil => exact Or.inl rfl
    | cons x xs =>
        have hfirst : (ys.map (Prod.mk x)).Nodup := by
          rw [List.product, List.flatMap_cons] at h
          exact h.of_append_left
        exact Or.inr (hfirst.of_map _)
  · rintro (rfl | hys)
    · exact List.nodup_nil
    · exact hxs.product hys

/-- **When a schedule repeats no pair**: a list of linters that is used has no repeats. -/
theorem nodup_scheduled_iff (hpackages : scopes.packages.Nodup)
    (hdirectories : scopes.directories.Nodup) :
    (scheduled a scopes).Nodup ↔
      (scopes.packages = [] ∨ a.package.Nodup) ∧
        (scopes.directories = [] ∨ a.directory.Nodup) := by
  have hmap : ∀ kind, Function.Injective
      fun x : String × String => ((⟨kind, x.1⟩ : Scope), x.2) := by
    rintro kind ⟨p, l⟩ ⟨q, m⟩ h
    simpa using h
  have hkinds : ∀ {xs ys : List (String × String)},
      List.Disjoint (xs.map fun x => ((⟨.package, x.1⟩ : Scope), x.2))
        (ys.map fun x => ((⟨.directory, x.1⟩ : Scope), x.2)) := by
    intro xs ys p hp hq
    obtain ⟨_, -, rfl⟩ := List.mem_map.mp hp
    obtain ⟨_, -, heq⟩ := List.mem_map.mp hq
    simp at heq
  rw [scheduled, List.nodup_append', List.nodup_map_iff (hmap _), List.nodup_map_iff (hmap _),
    nodup_product_iff hpackages, nodup_product_iff hdirectories]
  exact and_congr_right fun _ => and_iff_left hkinds

/-- Without a linter in both lists, a pair is told by the path of its scope and its linter. -/
theorem eq_of_mem_scheduled (h : ∀ id ∈ a.package, id ∉ a.directory) {p q : Scope × String}
    (hp : p ∈ scheduled a scopes) (hq : q ∈ scheduled a scopes) (hpath : p.1.path = q.1.path)
    (hlinter : p.2 = q.2) : p = q := by
  have hkind : p.1.kind = q.1.kind := by
    obtain ⟨hp, -, hpl⟩ | ⟨hp, -, hpl⟩ := mem_scheduled_iff.mp hp <;>
      obtain ⟨hq, -, hql⟩ | ⟨hq, -, hql⟩ := mem_scheduled_iff.mp hq
    · rw [hp, hq]
    · exact absurd (hlinter ▸ hql) (h p.2 hpl)
    · exact absurd hpl (h p.2 (hlinter ▸ hql))
    · rw [hp, hq]
  obtain ⟨⟨kind, path⟩, linter⟩ := p
  obtain ⟨⟨kind', path'⟩, linter'⟩ := q
  simp_all

end Schedule

/-! ### Runs -/

namespace Dispatcher

variable {σ : Type} {d : Dispatcher} {host : Host σ} {root : String} {scopes : Scopes} {s s' : σ}
  {pairs : List (Scope × String)} {xs : List LinterRun}

/-- A command is built for the linter that the registry knows by that id. -/
theorem id_of_command {files : Files} {scope : Scope} {linter : String} {spec : LinterSpec}
    {c : Command} (h : d.command files root scope linter = .ok (spec, c)) : spec.id = linter :=
  Registry.id_of_get? (program_of_command h).1

/-- The linters that ran are those of the pairs. -/
theorem Walked.map_visit (h : Walked d host root pairs s xs s') :
    xs.map LinterRun.visit = pairs := by
  induction h with
  | nil => rfl
  | cons hcommand _ _ ih => rw [List.map_cons, ih, LinterRun.visit, id_of_command hcommand]

/-- **The linters that ran are those of the first pairs.** -/
theorem Ran.visits_prefix (h : Ran d host scopes s xs s') :
    xs.map LinterRun.visit <+: d.pairs scopes := by
  cases h with
  | nothing => exact List.nil_prefix
  | walked _ _ hdone hwalked => rwa [hwalked.map_visit]

/-- The failing runs of a report are among the linters that ran. -/
theorem failed_sublist_visits (xs : List LinterRun) :
    ((Report.ofResults (xs.map LinterRun.result)).failed.map FailedRun.visit).Sublist
      ((xs.map LinterRun.visit).map fun p => (p.1.path, p.2)) := by
  rw [Report.ofResults_eq, List.map_map, List.map_map]
  have hsub := (List.filter_sublist (p := RunResult.isFailure)
    (l := xs.map LinterRun.result)).map (FailedRun.visit ∘ RunResult.failedRun)
  rwa [List.map_map] at hsub

end Dispatcher

/-- **When the work of a run is not done twice.** In an accepted configuration the schedule on
distinct scopes repeats no pair exactly if no list of linters that is used has repeats. Then no
linter runs twice on a scope, and no failing run is listed twice. -/
theorem visits_distinct_iff {registry : Registry} {a : Applicability} {options : Options}
    {failFast : Bool} {d : Dispatcher}
    (hd : Dispatcher.make registry a options failFast = .ok d) {scopes : Scopes}
    (hpackages : scopes.packages.Nodup) (hdirectories : scopes.directories.Nodup) :
    ((d.pairs scopes).Nodup ↔
        (scopes.packages = [] ∨ a.package.Nodup) ∧
          (scopes.directories = [] ∨ a.directory.Nodup)) ∧
      ((d.pairs scopes).Nodup → ∀ {σ : Type} (host : Host σ) s report s',
        d.run host scopes s = (.ok report, s') →
          (report.failed.map FailedRun.visit).Nodup ∧
            ∃ xs, Dispatcher.Ran d host scopes s xs s' ∧
              report = Report.ofResults (xs.map LinterRun.result) ∧
              (xs.map LinterRun.visit).Nodup) := by
  obtain ⟨hsettled, rfl⟩ := Dispatcher.make_eq_ok_iff.mp hd
  rw [Dispatcher.pairs_eq_scheduled]
  refine ⟨nodup_scheduled_iff hpackages hdirectories, ?_⟩
  intro hnodup σ host s report s' hrun
  obtain ⟨xs, hran, rfl⟩ := Dispatcher.ran_of_run_eq_ok hrun
  have hfirst := hran.visits_prefix
  rw [Dispatcher.pairs_eq_scheduled] at hfirst
  have hpaths : ((scheduled a scopes).map fun p => (p.1.path, p.2)).Nodup := by
    refine hnodup.map_on fun p hp q hq heq => ?_
    obtain ⟨hpath, hlinter⟩ := Prod.mk.inj heq
    exact eq_of_mem_scheduled hsettled.disjoint hp hq hpath hlinter
  refine ⟨?_, xs, hran, rfl, hnodup.sublist hfirst.sublist⟩
  exact (hpaths.sublist (hfirst.sublist.map _)).sublist (Dispatcher.failed_sublist_visits xs)

/-- A directory that is checked as a package and as a directory, by different linters. -/
theorem visits_distinct_iff_twins :
    Dispatcher.make twinRegistry ⟨["vet"], ["lint"]⟩ .unset false =
        .ok ⟨twinRegistry, ⟨["vet"], ["lint"]⟩, .unset, false⟩ ∧
      ["a", "b"].Nodup ∧ ["a"].Nodup ∧
      (Dispatcher.pairs ⟨twinRegistry, ⟨["vet"], ["lint"]⟩, .unset, false⟩
        ⟨["a", "b"], ["a"]⟩).Nodup := by
  have hd : Dispatcher.make twinRegistry ⟨["vet"], ["lint"]⟩ .unset false =
      .ok ⟨twinRegistry, ⟨["vet"], ["lint"]⟩, .unset, false⟩ := rfl
  have hpackages : (Scopes.mk ["a", "b"] ["a"]).packages.Nodup := by decide
  have hdirectories : (Scopes.mk ["a", "b"] ["a"]).directories.Nodup := by decide
  obtain ⟨hdistinct, -⟩ := visits_distinct_iff hd hpackages hdirectories
  exact ⟨hd, hpackages, hdirectories, hdistinct.mpr ⟨Or.inr (by decide), Or.inr (by decide)⟩⟩

/-- The configuration that lists a linter twice. -/
def repeatingDispatcher : Dispatcher :=
  ⟨⟨[bareLinter]⟩, ⟨["vet", "vet"], []⟩, .unset, false⟩

/-- A linter that stands twice in the list for packages is run twice on the package, and its
failure is listed twice. -/
theorem repeated_linter_visited_twice :
    Dispatcher.make ⟨[bareLinter]⟩ ⟨["vet", "vet"], []⟩ .unset false = .ok repeatingDispatcher ∧
      ¬ (repeatingDispatcher.pairs ⟨["a"], []⟩).Nodup ∧
      repeatingDispatcher.run failingSetting.host ⟨["a"], []⟩ [] =
        (.ok ⟨.failed,
            [⟨"vet", "a", none, none, "exited with status 1"⟩,
              ⟨"vet", "a", none, none, "exited with status 1"⟩],
            [⟨"a", "vet", some 1⟩, ⟨"a", "vet", some 1⟩], 2⟩,
          [⟨"vet", ["./a"]⟩, ⟨"vet", ["./a"]⟩]) := by
  have hroot : failingSetting.workingRoot = .ok "/" := workingRoot_root rfl
  have hpairs : scheduled repeatingDispatcher.applicability ⟨["a"], []⟩ =
      [(⟨.package, "a"⟩, "vet"), (⟨.package, "a"⟩, "vet")] := rfl
  have hcheck : ∀ log, repeatingDispatcher.check failingSetting.host "/" ⟨.package, "a"⟩ "vet"
      log = (.ok (evaluate ⟨.package, "a"⟩ bareLinter ⟨"", some 1⟩), log ++ [⟨"vet", ["./a"]⟩]) :=
    fun _ => rfl
  refine ⟨rfl, by decide, ?_⟩
  rw [run_of_pairs (by rw [hpairs]; exact List.cons_ne_nil _ _), hroot, hpairs]
  simp only [Dispatcher.walk, hcheck, evaluate_bareLinter]
  rfl

end LintVerdict
