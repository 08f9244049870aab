import Mathlib.Data.List.Forall2
import LintVerdict.Dispatch
import LintVerdict.Proofs.FirstError
import LintVerdict.Proofs.Linter
import LintVerdict.Proofs.Report

/-!
# What comes of each pair

A run in a setting that does not change gives every pair of scope and linter one fate, which
does not depend on the other pairs: its target cannot be listed, or its command is answered.
The file says so without the loop, shows that a checked configuration leaves no other fate, and
computes the loop of `Dispatcher.walk` from the list of fates.

## Main definitions

* `Setting`, `Setting.host`: what a run finds and does not change, and the host that notes the
  commands it is given.
* `Attempt`: the fate of a pair.
* `Attempted`: which fate a pair has.
* `walked`: the fates up to the one that ends a run.
* `reportOn`, `verdict`: the report and the answer of a run that met a list of fates.

## Main results

* `exists_attempts`: in a checked configuration every pair has a fate.
* `walk_eq`, `run_of_root`: the loop and the run answer with the verdict on the walked fates.
-/

namespace LintVerdict

/-- What a run finds and does not change: the files, the root of the repository, and the answer
to every command in a directory. -/
structure Setting where
  /-- The files. -/
  files : Files
  /-- The root of the repository, or why it is unknown. -/
  root : Except DispatchError String
  /-- The answer to a command. -/
  answer : Command → String → Except ExecutorError ProcessOutput

/-- The host in a setting. Its state is the list of the commands it was given. -/
def Setting.host (w : Setting) : Host (List Command) where
  files _ := w.files
  root log := (w.root, log)
  launch c dir log := (w.answer c dir, log ++ [c])

@[simp] theorem Setting.host_files (w : Setting) (log : List Command) :
    w.host.files log = w.files := rfl

@[simp] theorem Setting.host_root (w : Setting) (log : List Command) :
    w.host.root log = (w.root, log) := rfl

@[simp] theorem Setting.host_launch (w : Setting) (c : Command) (dir : String)
    (log : List Command) : w.host.launch c dir log = (w.answer c dir, log ++ [c]) := rfl

/-- The directory that linters run in, or why there is none. -/
def Setting.workingRoot (w : Setting) : Except DispatchError String :=
  w.root.bind (Dispatcher.workingRoot w.files)

theorem place_root {f : Files} (h : f.root.isDir = true) : f.place "/" true = .ok [] := by
  obtain ⟨root, cwd⟩ := f
  cases root with
  | file _ _ => exact absurd h nofun
  | link _ => exact absurd h nofun
  | dir es =>
      have hzero : "/".contains '\x00' = false := by
        simp [String.contains_char_eq]
      have hlength : "/".length < 4096 := by
        decide
      have hsplit : Text.splitAt '/' "/" = ["", ""] := by
        decide
      rw [Files.place, hzero, hsplit]
      simp [Files.start, FilePath.isAbsolute, Node.walk, pathLimit, Node.get?, hlength]

/-- The root of a tree is a usable working root. -/
theorem workingRoot_root {f : Files} (h : f.root.isDir = true) :
    Dispatcher.workingRoot f "/" = .ok "/" := by
  have hplace := place_root h
  have hnode : f.node "/" = .ok f.root := by
    rw [Files.node, hplace]
    rfl
  have hdir : f.isDir "/" = true := by
    rw [Files.isDir, hnode]
    exact h
  have hpath : f.canonical "/" = .ok "/" := by
    rw [Files.canonical, hplace]
    rfl
  rw [Dispatcher.workingRoot, hpath]
  exact if_pos hdir

/-- The fate of a scope and a linter. -/
inductive Attempt where
  /-- The target cannot be listed, and there is no command. -/
  | unlisted (scope : Scope) (linter : String) (fault : TemplateError)
  /-- The linter's command was given and answered. -/
  | answered (scope : Scope) (linter : String) (spec : LinterSpec) (command : Command)
      (answer : Except ExecutorError ProcessOutput)

namespace Attempt

/-- The result, or the error that names the linter. -/
def outcome : Attempt → Except DispatchError RunResult
  | unlisted _ linter fault => .error (.template linter fault)
  | answered scope linter _ _ (.error fault) => .error (.executor linter scope fault)
  | answered scope _ spec _ (.ok output) => .ok (evaluate scope spec output)

/-- The error, if there is one. -/
def error? (a : Attempt) : Option DispatchError :=
  match a.outcome with
  | .error e => some e
  | .ok _ => none

/-- Whether the linter ran and failed. -/
def fails (a : Attempt) : Bool :=
  match a.outcome with
  | .error _ => false
  | .ok r => r.isFailure

/-- The findings of the linter's result. -/
def findings (a : Attempt) : List Finding :=
  match a.outcome with
  | .error _ => []
  | .ok r => r.findings

/-- The commands given: one, or none without a target. -/
def commands : Attempt → List Command
  | unlisted _ _ _ => []
  | answered _ _ _ command _ => [command]

/-- The pair and the exit code, as a report lists them. -/
def entry : Attempt → FailedRun
  | unlisted scope linter _ => ⟨scope.path, linter, none⟩
  | answered scope linter _ _ (.error _) => ⟨scope.path, linter, none⟩
  | answered scope linter _ _ (.ok output) => ⟨scope.path, linter, output.exitCode⟩

/-- Whether a run ends here: always at an error, at a failure if it is to stop there. -/
def ends (failFast : Bool) (a : Attempt) : Bool := a.error?.isSome || (failFast && a.fails)

end Attempt

/-- The fate of a pair under the linters and options of a configuration. The linter is the
registry's one of that id, its command is the program with the rendered arguments and then the
target, and the command is answered in the working root. -/
inductive Attempted (registry : Registry) (options : Options) (w : Setting) (root : String) :
    Scope × String → Attempt → Prop
  | unlisted {scope : Scope} {linter : String} {spec : LinterSpec} {fault : TemplateError} :
      registry.get? linter = some spec →
      spec.target.args w.files root scope = .error fault →
      Attempted registry options w root (scope, linter) (.unlisted scope linter fault)
  | answered {scope : Scope} {linter : String} {spec : LinterSpec} {args target : List String} :
      registry.get? linter = some spec →
      spec.id = linter →
      spec.target.args w.files root scope = .ok target →
      spec.template.render linter options = .ok args →
      Attempted registry options w root (scope, linter)
        (.answered scope linter spec ⟨spec.template.program, args ++ target⟩
          (w.answer ⟨spec.template.program, args ++ target⟩ root))

/-- The fates up to the first one that ends a run, that one included. -/
def walked (failFast : Bool) (as : List Attempt) : List Attempt :=
  as.take (as.findIdx (Attempt.ends failFast) + 1)

/-- The report on a list of fates: whether one of the linters failed, the findings of all of
them, the failing pairs, and how many pairs there were. -/
def reportOn (as : List Attempt) : Report where
  outcome := if as.any Attempt.fails then .failed else .clean
  findings := as.flatMap Attempt.findings
  failed := (as.filter Attempt.fails).map Attempt.entry
  checked := as.length

@[simp] theorem reportOn_nil : reportOn [] = .clean := rfl

/-- The answer of a run that met these fates: the first error, or else the report. -/
def verdict (as : List Attempt) : Except DispatchError Report :=
  match as.findSome? Attempt.error? with
  | some e => .error e
  | none => .ok (reportOn as)

/-- The pairs of a configuration: every package with every linter for packages, then every
directory with every linter for directories. -/
def scheduled (a : Applicability) (scopes : Scopes) : List (Scope × String) :=
  (scopes.packages.product a.package).map (fun x => (⟨.package, x.1⟩, x.2)) ++
    (scopes.directories.product a.directory).map fun x => (⟨.directory, x.1⟩, x.2)

/-! ### Checked configurations -/

namespace Dispatcher

variable {registry : Registry} {applicability : Applicability} {options : Options}
  {failFast : Bool} {d : Dispatcher} {w : Setting} {root : String}

/-- A linter passes the check if it is known and its template has all its values. -/
theorem checkLinter_eq_ok_iff {id : String} :
    checkLinter registry options id = .ok () ↔
      ∃ spec args, registry.get? id = some spec ∧
        spec.template.render id options = .ok args := by
  unfold checkLinter Registry.lookup
  cases hg : registry.get? id with
  | none => simp
  | some spec => cases hr : spec.template.render id options <;> simp [hr]

/-- A checked configuration is kept as it was given. -/
theorem eq_of_make (h : make registry applicability options failFast = .ok d) :
    d = ⟨registry, applicability, options, failFast⟩ := by
  unfold make at h
  split at h
  · simp at h
  · split at h
    · simp at h
    · exact (Except.ok.inj h).symm

/-- In a checked configuration every listed linter is known, and its template has all its
values. -/
theorem rendered_of_make (h : make registry applicability options failFast = .ok d)
    {id : String} (hid : id ∈ applicability.listed) :
    ∃ spec args, registry.get? id = some spec ∧
      spec.template.render id options = .ok args := by
  unfold make at h
  split at h
  · simp at h
  · split at h
    · simp at h
    · next hforM =>
      exact checkLinter_eq_ok_iff.mp
        (forM_eq_ok_iff.mp hforM id (Applicability.mem_allIds.mpr hid))

/-! ### The pairs -/

/-- The pairs of a dispatcher are those that its lists schedule. -/
theorem pairs_eq_scheduled (d : Dispatcher) (scopes : Scopes) :
    d.pairs scopes = scheduled d.applicability scopes := by
  simp only [pairs, scheduled, List.product, List.map_flatMap, List.map_map, Function.comp_def]

end Dispatcher

/-- Only listed linters are scheduled. -/
theorem listed_of_mem_scheduled {a : Applicability} {scopes : Scopes} {p : Scope × String}
    (h : p ∈ scheduled a scopes) : p.2 ∈ a.listed := by
  simp only [scheduled, List.mem_append, List.mem_map, List.pair_mem_product, Prod.exists] at h
  rw [Applicability.listed, List.mem_append]
  obtain ⟨_, l, ⟨-, hl⟩, rfl⟩ | ⟨_, l, ⟨-, hl⟩, rfl⟩ := h
  · exact Or.inl hl
  · exact Or.inr hl

section Fates

variable {registry : Registry} {applicability : Applicability} {options : Options}
  {failFast : Bool} {d : Dispatcher} {w : Setting} {root : String}

/-- A pair whose linter is known and rendered has a fate. -/
theorem exists_attempted {scope : Scope} {linter : String} {spec : LinterSpec}
    {args : List String} (hspec : registry.get? linter = some spec)
    (hargs : spec.template.render linter options = .ok args) :
    ∃ a, Attempted registry options w root (scope, linter) a := by
  cases ht : spec.target.args w.files root scope with
  | error fault => exact ⟨_, .unlisted hspec ht⟩
  | ok target => exact ⟨_, .answered hspec (Registry.id_of_get? hspec) ht hargs⟩

/-- **A checked configuration leaves no fate open**: every scheduled pair has one. -/
theorem exists_attempts (w : Setting) (root : String)
    (h : Dispatcher.make registry applicability options failFast = .ok d) (scopes : Scopes) :
    ∃ as, List.Forall₂ (Attempted registry options w root) (scheduled applicability scopes)
      as := by
  have hall : ∀ p ∈ scheduled applicability scopes,
      ∃ a, Attempted registry options w root p a := by
    intro p hp
    obtain ⟨spec, args, hspec, hargs⟩ :=
      Dispatcher.rendered_of_make h (listed_of_mem_scheduled hp)
    exact exists_attempted hspec hargs
  generalize scheduled applicability scopes = pairs at hall
  induction pairs with
  | nil => exact ⟨[], .nil⟩
  | cons p ps ih =>
      obtain ⟨a, ha⟩ := hall p List.mem_cons_self
      obtain ⟨as, has⟩ := ih fun q hq => hall q (List.mem_cons_of_mem p hq)
      exact ⟨a :: as, .cons ha has⟩

/-! ### The loop -/

/-- Checking a pair gives its fate's outcome and notes its fate's commands. -/
theorem Attempted.check_eq {p : Scope × String} {a : Attempt}
    (h : Attempted registry options w root p a) (log : List Command) :
    Dispatcher.check ⟨registry, applicability, options, failFast⟩ w.host root p.1 p.2 log =
      (a.outcome, log ++ a.commands) := by
  cases h with
  | unlisted hspec ht =>
      simp [Dispatcher.check, Dispatcher.command, Registry.lookup_of_get? hspec, ht,
        Attempt.outcome, Attempt.commands, Except.mapError, bind, Except.bind]
  | @answered scope linter spec args target hspec hid ht hargs =>
      have hcommand : Dispatcher.command ⟨registry, applicability, options, failFast⟩ w.files
          root scope linter = .ok (spec, ⟨spec.template.program, args ++ target⟩) := by
        simp [Dispatcher.command, Registry.lookup_of_get? hspec, ht, CommandTemplate.build,
          hargs, Except.mapError, bind, Except.bind, pure, Except.pure]
      cases hw : w.answer ⟨spec.template.program, args ++ target⟩ root with
      | error fault =>
          simp [Dispatcher.check, hcommand, hw, Attempt.outcome,
            Attempt.commands]
      | ok output =>
          simp [Dispatcher.check, hcommand, hw, Attempt.outcome,
            Attempt.commands]

theorem walked_nil (failFast : Bool) : walked failFast [] = [] := rfl

/-- The walk goes on after a fate that does not end it. -/
theorem walked_cons (failFast : Bool) (a : Attempt) (as : List Attempt) :
    walked failFast (a :: as) = if a.ends failFast then [a] else a :: walked failFast as :=
  take_findIdx_cons (Attempt.ends failFast) a as

/-- The report grows by the result of each pair. -/
theorem record_reportOn {p : Scope × String} {a : Attempt} {r : RunResult}
    (h : Attempted registry options w root p a) (hr : a.outcome = .ok r)
    (as : List Attempt) : (reportOn as).record r = reportOn (as ++ [a]) := by
  have hfails : a.fails = r.isFailure := by rw [Attempt.fails, hr]
  have hfindings : a.findings = r.findings := by rw [Attempt.findings, hr]
  have hentry : a.entry = r.failedRun := by
    cases h with
    | unlisted => simp [Attempt.outcome] at hr
    | @answered scope linter spec args target _ hid =>
        cases hw : w.answer ⟨spec.template.program, args ++ target⟩ root with
        | error fault => simp [Attempt.outcome, hw] at hr
        | ok output =>
            simp only [Attempt.outcome, hw, Except.ok.injEq] at hr
            simp [Attempt.entry, ← hr, evaluate, RunResult.failedRun, hid]
  rw [Report.record_eq, ← hfails, ← hfindings, ← hentry]
  cases hf : a.fails <;> simp [reportOn, hf]

/-- **The loop follows the fates**: after fates without an error it reaches the verdict on
those and the walked ones, and it notes the walked commands. -/
theorem walk_eq {pairs : List (Scope × String)} {as : List Attempt}
    (h : List.Forall₂ (Attempted registry options w root) pairs as) (done : List Attempt)
    (hdone : done.findSome? Attempt.error? = none) (log : List Command) :
    Dispatcher.walk ⟨registry, applicability, options, failFast⟩ w.host root pairs
        (reportOn done) log =
      (verdict (done ++ walked failFast as),
        log ++ (walked failFast as).flatMap Attempt.commands) := by
  induction h generalizing done log with
  | nil => simp [Dispatcher.walk, walked_nil, verdict, hdone]
  | @cons p a pairs as hp _ ih =>
      rw [Dispatcher.walk, hp.check_eq, walked_cons, Attempt.ends]
      cases ho : a.outcome with
      | error e =>
          have herr : a.error? = some e := by rw [Attempt.error?, ho]
          simp [herr, verdict, List.findSome?_append, hdone]
      | ok r =>
          have herr : a.error? = none := by rw [Attempt.error?, ho]
          have hstops : (failFast && a.fails) = r.stops failFast := by
            rw [Attempt.fails, ho, RunResult.stops]
          have hnext : (done ++ [a]).findSome? Attempt.error? = none := by
            simp [List.findSome?_append, hdone, herr]
          simp only [herr, Option.isSome_none, Bool.false_or, hstops,
            record_reportOn hp ho done]
          cases r.stops failFast with
          | true => simp [verdict, hnext]
          | false => simp [ih (done ++ [a]) hnext]

/-- A run without pairs asks nothing and reports nothing. -/
theorem run_of_no_pairs {scopes : Scopes} (h : scheduled d.applicability scopes = []) :
    d.run w.host scopes [] = (.ok .clean, []) := by
  rw [Dispatcher.run, Dispatcher.pairs_eq_scheduled, h]

/-- A run with pairs looks up its working root once and walks there. -/
theorem run_of_pairs {scopes : Scopes} (h : scheduled d.applicability scopes ≠ []) :
    d.run w.host scopes [] =
      match w.workingRoot with
      | .error e => (.error e, [])
      | .ok root => d.walk w.host root (scheduled d.applicability scopes) .clean [] := by
  rw [Dispatcher.run, Dispatcher.pairs_eq_scheduled, Setting.workingRoot]
  cases hr : w.root with
  | error e => simp [hr, Except.bind]
  | ok dir => cases hdir : Dispatcher.workingRoot w.files dir <;> simp [hr, hdir, Except.bind]

/-- **A run follows the fates** of its pairs in its working root. -/
theorem run_of_root {scopes : Scopes} {as : List Attempt} (hroot : w.workingRoot = .ok root)
    (h : List.Forall₂ (Attempted registry options w root) (scheduled applicability scopes)
      as) :
    Dispatcher.run ⟨registry, applicability, options, failFast⟩ w.host scopes [] =
      (verdict (walked failFast as), (walked failFast as).flatMap Attempt.commands) := by
  by_cases hnil : scheduled applicability scopes = []
  · rw [run_of_no_pairs hnil]
    rw [hnil, List.forall₂_nil_left_iff] at h
    subst h
    rfl
  · rw [run_of_pairs hnil, hroot]
    exact walk_eq h [] rfl []

end Fates

end LintVerdict
