import LintVerdict.Execution
import LintVerdict.Linter.Applicability
import LintVerdict.Linter.Target
import LintVerdict.Report

/-!
# Dispatch

Every applicable linter is run on every scope, and the results are folded into a report. The
configuration is checked before anything runs.

## Main definitions

* `Dispatcher.make`: a checked configuration.
* `Dispatcher.pairs`: what is to be run, in order.
* `Host`: what a run asks of its surroundings.
* `Dispatcher.run`: the report of a run, or the error that ended it.
-/

namespace LintVerdict

/-- Why a run cannot begin or go on. -/
inductive DispatchError where
  /-- The listed linters are faulty. -/
  | registry (fault : RegistryError)
  /-- The command of a linter cannot be built. -/
  | template (linter : String) (fault : TemplateError)
  /-- The root of the repository is unknown. -/
  | rootResolution (reason : String)
  /-- The root is no directory to work in. -/
  | workDir (path : String) (reason : String)
  /-- A linter could not be run. -/
  | executor (linter : String) (scope : Scope) (fault : ExecutorError)
  deriving DecidableEq, Repr

/-- Who has to act on an error. -/
inductive ErrorKind where
  /-- The configuration has to change. -/
  | configuration
  /-- The machine has to change. -/
  | environment
  deriving DecidableEq, Repr

namespace DispatchError

/-- The message of a dispatch error. -/
def message : DispatchError → String
  | registry fault => fault.message
  | template linter fault => "linter '" ++ linter ++ "': " ++ fault.message
  | rootResolution reason => "could not resolve repository root: " ++ reason
  | workDir path reason => "working root '" ++ path ++ "' is not usable: " ++ reason
  | executor linter scope fault =>
    "linter '" ++ linter ++ "' on " ++ scope.display ++ ": " ++ fault.message

/-- The kind of a dispatch error. Only the listing of a target's files depends on the machine
among the template errors. -/
def kind : DispatchError → ErrorKind
  | registry _ => .configuration
  | template _ (.target _ _) => .environment
  | template _ _ => .configuration
  | rootResolution _ => .environment
  | workDir _ _ => .environment
  | executor _ _ _ => .environment

end DispatchError

/-- The stages of a run. -/
inductive RunState where
  /-- Nothing has happened. -/
  | notStarted
  /-- The root is being looked up. -/
  | resolvingRoot
  /-- Linters run. -/
  | scanning
  /-- Some linter failed. -/
  | failed
  /-- No linter failed. -/
  | clean
  deriving DecidableEq, Repr

namespace RunState

/-- All stages, in order. -/
def all : List RunState := [notStarted, resolvingRoot, scanning, failed, clean]

/-- The name of a stage. -/
def name : RunState → String
  | notStarted => "not-started"
  | resolvingRoot => "resolving-root"
  | scanning => "scanning"
  | failed => "failed"
  | clean => "clean"

end RunState

/-!
### The result of one command
-/

/-- The first line that is not blank, trimmed. -/
def firstLine? (output : String) : Option String :=
  ((Text.lines output).map Text.trim).find? fun l => !l.isEmpty

/-- What an exit code says when the output says nothing. -/
def exitMessage : Option Int → String
  | some code => "exited with status " ++ toString code
  | none => "terminated by signal"

/-- The finding that stands for a failure without findings, at the scope itself. -/
def failureFinding (scope : Scope) (linter : String) (o : ProcessOutput) : Finding :=
  ⟨linter, scope.path, none, none, (firstLine? o.output).getD (exitMessage o.exitCode)⟩

/-- The result of a linter on a scope. A failure is never silent: when the output holds no
finding, one stands for it. -/
def evaluate (scope : Scope) (spec : LinterSpec) (o : ProcessOutput) : RunResult :=
  let found := spec.pattern.findings spec.id o.output spec.message
  { scope
    linter := spec.id
    exitCode := o.exitCode
    output := o.output
    findings :=
      if found.isEmpty && !o.succeeded then [failureFinding scope spec.id o] else found }

/-!
### The run
-/

/-- What a run asks of its surroundings, whose state may change with every question. -/
structure Host (σ : Type) where
  /-- The files as they are. -/
  files : σ → Files
  /-- The root of the repository. -/
  root : σ → Except DispatchError SystemText × σ
  /-- Runs a command in a directory. -/
  launch : Command → SystemText → σ → Except ExecutorError ProcessOutput × σ

/-- A checked configuration. -/
structure Dispatcher where
  /-- The known linters. -/
  registry : Registry
  /-- The linters that run, and where. -/
  applicability : Applicability
  /-- The values of the placeholders. -/
  options : Options
  /-- Whether the first failure ends a run. -/
  failFast : Bool

namespace Dispatcher

/-- Checks that a linter is known and that its template has all its values. -/
def checkLinter (r : Registry) (o : Options) (id : String) : Except DispatchError Unit :=
  match r.lookup id with
  | .error e => .error (.registry e)
  | .ok spec =>
    match spec.template.render id o with
    | .error e => .error (.template id e)
    | .ok _ => .ok ()

/-- The dispatcher of a configuration, or the configuration's first fault. -/
def make (registry : Registry) (applicability : Applicability) (options : Options)
    (failFast : Bool) : Except DispatchError Dispatcher :=
  match applicability.validate registry with
  | .error e => .error (.registry e)
  | .ok _ =>
    match applicability.allIds.forM (checkLinter registry options) with
    | .error e => .error e
    | .ok _ => .ok ⟨registry, applicability, options, failFast⟩

/-- What is to be run: every linter for packages on every package, then every linter for
directories on every directory. -/
def pairs (d : Dispatcher) (scopes : Scopes) : List (Scope × String) :=
  (scopes.packages.flatMap fun p => d.applicability.package.map fun l => (⟨.package, p⟩, l)) ++
    scopes.directories.flatMap fun p => d.applicability.directory.map fun l => (⟨.directory, p⟩, l)

/-- The absolute path of the directory that linters run in. -/
def workingRoot (files : Files) (root : SystemText) : Except DispatchError SystemText :=
  match files.canonical root with
  | .error e => .error (.workDir (Text.decoded root) e.message)
  | .ok path =>
    if files.isDir path then .ok path
    else .error (.workDir (Text.decoded path) "not a directory")

/-- The command of a linter on a scope, with the linter. -/
def command (d : Dispatcher) (files : Files) (root : SystemText) (scope : Scope)
    (linter : String) : Except DispatchError (LinterSpec × Command) := do
  let spec ← (d.registry.lookup linter).mapError .registry
  let target ← (spec.target.args files root scope).mapError (.template linter)
  let command ← (spec.template.build linter target d.options).mapError (.template linter)
  return (spec, command)

/-- Runs a linter on a scope. -/
def check {σ : Type} (d : Dispatcher) (host : Host σ) (root : SystemText) (scope : Scope)
    (linter : String) (s : σ) : Except DispatchError RunResult × σ :=
  match d.command (host.files s) root scope linter with
  | .error e => (.error e, s)
  | .ok (spec, command) =>
    match host.launch command root s with
    | (.error e, s) => (.error (.executor linter scope e), s)
    | (.ok output, s) => (.ok (evaluate scope spec output), s)

/-- Runs linters on scopes in turn and adds their results to a report. -/
def walk {σ : Type} (d : Dispatcher) (host : Host σ) (root : SystemText) :
    List (Scope × String) → Report → σ → Except DispatchError Report × σ
  | [], report, s => (.ok report, s)
  | (scope, linter) :: rest, report, s =>
    match d.check host root scope linter s with
    | (.error e, s) => (.error e, s)
    | (.ok result, s) =>
      let report := report.record result
      if result.stops d.failFast then (.ok report, s) else d.walk host root rest report s

/-- The report on all scopes. The root is asked for only when there is something to run. -/
def run {σ : Type} (d : Dispatcher) (host : Host σ) (scopes : Scopes) (s : σ) :
    Except DispatchError Report × σ :=
  match d.pairs scopes with
  | [] => (.ok .clean, s)
  | pairs =>
    match host.root s with
    | (.error e, s) => (.error e, s)
    | (.ok root, s) =>
      match workingRoot (host.files s) root with
      | .error e => (.error e, s)
      | .ok root => d.walk host root pairs .clean s

end Dispatcher

end LintVerdict
