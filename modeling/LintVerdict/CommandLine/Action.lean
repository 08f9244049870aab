import LintVerdict.CommandLine.Failure
import LintVerdict.CommandLine.Request
import LintVerdict.ExitStatus
import LintVerdict.Ignore.Walk
import LintVerdict.Process.Executor
import LintVerdict.Process.GitRoot

/-!
# Carrying out a command line

What the tool prints, and with which status it ends, is a function of the command line, the
session, and what programs do. The lines that it writes to the standard error output while it works,
when it is asked to be verbose, are left out: they tell what is done and change nothing of it.

## Main definitions

* `Outcome`: exit code and printed texts.
* `lintFiles`, `installLinters`, `listLinters`: the tasks.
* `carryOut`: the outcome of a command line.
-/

namespace LintVerdict.CommandLine

/-- What a run of the tool leaves. -/
structure Outcome where
  /-- The exit code. -/
  exitCode : Nat
  /-- The text on the standard output. -/
  stdout : String
  /-- The text on the standard error output, without the lines that only a verbose run writes. -/
  stderr : String
  deriving DecidableEq, Repr

/-- A step of the tool. It may fail, and it may change the session. -/
abbrev Action := EStateM Failure Session

/-- A step that does not change the session. -/
def Action.ofExcept {ε α : Type} (failure : ε → Failure) : Except ε α → Action α
  | .ok a => pure a
  | .error e => throw (failure e)

/-- A step that changes the session. -/
def Action.ofStep {ε α : Type} (failure : ε → Failure) (step : Session → Except ε α × Session) :
    Action α := fun s =>
  match step s with
  | (.ok a, s) => .ok a s
  | (.error e, s) => .error (failure e) s

/-- A text as a line, or nothing for an empty text. -/
def lineOf (text : String) : String := if text.isEmpty then "" else text ++ "\n"

/-- Whether a variable says yes: anything but a zero does. One that is no text says nothing. -/
def says? (s : Session) (name : SystemText) : Option Bool :=
  ((s.setting? name).bind Text.decoded?).map fun v => v ≠ "0"

/-- Whether styled text is coloured: a variable demands or forbids it, or the standard output is a
terminal. -/
def colored (s : Session) : Bool :=
  if says? s "CLICOLOR_FORCE" = some true then true
  else if (says? s "NO_COLOR").isSome then false
  else s.terminal && (says? s "CLICOLOR").getD true

/-- The ids between commas, blanks around them dropped. -/
def splitIds (text : String) : List String :=
  ((Text.splitAt ',' text).map Text.trim).filter fun id => !id.isEmpty

/-- The configuration with what the command line says otherwise. -/
def Settings.override (o : Settings) (c : Config) : Config :=
  { c with
    packageLinters := (o.packageLinters.map splitIds).getD c.packageLinters
    dirLinters := (o.dirLinters.map splitIds).getD c.dirLinters
    failFast := c.failFast && !o.noFailFast
    timeout := o.timeout.getD c.timeout }

/-- The configuration of a run. -/
def configOf (o : Settings) : Action Config := do
  let s ← get
  let (c, _) ← Action.ofExcept .config (Config.load s.files o.config s.files.here)
  return o.override c

/-!
### Linting
-/

/-- The root of the repository: the given one, or the one that git tells. -/
def findRoot (programs : Programs) (o : Settings) (s : Session) :
    Except DispatchError SystemText × Session :=
  match o.root with
  | some root => (.ok root, s)
  | none => gitRoot programs none s

/-- A file's path below the root, as it is shown. A file outside the root, or one that does not lead
there, keeps its path. -/
def relativeToRoot (files : Files) (root : SystemText) (file : String) : String :=
  let path := FilePath.join files.here (Text.encoded file)
  let path := (files.canonical path).toOption.getD path
  ((FilePath.below? root path).map Text.decoded).getD file

/-- The scopes of files. The root is asked for only when there are files. -/
def scopesOf (programs : Programs) (o : Settings) (paths : List String) : Action Scopes :=
  if paths.isEmpty then pure (Scopes.ofFiles [])
  else do
    let root ← Action.ofStep .dispatch (findRoot programs o)
    let files := (← get).files
    let root := (files.canonical root).toOption.getD root
    return Scopes.ofFiles (paths.map (relativeToRoot files root))

/-- The surroundings of a run: an executor that remembers programs, and the session. -/
def hostOf (programs : Programs) (o : Settings) : Host (Executor × Session) where
  files := fun (_, s) => s.files
  root := fun (x, s) =>
    let (root, s) := findRoot programs o s
    (root, x, s)
  launch := fun c dir (x, s) => x.run programs c dir s

/-- Lints files. -/
def lintFiles (programs : Programs) (o : Settings) (c : Config) (r : Registry)
    (paths : List String) : Action Outcome := do
  let format ← match OutputFormat.ofName? o.outputFormat with
    | some f => pure f
    | none => throw (.format o.outputFormat)
  let a := c.applicability
  if o.install then
    let _ ← Action.ofStep .install (checkDependencies programs r a.allIds .install)
  let d ← Action.ofExcept .dispatch (Dispatcher.make r a c.options c.failFast)
  let scopes ← scopesOf programs o paths
  let report ← Action.ofStep .dispatch fun s =>
    let (report, _, s) := d.run (hostOf programs o) scopes (.new c.timeout, s)
    (report, s)
  let s ← get
  let formatter : Formatter := ⟨format, s.terminal && colored s⟩
  let status : ExitStatus := if report.isOk then .success else .violations
  let summary := if o.quiet then none else formatter.summary? report
  return ⟨status.code, lineOf (formatter.report report), (summary.map (· ++ "\n")).getD ""⟩

/-!
### The other tasks
-/

/-- The line about a program. -/
def statusLine : DependencyStatus → String
  | .present program path => program ++ ": found at " ++ Text.decoded path ++ "\n"
  | .wouldInstall program source => program ++ ": would run \x60go install " ++ source ++ "\x60\n"
  | .installed program path => program ++ ": installed to " ++ Text.decoded path ++ "\n"

/-- Installs missing linters, or tells what would be installed. -/
def installLinters (programs : Programs) (c : Config) (r : Registry) (dryRun : Bool) :
    Action Outcome := do
  let mode : InstallMode := if dryRun then .dryRun else .install
  let statuses ← Action.ofStep .install (checkDependencies programs r c.applicability.allIds mode)
  return ⟨ExitStatus.success.code, Text.joinWith "" (statuses.map statusLine), ""⟩

/-- Where a linter runs, in brackets. -/
def markers (c : Config) (id : String) : String :=
  let words := (if c.packageLinters.contains id then ["package"] else []) ++
    (if c.dirLinters.contains id then ["dir"] else [])
  if words.isEmpty then "" else " [" ++ Text.joinWith ", " words ++ "]"

/-- The word for a target style in the list of linters. -/
def targetWord : TargetStyle → String
  | .path => "Path"
  | .goFiles => "GoFiles"

/-- The lines about a linter. -/
def linterLines (c : Config) (verbose colors : Bool) (spec : LinterSpec) : String :=
  let marks := markers c spec.id
  let paint (style : Style) (text : String) : String := if colors then style.paint text else text
  paint .strong spec.id ++ (if marks.isEmpty then "" else paint .marker marks) ++ ": " ++
    spec.template.display ++ "\n" ++
    if verbose then
      "    target: " ++ targetWord spec.target ++ ", pattern: " ++ spec.pattern.source ++ "\n"
    else ""

/-- Lists the known linters. -/
def listLinters (o : Settings) (c : Config) (r : Registry) : Action Outcome := do
  let colors := colored (← get)
  let specs := r.ids.filterMap r.get?
  return ⟨ExitStatus.success.code,
    Text.joinWith "" (specs.map (linterLines c o.verbose colors)), ""⟩

/-- Carries out a request. -/
def Request.perform (programs : Programs) (q : Request) : Action Outcome := do
  let c ← configOf q.settings
  let r ← Action.ofExcept .definitions c.registry
  let s ← get
  match q.task with
  | .listLinters => listLinters q.settings c r
  | .install dryRun => installLinters programs c r dryRun
  | .lintListed list =>
    lintFiles programs q.settings c r (← Action.ofExcept .scope (readFileList s.files list))
  | .lintFiles paths => lintFiles programs q.settings c r paths
  | .lintDir path =>
    let listed := listDir s.files (RuleSet.global s) path
    lintFiles programs q.settings c r (← Action.ofExcept .scope listed)

/-!
### The whole tool
-/

/-- How the tool is used. -/
def usage : String :=
  "Usage: codenanny [OPTIONS] <COMMAND>\n\nCommands:\n" ++
    Text.joinWith "" (Subcommand.all.map fun c => "  " ++ c.name ++ "\n") ++
    "\nOptions:\n" ++ Text.joinWith "" ((Opt.known none).map fun o => "  --" ++ o.long ++ "\n")

/-- The version of the tool. -/
def version : String := "codenanny 0.1.0"

/-- The outcome when there is nothing to do. -/
def Stop.outcome : Stop → Outcome
  | usage e => ⟨ExitStatus.toolError.code, "", e.message ++ "\n"⟩
  | version => ⟨ExitStatus.success.code, CommandLine.version ++ "\n", ""⟩
  | help => ⟨ExitStatus.success.code, CommandLine.usage, ""⟩
  | nothing => ⟨ExitStatus.toolError.code, "", CommandLine.usage⟩

/-- The outcome of a command line, with the session after it. -/
def carryOut (programs : Programs) (args : List String) (s : Session) : Outcome × Session :=
  match Request.ofArgs args with
  | .error stop => (stop.outcome, s)
  | .ok q =>
    match q.perform programs s with
    | .ok outcome s => (outcome, s)
    | .error e s => (⟨ExitStatus.toolError.code, "", e.line (colored s) ++ "\n"⟩, s)

end LintVerdict.CommandLine
