import LintVerdict.Linter.Registry
import LintVerdict.Process.Session
import LintVerdict.Text.Bytes

/-!
# Missing linters

Every program that linters need is looked up, and what is missing is reported or installed.

## Main definitions

* `InstallMode`: what to do about a missing program.
* `DependencyStatus`: what became of a program.
* `checkDependencies`: the status of every program, or the first that cannot be had.
-/

namespace LintVerdict

/-- Why a program cannot be had. -/
inductive InstallError where
  /-- The linters are faulty. -/
  | registry (fault : RegistryError)
  /-- The program is missing and nothing tells where it is from. -/
  | noSource (linter program : String)
  /-- The program is missing. -/
  | missing (linter program : String)
  /-- The program that installs is missing itself. -/
  | goNotFound (source : String)
  /-- The installation failed. -/
  | installFailed (source reason : String)
  /-- The program is missing after its installation. -/
  | stillMissing (source program : String)
  deriving DecidableEq, Repr

/-- The message of an install error. -/
def InstallError.message : InstallError → String
  | registry fault => fault.message
  | noSource linter program =>
    "'" ++ program ++ "' (linter '" ++ linter ++ "') is not installed and has no install source"
  | missing linter program =>
    "'" ++ program ++ "' (linter '" ++ linter ++
      "') is not installed; run \x60codenanny install\x60"
  | goNotFound source =>
    "the go toolchain is required to install '" ++ source ++ "' but was not found in PATH"
  | installFailed source reason => "\x60go install " ++ source ++ "\x60 failed: " ++ reason
  | stillMissing source program =>
    "after installing " ++ source ++ ", '" ++ program ++ "' still can't be found in PATH"

/-- What to do about a missing program. -/
inductive InstallMode where
  /-- It is an error. -/
  | check
  /-- Tell what would be installed. -/
  | dryRun
  /-- Install it. -/
  | install
  deriving DecidableEq, Repr

/-- What became of a program. -/
inductive DependencyStatus where
  /-- It was there. -/
  | present (program : String) (path : SystemText)
  /-- It would be installed. -/
  | wouldInstall (program source : String)
  /-- It was installed. -/
  | installed (program : String) (path : SystemText)
  deriving DecidableEq, Repr

/-- The program of a status. -/
def DependencyStatus.program : DependencyStatus → String
  | present p _ => p
  | wouldInstall p _ => p
  | installed p _ => p

/-- What the ending of an installation says. -/
def installAnswer (source : String) : Except SystemError Ending → Except InstallError Unit
  | .error e => .error (.installFailed source e.message)
  | .ok .overran => .error (.installFailed source "it did not end")
  | .ok (.lost reason) => .error (.installFailed source reason)
  | .ok (.finished _ stderr code) =>
    if code = some 0 then .ok () else .error (.installFailed source (Text.trim (Text.lossy stderr)))

/-- Installs a program and looks it up again. -/
def installProgram (programs : Programs) (program source : String) (s : Session) :
    Except InstallError SystemText × Session :=
  match s.findProgram? "go" with
  | none => (.error (.goNotFound source), s)
  | some go =>
    let (ending, s) := s.launch programs ⟨go, ["install", source], none, 0⟩
    match installAnswer source ending with
    | .error e => (.error e, s)
    | .ok _ =>
      match s.findProgram? program with
      | some path => (.ok path, s)
      | none => (.error (.stillMissing source program), s)

/-- The status of a program that is needed for a linter. -/
def dependency (programs : Programs) (mode : InstallMode) (spec : LinterSpec) (s : Session) :
    Except InstallError DependencyStatus × Session :=
  match s.findProgram? spec.program with
  | some path => (.ok (.present spec.program path), s)
  | none =>
    match spec.install with
    | none => (.error (.noSource spec.id spec.program), s)
    | some source =>
      match mode with
      | .check => (.error (.missing spec.id spec.program), s)
      | .dryRun => (.ok (.wouldInstall spec.program source), s)
      | .install =>
        match installProgram programs spec.program source s with
        | (.error e, s) => (.error e, s)
        | (.ok path, s) => (.ok (.installed spec.program path), s)

/-- The statuses of the programs of some linters, without those seen before. -/
def dependencies (programs : Programs) (r : Registry) (mode : InstallMode) :
    List String → List String → Session → Except InstallError (List DependencyStatus) × Session
  | [], _, s => (.ok [], s)
  | id :: ids, seen, s =>
    match r.lookup id with
    | .error e => (.error (.registry e), s)
    | .ok spec =>
      if seen.contains spec.program then dependencies programs r mode ids seen s
      else
        match dependency programs mode spec s with
        | (.error e, s) => (.error e, s)
        | (.ok status, s) =>
          match dependencies programs r mode ids (spec.program :: seen) s with
          | (.error e, s) => (.error e, s)
          | (.ok rest, s) => (.ok (status :: rest), s)

/-- The status of every program that the linters need, each one once, in the order in which
they are needed first. -/
def checkDependencies (programs : Programs) (r : Registry) (ids : List String) (mode : InstallMode)
    (s : Session) : Except InstallError (List DependencyStatus) × Session :=
  dependencies programs r mode ids [] s

end LintVerdict
