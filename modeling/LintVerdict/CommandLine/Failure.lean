import LintVerdict.Config
import LintVerdict.Dispatch
import LintVerdict.FileList
import LintVerdict.Process.Install
import LintVerdict.Report.Format

/-!
# Failures of the tool

A failure is told with its causes, from the outermost to the innermost. A message often holds
that of its cause already; it is told again.

## Main definitions

* `Failure`: why the tool could not do its work.
* `Failure.causes`: the messages of a failure and what is behind it.
* `Failure.line`: the line that the tool prints.
-/

namespace LintVerdict

/-- The messages of a template error and what is behind it. -/
def TemplateError.causes (e : TemplateError) : List String :=
  match e with
  | .target _ reason => [e.message, reason]
  | _ => [e.message]

/-- The messages of a pattern error and what is behind it. -/
def PatternError.causes (e : PatternError) : List String :=
  match e with
  | .invalid _ reason => [e.message, reason]
  | _ => [e.message]

/-- The messages of a registry error and what is behind it. -/
def RegistryError.causes (e : RegistryError) : List String :=
  match e with
  | .template _ fault => e.message :: fault.causes
  | .pattern _ fault => e.message :: fault.causes
  | _ => [e.message]

/-- The messages of an execution error and what is behind it. -/
def ExecutorError.causes (e : ExecutorError) : List String := e.message :: e.reason?.toList

/-- The messages of a dispatch error and what is behind it. A faulty registry speaks for
itself. -/
def DispatchError.causes (e : DispatchError) : List String :=
  match e with
  | .registry fault => fault.causes
  | .template _ fault => e.message :: fault.causes
  | .executor _ _ fault => e.message :: fault.causes
  | _ => [e.message]

/-- The messages of an install error and what is behind it. A faulty registry speaks for
itself. -/
def InstallError.causes (e : InstallError) : List String :=
  match e with
  | .registry fault => fault.causes
  | _ => [e.message]

/-- The messages of a configuration error and what is behind it. -/
def ConfigError.causes (e : ConfigError) : List String :=
  match e with
  | .unreadable _ reason => [e.message, reason.message]
  | _ => [e.message]

/-- Why the tool could not do its work. -/
inductive Failure where
  /-- There is no configuration. -/
  | config (e : ConfigError)
  /-- The declared linters are faulty. -/
  | definitions (e : RegistryError)
  /-- There is no such output format. -/
  | format (name : String)
  /-- The files to lint cannot be told. -/
  | scope (e : ScopeError)
  /-- A linter cannot be had. -/
  | install (e : InstallError)
  /-- The run could not begin or go on. -/
  | dispatch (e : DispatchError)
  deriving DecidableEq, Repr

namespace Failure

/-- The messages of a failure and what is behind it. -/
def causes : Failure → List String
  | config e => e.causes
  | definitions e => "Invalid linter definitions" :: e.causes
  | format name => [unknownFormatMessage name]
  | scope e => [e.message, e.reason]
  | install e => e.causes
  | dispatch e => e.causes

/-- The word for who has to act. -/
def label : Failure → String
  | dispatch e =>
    match e.kind with
    | .configuration => "Configuration error"
    | .environment => "Environment error"
  | _ => "Error"

/-- The line that the tool prints. -/
def line (e : Failure) (colors : Bool) : String :=
  (if colors then Style.bad.paint e.label else e.label) ++ ": " ++ Text.joinWith ": " e.causes

end Failure

end LintVerdict
