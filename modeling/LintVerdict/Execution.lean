import LintVerdict.Template

/-!
# The execution of a command

## Main definitions

* `ProcessOutput`: what a finished command left.
* `ExecutorError`: why a command could not be run to its end.
-/

namespace LintVerdict

/-- What a finished command left. -/
structure ProcessOutput where
  /-- Everything it printed. -/
  output : String
  /-- The exit code, absent when a signal ended it. -/
  exitCode : Option Int
  deriving DecidableEq, Repr

/-- Whether a command ended with exit code zero. -/
def ProcessOutput.succeeded (o : ProcessOutput) : Bool := o.exitCode = some 0

/-- Why a command could not be run to its end. -/
inductive ExecutorError where
  /-- The program is not on the search path. -/
  | notInstalled (program : String)
  /-- The program cannot be started. -/
  | spawn (program : String) (reason : String)
  /-- The program took too many milliseconds. -/
  | timeout (program : String) (limit : Nat)
  /-- The program cannot be waited for or listened to. -/
  | io (program : String) (reason : String)
  deriving DecidableEq, Repr

namespace ExecutorError

/-- The message of an execution error. -/
def message : ExecutorError → String
  | notInstalled program =>
    "linter executable '" ++ program ++
      "' not found in PATH; run \x60codenanny install\x60 first"
  | spawn program reason => "failed to start '" ++ program ++ "': " ++ reason
  | timeout program limit => "'" ++ program ++ "' timed out after " ++ toString limit ++ "ms"
  | io program reason => "I/O error while running '" ++ program ++ "': " ++ reason

/-- The reason behind an error, where it has one of its own. -/
def reason? : ExecutorError → Option String
  | spawn _ reason => some reason
  | _ => none

end ExecutorError

end LintVerdict
