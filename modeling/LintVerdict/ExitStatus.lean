/-!
# Exit statuses

## Main definitions

* `ExitStatus`: what the program tells its caller.
-/

namespace LintVerdict

/-- What the program tells its caller when it ends. -/
inductive ExitStatus where
  /-- Nothing was found. -/
  | success
  /-- Some linter failed. -/
  | violations
  /-- The program could not do its work. -/
  | toolError
  deriving DecidableEq, Repr

namespace ExitStatus

/-- All statuses, by their codes. -/
def all : List ExitStatus := [success, violations, toolError]

/-- The code of a status. -/
def code : ExitStatus → Nat
  | success => 0
  | violations => 1
  | toolError => 2

end ExitStatus

end LintVerdict
