import LintVerdict.Execution
import LintVerdict.Process.Session
import LintVerdict.Text.Bytes

/-!
# Running linters

An executor finds programs and runs them. It remembers where it found them.

## Main definitions

* `Executor.locate`: the file of a program, looked up once.
* `Executor.run`: runs a command to its end.
-/

namespace LintVerdict

/-- An executor. -/
structure Executor where
  /-- The milliseconds that a command may take, zero for no limit. -/
  timeout : Nat
  /-- The programs found so far with their files. -/
  located : List (String × SystemText)
  deriving DecidableEq, Repr

/-- Both outputs of a command as one text. Where the first does not end its last line, a line
feed does. -/
def combine (stdout stderr : String) : String :=
  if stderr.isEmpty then stdout
  else if stdout.isEmpty || stdout.toList.getLast? = some '\n' then stdout ++ stderr
  else stdout ++ "\n" ++ stderr

namespace Executor

/-- An executor that has found nothing yet. -/
def new (timeout : Nat) : Executor := ⟨timeout, []⟩

/-- Where a program was found. -/
def remembered? (x : Executor) (program : String) : Option SystemText :=
  (x.located.find? fun l => l.1 = program).map (·.2)

/-- The file of a program. What was found once is not looked up again. -/
def locate (x : Executor) (s : Session) (program : String) :
    Except ExecutorError SystemText × Executor :=
  match x.remembered? program with
  | some path => (.ok path, x)
  | none =>
    match s.findProgram? program with
    | some path => (.ok path, { x with located := x.located ++ [(program, path)] })
    | none => (.error (.notInstalled program), x)

/-- What the ending of a command says. -/
def result (x : Executor) (program : String) :
    Except SystemError Ending → Except ExecutorError ProcessOutput
  | .error e => .error (.spawn program e.message)
  | .ok .overran => .error (.timeout program x.timeout)
  | .ok (.lost reason) => .error (.io program reason)
  | .ok (.finished stdout stderr code) =>
    .ok ⟨combine (Text.lossy stdout) (Text.lossy stderr), code⟩

/-- Runs a command in a directory. -/
def run (x : Executor) (programs : Programs) (c : Command) (dir : SystemText)
    (s : Session) : Except ExecutorError ProcessOutput × Executor × Session :=
  match x.locate s c.program with
  | (.error e, x) => (.error e, x, s)
  | (.ok path, x) =>
    let (ending, s) := s.launch programs ⟨path, c.args, some dir, x.timeout⟩
    (x.result c.program ending, x, s)

end Executor

end LintVerdict
