import LintVerdict.Files.Tree
import LintVerdict.Linter.Definition
import LintVerdict.Scope

/-!
# Targets

The arguments that tell a linter what to check: the directory of the scope, or the Go files
right in it.

## Main definitions

* `goFilesIn`: the Go files of a directory, in ascending order.
* `TargetStyle.args`: the arguments for a scope.
-/

namespace LintVerdict

/-- Whether a name is a Go file's: something, then `.go`. -/
def isGoName (name : SystemText) : Bool := FilePath.isGo name.toList && name ≠ ".go"

/-- The names of the Go files right in a directory, in ascending order. Names that are not UTF-8
are left out. A directory that does not exist has none. -/
def goFilesIn (files : Files) (dir : SystemText) : Except SystemError (List String) :=
  match files.names dir with
  | .error .notFound => .ok []
  | .error e => .error e
  | .ok names =>
    let go := names.filter fun n => files.isFile (FilePath.join dir n) && isGoName n
    .ok ((go.filterMap Text.decoded?).mergeSort fun a b => decide (a ≤ b))

/-- The arguments that name a scope, for a linter that runs in `root`. A directory without Go
files, and one that does not exist, is named itself. -/
def TargetStyle.args (style : TargetStyle) (files : Files) (root : SystemText) (scope : Scope) :
    Except TemplateError (List String) :=
  match style with
  | path => .ok [scope.arg]
  | goFiles =>
    match goFilesIn files (FilePath.join root (Text.encoded scope.path)) with
    | .error e => .error (.target scope.path e.message)
    | .ok [] => .ok [scope.arg]
    | .ok names =>
      .ok (names.map fun n => if scope.path = "." then n else scope.path ++ "/" ++ n)

end LintVerdict
