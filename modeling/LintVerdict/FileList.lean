import LintVerdict.Files.Tree
import LintVerdict.Scope

/-!
# Lists of changed files

## Main definitions

* `ScopeError`: why there is no list.
* `readFileList`: the files that a list on disk names.
-/

namespace LintVerdict

/-- Why the files to check cannot be told. -/
inductive ScopeError where
  /-- The file list cannot be read. -/
  | readList (path : String) (reason : SystemError)
  /-- The directory cannot be walked through. -/
  | walk (path : String) (reason : String)
  deriving DecidableEq, Repr

namespace ScopeError

/-- Why, without what was to be done. -/
def reason : ScopeError → String
  | readList _ reason => reason.message
  | walk _ reason => reason

/-- The message of a scope error. -/
def message : ScopeError → String
  | readList path reason => "failed to read file list " ++ path ++ ": " ++ reason.message
  | walk path reason => "failed to walk " ++ path ++ ": " ++ reason

end ScopeError

/-- The files that a list on disk names. -/
def readFileList (files : Files) (path : SystemText) : Except ScopeError (List String) :=
  match files.readText path with
  | .error e => .error (.readList (Text.decoded path) e)
  | .ok content => .ok (listedFiles content)

end LintVerdict
