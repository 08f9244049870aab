import LintVerdict.Dispatch
import LintVerdict.Process.Session
import LintVerdict.Text.Bytes

/-!
# The root of a repository

## Main definitions

* `gitRoot`: the top-level directory that git tells.
-/

namespace LintVerdict

/-- What git says about the root. -/
def gitAnswer : Except SystemError Ending → Except DispatchError SystemText
  | .error e => .error (.rootResolution ("failed to run git: " ++ e.message))
  | .ok .overran => .error (.rootResolution "failed to run git: it did not end")
  | .ok (.lost reason) => .error (.rootResolution ("failed to run git: " ++ reason))
  | .ok (.finished stdout stderr code) =>
    if code = some 0 then
      let root := Text.trim (Text.lossy stdout)
      if root.isEmpty then .error (.rootResolution "git printed no top-level directory")
      else .ok (Text.encoded root)
    else .error (.rootResolution (Text.trim (Text.lossy stderr)))

/-- The request that asks git for the root, from a directory or from the current one. -/
def gitLaunch (start : Option SystemText) : Launch :=
  ⟨"git", ["rev-parse", "--show-toplevel"], start, 0⟩

/-- The top-level directory of the repository that a directory is in. -/
def gitRoot (programs : Programs) (start : Option SystemText) (s : Session) :
    Except DispatchError SystemText × Session :=
  let (ending, s) := s.launch programs (gitLaunch start)
  (gitAnswer ending, s)

end LintVerdict
