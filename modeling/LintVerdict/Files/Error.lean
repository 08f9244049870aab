/-!
# Errors of the file system

## Main definitions

* `SystemError`: why the system refuses a request.
* `SystemError.message`: the text with the error number.
-/

namespace LintVerdict

/-- Why the system refuses a request. -/
inductive SystemError where
  /-- A name does not exist. -/
  | notFound
  /-- The file is no program. -/
  | noProgram
  /-- The file may not be used so. -/
  | denied
  /-- The name is taken. -/
  | alreadyThere
  /-- A part of the path is no directory. -/
  | notDirectory
  /-- The path is a directory. -/
  | isDirectory
  /-- A name or path is too long. -/
  | nameTooLong
  /-- The directory holds something. -/
  | notEmpty
  /-- Symbolic links lead on and on. -/
  | linkLoop
  /-- The path holds a zero byte. -/
  | zeroInPath
  /-- An argument holds a zero byte. -/
  | zeroInArgument
  /-- The content is no UTF-8 text. -/
  | notUtf8
  deriving DecidableEq, Repr

namespace SystemError

/-- The wording of an error. -/
def wording : SystemError → String
  | notFound => "No such file or directory"
  | noProgram => "Exec format error"
  | denied => "Permission denied"
  | alreadyThere => "File exists"
  | notDirectory => "Not a directory"
  | isDirectory => "Is a directory"
  | nameTooLong => "File name too long"
  | notEmpty => "Directory not empty"
  | linkLoop => "Too many levels of symbolic links"
  | zeroInPath => "file name contained an unexpected NUL byte"
  | zeroInArgument => "nul byte found in provided data"
  | notUtf8 => "stream did not contain valid UTF-8"

/-- The number of an error that comes from the system. -/
def number? : SystemError → Option Nat
  | notFound => some 2
  | noProgram => some 8
  | denied => some 13
  | alreadyThere => some 17
  | notDirectory => some 20
  | isDirectory => some 21
  | nameTooLong => some 36
  | notEmpty => some 39
  | linkLoop => some 40
  | _ => none

/-- The message of an error: its wording, with its number if it has one. -/
def message (e : SystemError) : String :=
  match e.number? with
  | some n => e.wording ++ " (os error " ++ toString n ++ ")"
  | none => e.wording

end SystemError

end LintVerdict
