import LintVerdict.Files.Tree

/-!
# Starting programs

What programs do is not known here: it is a function of the files, the environment and the
request. A session keeps the files and the environment, and remembers what was started.

## Main definitions

* `Launch`: a request to start a program.
* `Programs`: what programs do when they are started.
* `Session.launch`: starts a program in a session.
* `Session.findProgram?`: the file of a program.
-/

namespace LintVerdict

/-- A request to start a program. -/
structure Launch where
  /-- The path of its file, or a name that is looked up on the search path. -/
  program : SystemText
  /-- The arguments. -/
  args : List String
  /-- The directory to start in, if it is not the current one. -/
  dir : Option SystemText
  /-- The milliseconds that it may take, zero for no limit. -/
  limit : Nat
  deriving DecidableEq, Repr

/-- How a started program ended. -/
inductive Ending where
  /-- It finished, with an exit code or by a signal. -/
  | finished (stdout stderr : ByteArray) (exitCode : Option Int)
  /-- It took longer than it may. -/
  | overran
  /-- It could not be waited for or listened to. -/
  | lost (reason : String)

/-- What a program finds when it starts. -/
structure Surroundings where
  /-- The files, with the current directory. -/
  files : Files
  /-- The environment. -/
  env : List (SystemText × SystemText)

/-- What programs do: how a started one ends, or why it cannot start, and the files after it. -/
abbrev Programs := Surroundings → Launch → Except SystemError Ending × Files

/-- The state of the machine while the tool runs. -/
structure Session where
  /-- The files, with the current directory. -/
  files : Files
  /-- The environment. -/
  env : List (SystemText × SystemText)
  /-- Whether the standard output is a terminal. -/
  terminal : Bool
  /-- What was started so far, in order. -/
  started : List Launch

namespace Session

/-- The value of a variable. -/
def setting? (s : Session) (name : SystemText) : Option SystemText :=
  (s.env.find? fun v => v.1 = name).map (·.2)

/-- Starts a program. -/
def launch (s : Session) (programs : Programs) (l : Launch) : Except SystemError Ending × Session :=
  let (ending, files) := programs ⟨s.files, s.env⟩ l
  (ending, { s with files, started := s.started ++ [l] })

/-- The path of a name of several parts, read from the current directory. -/
def pathFromHere (files : Files) (name : SystemText) : SystemText :=
  if FilePath.isAbsolute name then name
  else ((FilePath.Pieces.ofPath name).names.map String.ofList).foldl FilePath.join files.here

/-- Whether a name has several parts, so that it is a path and not looked up. -/
def hasSeveralParts (name : SystemText) : Bool :=
  let p := FilePath.Pieces.ofPath name
  1 < (if p.start = .plain then 0 else 1) + p.names.length

/-- The home directory of the user. -/
def home? (s : Session) : Option SystemText := (s.setting? "HOME").filter fun home => !home.isEmpty

/-- A directory of the search path. A tilde at its start stands for the home directory. -/
def searched (s : Session) (dir : SystemText) : SystemText :=
  let p := FilePath.Pieces.ofPath dir
  match p.start, p.names, s.home? with
  | .plain, ['~'] :: rest, some home => (rest.map String.ofList).foldl FilePath.join home
  | _, _, _ => dir

/-- The files where a program may be, in the order of preference. -/
def candidates (s : Session) (program : String) : List SystemText :=
  let name := Text.encoded program
  if hasSeveralParts name then [pathFromHere s.files name]
  else
    match s.setting? "PATH" with
    | none => []
    | some path => (Text.splitAt ':' path).map fun dir => FilePath.join (s.searched dir) name

/-- The file of a program: the first candidate that may be run. -/
def findProgram? (s : Session) (name : String) : Option SystemText :=
  (s.candidates name).find? s.files.isProgram

end Session

end LintVerdict
