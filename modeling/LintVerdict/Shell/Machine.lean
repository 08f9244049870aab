import LintVerdict.Process.Session
import LintVerdict.Shell.Run

/-!
# A machine that runs scripts

The programs of this machine are scripts and a few small utilities. What a program does is a
function of the files, the environment and the arguments, and time passes only where a program
waits.

## Main definitions

* `systemTree`: the files that hold the utilities.
* `machine`: what programs do on this machine.
-/

namespace LintVerdict.Shell

/-- How deep the calls of one program may go. -/
def callBudget : Nat := 20000

/-- The file of a utility. -/
def utilityFile (name : String) : Node :=
  .file (Text.ofByteChars utilityMark ++ name.toUTF8) true

/-- The top directories of the machine. -/
def systemTree : List (SystemText × Node) :=
  [("usr", .dir
      [("bin", .dir (utilityNames.map fun n => (n, utilityFile n))),
        ("local", .dir [("bin", .dir [])])]),
    ("bin", .link "usr/bin"),
    ("dev", .dir [("null", .file ByteArray.empty false)])]

/-- The search path of programs that are started without one. -/
def defaultSearchPath : SystemText := "/bin:/usr/bin"

/-- The state in which a program starts. -/
def initialState (files : Files) (env : List (SystemText × SystemText)) (limit : Nat) : State where
  files := files
  vars := env.map fun (n, v) => ⟨n.toList, v.toList, true⟩
  self := []
  args := []
  commands := []
  status := 0
  streams := [(0, .nowhere), (1, .sink 0), (2, .sink 1)]
  sinks := #[ByteArray.empty, ByteArray.empty]
  sources := #[]
  elapsed := 0
  deadline := if limit = 0 then none else some limit
  lines := 0
  strict := false
  atExit := none
  process := 4711

/-- Runs a utility or shell as the first process. A signal ends it, and the run. -/
def runFirst (utility : List Char) (args : List (List Char)) : Run Unit :=
  match String.ofList utility with
  | "sh" => runShell callBudget args
  | "dash" => runShell callBudget args
  | "bash" => runShell callBudget args
  | "env" => runEnv callBudget args
  | _ => runUtility callBudget utility utility args

/-- How a run ended. -/
def endingOf : EStateM.Result Flow State Unit → Ending
  | .ok _ s => finished s (some s.status)
  | .error .late s => if s.deadline.isSome then .overran else .lost "the program does not end"
  | .error (.killed _) s => finished s none
  | .error _ s => finished s (some s.status)
where
  /-- The ending with what was printed. -/
  finished (s : State) (code : Option Nat) : Ending :=
    .finished ((s.sinks[0]?).getD ByteArray.empty) ((s.sinks[1]?).getD ByteArray.empty)
      (code.map Int.ofNat)

/-- The files after a run, seen from where they were seen before. -/
def filesAfter (before : Files) : EStateM.Result Flow State Unit → Files
  | .ok _ s => s.files.inDir before.cwd
  | .error _ s => s.files.inDir before.cwd

/-- The first file of a name on a search path that can be started, or why there is none. A file
that may not be run is passed over, and tells why if no other one is found. -/
def searchProgram (files : Files) (args : List (List Char)) :
    List SystemText → SystemError → Except SystemError (List Char × List (List Char))
  | [], e => .error e
  | path :: rest, e =>
    match resolveProgram files 6 path.toList args with
    | .error .notFound => searchProgram files args rest e
    | .error .notDirectory => searchProgram files args rest e
    | .error .denied => searchProgram files args rest .denied
    | r => r

/-- The utility that runs for a request, with its arguments. -/
def startedBy (files : Files) (env : List (SystemText × SystemText)) (l : Launch) :
    Except SystemError (List Char × List (List Char)) :=
  let args := l.args.map fun a => (Text.encoded a).toList
  if l.program.contains '/' then resolveProgram files 6 l.program.toList args
  else
    let path := ((env.find? fun v => v.1 = "PATH").map (·.2)).getD defaultSearchPath
    searchProgram files args
      ((Text.splitAt ':' path).map fun dir =>
        if dir.isEmpty then l.program else dir ++ "/" ++ l.program)
      .notFound

/-- The files seen from the directory in which a program is to start. -/
def enterDir (files : Files) (dir : Option SystemText) : Except SystemError Files :=
  match dir with
  | none => .ok files
  | some d => do
    match ← files.node d with
    | .dir _ => return files.inDir (← files.place d true)
    | _ => .error .notDirectory

/-- What programs do on this machine. -/
def machine : Programs := fun surroundings l =>
  if (l.program :: l.dir.toList ++ l.args).any fun t => t.contains '\x00' then
    (.error .zeroInArgument, surroundings.files)
  else
    match enterDir surroundings.files l.dir with
    | .error e => (.error e, surroundings.files)
    | .ok files =>
      match startedBy files surroundings.env l with
      | .error e => (.error e, surroundings.files)
      | .ok (utility, args) =>
        let start := (initialState files surroundings.env l.limit).forProgram
          l.program.toList
        let result := runFirst utility args start
        (.ok (endingOf result), filesAfter surroundings.files result)

end LintVerdict.Shell
