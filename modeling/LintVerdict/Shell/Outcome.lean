import LintVerdict.Shell.Builtin
import LintVerdict.Shell.Field

/-!
# Running commands

A command changes the state of its shell, and may keep others from following it.

## Main definitions

* `Run`: what a command does.
* `attempt`, `inChild`, `asProcess`, `captured`: what becomes of the end of a command.
-/

namespace LintVerdict.Shell

/-- What a command does to the state of its shell. -/
abbrev Run := EStateM Flow State

/-- Sets the exit code. -/
def setStatus (status : Nat) : Run Unit := modify fun s => s.withStatus status

/-- Ends the shell with an exit code. -/
def leaveWith {α : Type} (status : Nat) : Run α := do
  setStatus status
  throw .leave

/-- Writes a complaint and sets the exit code. -/
def fail (below : Nat) (text : String) (status : Nat) : Run Unit :=
  modify fun s => (s.complain below text).withStatus status

/-- Ends the run if the time is over. -/
def checkTime : Run Unit := do
  if (← get).isLate then throw .late

/-- What keeps others from following a command, if anything does. -/
def attempt (x : Run Unit) : Run (Option Flow) := fun s =>
  match x s with
  | .ok _ t => .ok none t
  | .error f t => .ok (some f) t

/-- Runs with the open streams put back at the end. -/
def withStreams (x : Run Unit) : Run Unit := fun s =>
  match x s with
  | .ok _ t => .ok () { t with streams := s.streams }
  | .error f t => .error f { t with streams := s.streams }

/-- Runs without ending the shell at a failure. -/
def tested (x : Run Unit) : Run Unit := fun s =>
  match x { s with strict := false } with
  | .ok _ t => .ok () { t with strict := s.strict }
  | .error f t => .error f t

/-- Runs in a shell that begins as a copy of this one. A signal to this one ends both. -/
def inChild (x : Run Unit) : Run Unit := fun s =>
  match x { s with atExit := none } with
  | .ok _ t => .ok () (s.after t)
  | .error .late t => .error .late (s.after t)
  | .error (.killed n) t => .error (.killed n) (s.after t)
  | .error _ t => .ok () (s.after t)

/-- The text that is printed when a signal has ended a program. -/
def signalText : Nat → Option String
  | 1 => some "Hangup"
  | 3 => some "Quit"
  | 4 => some "Illegal instruction"
  | 6 => some "Aborted"
  | 8 => some "Floating point exception"
  | 9 => some "Killed"
  | 10 => some "User defined signal 1"
  | 11 => some "Segmentation fault"
  | 12 => some "User defined signal 2"
  | 14 => some "Alarm clock"
  | 15 => some "Terminated"
  | _ => none

/-- Runs as a program of its own, from a state that is made for it. -/
def asProcess (start : State → State) (x : Run Unit) : Run Unit := fun s =>
  match x (start s) with
  | .ok _ t => .ok () (s.after t)
  | .error .late t => .error .late (s.after t)
  | .error (.killed n) t =>
    let s := (s.after t).withStatus (128 + n)
    match signalText n with
    | some text => .ok () (s.write 2 (text ++ "\n").toList)
    | none => .ok () s
  | .error _ t => .ok () (s.after t)

/-- Runs in a shell of its own and collects what it prints. -/
def captured (x : Run Unit) : Run (List Char) := fun s =>
  let i := s.sinks.size
  let start := { s with sinks := s.sinks.push ByteArray.empty }
  match inChild x (start.redirect 1 (some (.sink i))) with
  | .ok _ t =>
    .ok (Text.byteChars ((t.sinks[i]?).getD ByteArray.empty))
      { t with sinks := t.sinks.take i, streams := s.streams }
  | .error f t => .error f { t with sinks := t.sinks.take i, streams := s.streams }

/-- The state with a stream that reads a text. -/
def feeding (s : State) (stream : Nat) (cs : List Char) : State :=
  { s with sources := s.sources.push cs }.redirect stream (some (.source s.sources.size))

/-- Runs with a text to read. -/
def fed (cs : List Char) (x : Run Unit) : Run Unit := withStreams fun s => x (feeding s 0 cs)

/-!
### Streams
-/

/-- The stream that a number names. -/
def streamOf? (cs : List Char) : Option Nat := if cs.isEmpty then none else inBase 10 cs

/-- Why a file cannot be opened. -/
def openFault (path : List Char) (reading : Bool) (e : SystemError) : String :=
  let why := match e with
    | .notFound => if reading then "No such file" else "Directory nonexistent"
    | .notDirectory => if reading then "No such file" else "Directory nonexistent"
    | e => e.wording
  (if reading then "cannot open " else "cannot create ") ++ String.ofList path ++ ": " ++ why

/-- The channel that leads to the device at a place, if one is there. -/
def State.device? (s : State) (path : List Char) : Option (Option Channel) :=
  match String.ofList path with
  | "/dev/null" => some (some .nowhere)
  | "/dev/stdin" => some (s.channel? 0)
  | "/dev/stdout" => some (s.channel? 1)
  | "/dev/stderr" => some (s.channel? 2)
  | _ => none

/-- The state with a stream redirected, or why it cannot be. -/
def State.opened (s : State) (stream : Nat) (direction : Direction) (target : List Char) :
    Except String State :=
  match direction with
  | .duplicate =>
    if target = ['-'] then .ok (s.redirect stream none)
    else
      match streamOf? target with
      | some n =>
        match s.channel? n with
        | some c => .ok (s.redirect stream (some c))
        | none => .error (String.ofList target ++ ": Bad file descriptor")
      | none => .error "Bad fd number"
  | .input =>
    match s.device? target with
    | some c => .ok (s.redirect stream c)
    | none =>
      match s.files.read (String.ofList target) with
      | .ok content => .ok (feeding s stream (Text.byteChars content))
      | .error .isDirectory => .ok (feeding s stream [])
      | .error e => .error (openFault target true e)
  | d =>
    match s.device? target with
    | some c => .ok (s.redirect stream c)
    | none =>
      let path := String.ofList target
      match s.files.write path (d = .append) ByteArray.empty with
      | .error e => .error (openFault target false e)
      | .ok files =>
        match files.place path true with
        | .ok place => .ok ({ s with files }.redirect stream (some (.file place)))
        | .error e => .error (openFault target false e)

/-!
### Commands of the shell itself
-/

/-- An absolute path without dots, from the texts of its names. -/
def tidyPath (cs : List Char) : List Char :=
  let names := (Text.splitChars '/' cs).foldl
    (fun acc n =>
      if n.isEmpty || n = ['.'] then acc
      else if n = ['.', '.'] then acc.drop 1
      else n :: acc)
    []
  '/' :: State.joined ['/'] names.reverse

/-- Goes to another directory. -/
def changeDir (below : Nat) (args : List (List Char)) : Run Unit := do
  let s ← get
  let here := (s.setting? "PWD".toList).getD s.files.here.toList
  let (target, shown) := match args with
    | [] => ((s.setting? "HOME".toList).getD [], false)
    | ['-'] :: _ => ((s.setting? "OLDPWD".toList).getD [], true)
    | ['-', 'P'] :: t :: _ => (t, false)
    | ['-', 'L'] :: t :: _ => (t, false)
    | ['-', '-'] :: t :: _ => (t, false)
    | t :: _ => (t, false)
  let next := tidyPath (if target.head? = some '/' then target else here ++ '/' :: target)
  let refusal := "cd: can't cd to " ++ String.ofList target
  match s.files.node (String.ofList next), s.files.place (String.ofList next) true with
  | .ok (.dir _), .ok place =>
    let s := { s with files := s.files.inDir place }
    let s := (s.assign "OLDPWD".toList here).assign "PWD".toList next
    set ((if shown then s.write 1 (next ++ ['\n']) else s).withStatus 0)
  | _, _ => fail below refusal 2

/-- The number of a signal by its name. -/
def signalNamed? (name : List Char) : Option Nat :=
  let name := if "SIG".toList.isPrefixOf name then name.drop 3 else name
  match String.ofList name with
  | "HUP" => some 1
  | "INT" => some 2
  | "QUIT" => some 3
  | "ILL" => some 4
  | "TRAP" => some 5
  | "ABRT" => some 6
  | "BUS" => some 7
  | "FPE" => some 8
  | "KILL" => some 9
  | "USR1" => some 10
  | "SEGV" => some 11
  | "USR2" => some 12
  | "PIPE" => some 13
  | "ALRM" => some 14
  | "TERM" => some 15
  | _ => streamOf? name

/-- Sends a signal: to the shell itself, or in vain. -/
def sendSignal (below : Nat) (args : List (List Char)) : Run Unit := do
  let (signal, targets) := match args with
    | ['-', 's'] :: name :: rest => (signalNamed? name, rest)
    | ['-', '-'] :: rest => (some 15, rest)
    | ('-' :: name) :: ['-', '-'] :: rest => (signalNamed? name, rest)
    | ('-' :: name) :: rest => (signalNamed? name, rest)
    | rest => (some 15, rest)
  let s ← get
  match signal with
  | none => fail below "kill: invalid signal number or name" 2
  | some n =>
    let self (t : List Char) : Bool :=
      t = ['0'] || t = State.digits s.process || t = '-' :: State.digits s.process
    if targets.any self then
      if n = 0 then setStatus 0 else throw (.killed n)
    else if targets.isEmpty then
      fail below "kill: Usage: kill [-s sigspec | -signum | -sigspec] [pid | job]... or\nkill -l [exitstatus]" 2
    else fail below "kill: No such process\n" 1

/-- The exit code that an argument asks for; without an argument that of the last command. -/
def exitCode (below : Nat) (name : String) (args : List (List Char)) : Run Nat := do
  match args with
  | [] => return (← get).status
  | a :: _ =>
    match (if a.all fun c => '0' ≤ c && c ≤ '9' then streamOf? a else none) with
    | some n => return n % 256
    | none => do
      fail below (name ++ ": Illegal number: " ++ String.ofList a) 2
      throw .leave

/-- Sets variables from words of the form `NAME=VALUE` or `NAME`. -/
def declare (change : State → List Char → State) (args : List (List Char)) : Run Unit := do
  modify fun s => args.foldl
    (fun s a =>
      let (name, value) := a.span (· ≠ '=')
      match value with
      | _ :: value => change (s.assign name value) name
      | [] => change s name)
    s
  setStatus 0

/-- Takes away the first arguments. -/
def shiftArgs (below : Nat) (args : List (List Char)) : Run Unit := do
  let s ← get
  let n := match args with
    | a :: _ => (streamOf? a).getD 1
    | [] => 1
  if s.args.length < n then do
    fail below "shift: can't shift that many" 2
    throw .leave
  else set ({ s with args := s.args.drop n }.withStatus 0)

/-- Sets options and arguments. -/
def setOptions : List (List Char) → Run Unit
  | [] => setStatus 0
  | ['-', '-'] :: rest => modify fun s => { s with args := rest }.withStatus 0
  | ['-', 'o'] :: _ :: rest => setOptions rest
  | ['+', 'o'] :: _ :: rest => setOptions rest
  | ('-' :: options) :: rest => do
    if options.contains 'e' then modify fun s => { s with strict := true }
    setOptions rest
  | ('+' :: options) :: rest => do
    if options.contains 'e' then modify fun s => { s with strict := false }
    setOptions rest
  | rest => modify fun s => { s with args := rest }.withStatus 0

/-- Leaves a command for the end of the shell. Signals are not caught. -/
def setTrap (args : List (List Char)) : Run Unit := do
  let isEnd (c : List Char) : Bool := c = "EXIT".toList || c = ['0']
  match args with
  | command :: conditions =>
    if conditions.any isEnd then
      modify fun s => { s with atExit := if command = ['-'] then none else some command }
    setStatus 0
  | [] => setStatus 0

/-- The characters of a line to read, with backslashes taken for what they quote. -/
def readChars (raw : Bool) : List Char → List Piece × List Char × Bool
  | [] => ([], [], false)
  | '\n' :: rest => ([], rest, true)
  | '\\' :: c :: rest =>
    if raw then
      let (ps, rest, found) := readChars raw (c :: rest)
      (.loose '\\' :: ps, rest, found)
    else
      let (ps, rest, found) := readChars raw rest
      (if c = '\n' then ps else .solid c :: ps, rest, found)
  | c :: rest =>
    let (ps, rest, found) := readChars raw rest
    (.loose c :: ps, rest, found)

/-- What separates fields. -/
def State.separators (s : State) : List Char := (s.setting? "IFS".toList).getD [' ', '\t', '\n']

/-- Whether a piece separates fields, as one of the blanks or at all. -/
def Piece.separates (separators : List Char) (onlyBlank : Bool) : Piece → Bool
  | .loose c => separators.contains c && (!onlyBlank || isSeparatingBlank c)
  | _ => false

/-- Values for names: a field each, and all that is left for the last one. -/
def assignFields (s : State) : List (List Char) → List Piece → State
  | [], _ => s
  | name :: names, ps =>
    let isBlank (p : Piece) : Bool := p.separates s.separators true
    let ps := ps.dropWhile isBlank
    match names with
    | [] => s.assign name (Piece.chars (ps.reverse.dropWhile isBlank).reverse)
    | _ :: _ =>
      let (field, rest) := ps.span fun p => !p.separates s.separators false
      let rest := if (rest.head?.any isBlank) then rest.dropWhile isBlank else rest.drop 1
      assignFields (s.assign name (Piece.chars field)) names rest

/-- Reads a line into variables. -/
def readVariables (args : List (List Char)) : Run Unit := do
  let raw := args.head? = some ['-', 'r']
  let names := if raw then args.tail else args
  let s ← get
  let (pieces, rest, found) := readChars raw (s.pending 0)
  set ((assignFields (s.consumed 0 rest) names pieces).withStatus (if found then 0 else 1))

end LintVerdict.Shell
