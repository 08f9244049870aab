import LintVerdict.Files.Change
import LintVerdict.Shell.Fit
import LintVerdict.Shell.Script
import LintVerdict.Text.Bytes

/-!
# The state of a shell

## Main definitions

* `Channel`: what a stream leads to.
* `State`: files, variables, streams and the time that has passed.
* `State.write`, `State.complain`: output.
* `State.value?`: the value of a variable.
* `Flow`: why no other command follows.
-/

namespace LintVerdict.Shell

/-- What a stream leads to. -/
inductive Channel where
  /-- A collected output. -/
  | sink (index : Nat)
  /-- A text to read. -/
  | source (index : Nat)
  /-- The end of a file. -/
  | file (place : Place)
  /-- Nothing. -/
  | nowhere
  deriving DecidableEq, Repr

/-- Why no other command follows. -/
inductive Flow where
  /-- The shell ends. -/
  | leave
  /-- A signal ends the shell. -/
  | killed (signal : Nat)
  /-- So many loops end; the last one of them may go on with its next round. -/
  | skip (loops : Nat) (again : Bool)
  /-- The command by a new name ends. -/
  | back
  /-- The time is over. -/
  | late
  deriving DecidableEq, Repr

/-- A variable. -/
structure Variable where
  /-- Its name. -/
  name : List Char
  /-- Its value. -/
  value : List Char
  /-- Whether programs see it. -/
  exported : Bool
  deriving DecidableEq, Repr

/-- The state of a shell. -/
structure State where
  /-- The files, with the current directory. -/
  files : Files
  /-- The variables. -/
  vars : List Variable
  /-- The name that the shell was started by. -/
  self : List Char
  /-- The arguments. -/
  args : List (List Char)
  /-- Commands by new names. -/
  commands : List (List Char × Script)
  /-- The exit code of the last command. -/
  status : Nat
  /-- What the open streams lead to. -/
  streams : List (Nat × Channel)
  /-- The collected outputs. -/
  sinks : Array ByteArray
  /-- What is left of the texts to read. -/
  sources : Array (List Char)
  /-- The milliseconds that have passed. -/
  elapsed : Nat
  /-- When the time is over, if ever. -/
  deadline : Option Nat
  /-- How many line ends the script has. -/
  lines : Nat
  /-- Whether a failure ends the shell. -/
  strict : Bool
  /-- What to run when the shell ends. -/
  atExit : Option (List Char)
  /-- The number of the process. -/
  process : Nat

namespace State

/-- The state with an exit code. -/
def withStatus (s : State) (status : Nat) : State := { s with status }

/-- What a stream leads to. -/
def channel? (s : State) (stream : Nat) : Option Channel :=
  (s.streams.find? fun x => x.1 = stream).map (·.2)

/-- The state with a stream that leads elsewhere, or is closed. -/
def redirect (s : State) (stream : Nat) (c : Option Channel) : State :=
  { s with
    streams := (c.map fun c => (stream, c)).toList ++ s.streams.filter fun x => x.1 ≠ stream }

/-- Writes to a stream; nothing if it is closed. -/
def write? (s : State) (stream : Nat) (cs : List Char) : Option State :=
  match s.channel? stream with
  | none => none
  | some .nowhere => some s
  | some (.source _) => none
  | some (.sink i) => some { s with sinks := s.sinks.modify i (· ++ Text.ofByteChars cs) }
  | some (.file place) =>
    match s.files.root.get? place with
    | some (.file content x) =>
      some { s with files := s.files.replace place (some (.file (content ++ Text.ofByteChars cs) x)) }
    | _ => some s

/-- Writes to a stream, or does nothing. -/
def write (s : State) (stream : Nat) (cs : List Char) : State := (s.write? stream cs).getD s

/-- Writes a complaint about a command. -/
def complain (s : State) (below : Nat) (text : SystemText) : State :=
  let line := s.lines + 1 - below
  s.write 2 (s.self ++ (": " ++ toString line ++ ": " ++ text ++ "\n").toList)

/-- The value of a variable with a name of letters. -/
def setting? (s : State) (name : List Char) : Option (List Char) :=
  (s.vars.find? fun v => v.name = name).map (·.value)

/-- The characters of a number. -/
def digits (n : Nat) : List Char := (toString n).toList

/-- Texts with a character between them. -/
def joined (c : List Char) (texts : List (List Char)) : List Char := List.intercalate c texts

/-- The value of a variable, those of the shell itself included. -/
def value? (s : State) (name : List Char) : Option (List Char) :=
  match name with
  | ['@'] => some (joined [' '] s.args)
  | ['*'] => some (joined [' '] s.args)
  | ['#'] => some (digits s.args.length)
  | ['?'] => some (digits s.status)
  | ['$'] => some (digits s.process)
  | ['0'] => some s.self
  | ['-'] => some []
  | ['!'] => none
  | c :: _ =>
    if '0' ≤ c && c ≤ '9' then
      s.args[name.foldl (fun n c => 10 * n + (c.toNat - 48)) 0 - 1]?
    else s.setting? name
  | [] => none

/-- The state with a variable set. -/
def assign (s : State) (name value : List Char) : State :=
  if s.vars.any fun v => v.name = name then
    { s with vars := s.vars.map fun v => if v.name = name then { v with value } else v }
  else { s with vars := s.vars ++ [⟨name, value, false⟩] }

/-- The state with a variable that programs see. -/
def export_ (s : State) (name : List Char) : State :=
  let s := if (s.setting? name).isSome then s else s.assign name []
  { s with
    vars := s.vars.map fun v => if v.name = name then { v with exported := true } else v }

/-- The state without a variable. -/
def unset (s : State) (name : List Char) : State :=
  { s with vars := s.vars.filter fun v => v.name ≠ name }

/-- The state after some milliseconds. -/
def wait (s : State) (ms : Nat) : State := { s with elapsed := s.elapsed + ms }

/-- Whether the time is over. -/
def isLate (s : State) : Bool := s.deadline.any fun d => d ≤ s.elapsed

/-- What is left to read from a stream. -/
def pending (s : State) (stream : Nat) : List Char :=
  match s.channel? stream with
  | some (.source i) => (s.sources[i]?).getD []
  | _ => []

/-- The state with less left to read from a stream. -/
def consumed (s : State) (stream : Nat) (rest : List Char) : State :=
  match s.channel? stream with
  | some (.source i) => { s with sources := s.sources.modify i fun _ => rest }
  | _ => s

/-- What a shell that was started by another one leaves behind: files, output and time. -/
def after (s t : State) : State :=
  { s with
    files := { t.files with cwd := s.files.cwd }
    sinks := t.sinks
    sources := t.sources
    elapsed := t.elapsed
    status := t.status }

end State

/-!
### File names that fit
-/

/-- The characters between slashes. -/
def splitNames (cs : List (Char × Bool)) : List (List (Char × Bool)) :=
  cs.foldr
    (fun c parts =>
      if c.1 = '/' then [] :: parts
      else
        match parts with
        | [] => [[c]]
        | p :: rest => (c :: p) :: rest)
    [[]]

/-- The names of a directory that fit a pattern, in ascending order. A leading dot must be in
the pattern. -/
def fittingNames (files : Files) (dir : SystemText) (p : List (Char × Bool)) : List (List Char) :=
  let names := (files.names (if dir.isEmpty then "." else dir)).toOption.getD []
  let all := if p.head?.any fun c => c.1 = '.' then [".", ".."] ++ names else names
  ((all.mergeSort fun a b => decide (a ≤ b)).map String.toList).filter fun n =>
    (n.head? ≠ some '.' || p.head?.any fun c => c.1 = '.') && fits (Fit.pattern p) n

/-- The paths that fit a pattern, whose names are given one by one, below a path. -/
def fittingPaths (files : Files) : List (List (Char × Bool)) → List Char → List (List Char)
  | [], path => [path]
  | p :: rest, path =>
    let more (name : List Char) : List (List Char) :=
      let next := path ++ name
      if rest.isEmpty then
        if (files.place (String.ofList next) false).isOk then [next] else []
      else fittingPaths files rest (next ++ ['/'])
    if hasPattern p then (fittingNames files (String.ofList path) p).flatMap more
    else more (p.map (·.1))

/-- The words that a field stands for: the paths that fit it, or itself. -/
def expandField (files : Files) (field : List (Char × Bool)) : List (List Char) :=
  if hasPattern field then
    match fittingPaths files (splitNames field) [] with
    | [] => [field.map (·.1)]
    | paths => paths
  else [field.map (·.1)]

end LintVerdict.Shell
