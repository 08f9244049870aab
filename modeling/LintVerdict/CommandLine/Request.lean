import LintVerdict.CommandLine.Option
import LintVerdict.Text.Bytes

/-!
# Reading the command line

The arguments are read from left to right; the first that cannot be understood ends the reading.

## Main definitions

* `Stop`: why there is nothing to do.
* `scan`: the options before or behind a subcommand.
* `Request.ofArgs`: what a command line asks for.
-/

namespace LintVerdict.CommandLine

/-- Why a command line is not understood. -/
inductive UsageError where
  /-- An argument that has no place. -/
  | unexpected (arg : String)
  /-- A value for an option that takes none. -/
  | unwantedValue (o : Opt) (value : String)
  /-- No value for an option that takes one. -/
  | missingValue (o : Opt)
  /-- A value that is not fit for its option. -/
  | badValue (o : Opt) (value : String)
  /-- An option that may stand only once. -/
  | repeated (o : Opt)
  /-- Files and a list of files. -/
  | conflict
  /-- Neither files nor a list of files. -/
  | noFiles
  /-- No subcommand. -/
  | noSubcommand
  deriving DecidableEq, Repr

/-- The message of a usage error. -/
def UsageError.message : UsageError → String
  | unexpected arg => "error: unexpected argument '" ++ arg ++ "' found"
  | unwantedValue o value =>
    "error: unexpected value '" ++ value ++ "' for '--" ++ o.long ++ "' found"
  | missingValue o => "error: a value is required for '--" ++ o.long ++ "' but none was supplied"
  | badValue o value => "error: invalid value '" ++ value ++ "' for '--" ++ o.long ++ "'"
  | repeated o => "error: the argument '--" ++ o.long ++ "' cannot be used multiple times"
  | conflict => "error: the argument '--list' cannot be used with '--files'"
  | noFiles => "error: either '--list' or '--files' must be provided"
  | noSubcommand => "error: a subcommand is required but was not provided"

/-- Why there is nothing to do. -/
inductive Stop where
  /-- The command line is not understood. -/
  | usage (e : UsageError)
  /-- The version is asked for. -/
  | version
  /-- Help is asked for. -/
  | help
  /-- There is no argument at all. -/
  | nothing
  deriving DecidableEq, Repr

/-- An option with its values. -/
abbrev Given := Opt × List String

/-- The options so far with one more. -/
def give (given : List Given) (o : Opt) (values : List String) : Except Stop (List Given) :=
  match o, values.find? fun v => !o.admits v with
  | .version, _ => .error .version
  | .help, _ => .error .help
  | _, some v => .error (.usage (.badValue o v))
  | _, none =>
    if o.arity ≠ .several && given.any fun g => g.1 = o then .error (.usage (.repeated o))
    else .ok (given ++ [(o, values)])

/-- The options so far with the one whose values were being read. -/
def close (given : List Given) : Option Given → Except Stop (List Given)
  | none => .ok given
  | some (o, []) => .error (.usage (.missingValue o))
  | some (o, values) => give given o values

/-- The form of an argument. -/
inductive Token where
  /-- Two dashes, behind which nothing is an option. -/
  | dashes
  /-- An option by its name, perhaps with a value behind an equals sign. -/
  | long (name : String) (value : Option String)
  /-- Options by their letters. -/
  | letters (cs : List Char)
  /-- Anything else. -/
  | plain
  deriving DecidableEq, Repr

/-- The form of an argument. -/
def Token.ofArg (arg : String) : Token :=
  match arg.toList with
  | ['-', '-'] => dashes
  | '-' :: '-' :: cs =>
    match cs.span (· ≠ '=') with
    | (name, _ :: value) => long (String.ofList name) (some (String.ofList value))
    | (name, []) => long (String.ofList name) none
  | '-' :: c :: cs => letters (c :: cs)
  | _ => plain

/-- Takes an option by its name. One that still needs values comes back with none. -/
def takeLong (stage : Option Subcommand) (given : List Given) (name : String)
    (value : Option String) : Except Stop (Option Given × List Given) :=
  match Opt.ofLong? stage name with
  | none => .error (.usage (.unexpected ("--" ++ name)))
  | some o =>
    match o.arity, value with
    | .flag, some v => .error (.usage (.unwantedValue o v))
    | .flag, none => (give given o []).map fun g => (none, g)
    | _, some v => (give given o [v]).map fun g => (none, g)
    | _, none => .ok (some (o, []), given)

/-- Takes options by their letters. What follows an option that takes a value is its value. -/
def takeLetters (stage : Option Subcommand) (given : List Given) :
    List Char → Except Stop (Option Given × List Given)
  | [] => .ok (none, given)
  | c :: cs =>
    match Opt.ofLetter? stage c with
    | none => .error (.usage (.unexpected (String.ofList ['-', c])))
    | some o =>
      if o.arity = .flag then
        match give given o [] with
        | .error e => .error e
        | .ok given => takeLetters stage given cs
      else
        match cs with
        | [] => .ok (some (o, []), given)
        | '=' :: value => (give given o [String.ofList value]).map fun g => (none, g)
        | value => (give given o [String.ofList value]).map fun g => (none, g)

/-- What stops at the word `help`: help for the tool or for one of its subcommands. -/
def helpFor (names : List String) : Stop :=
  match names with
  | [] => .help
  | [n] =>
    if n = "help" || (Subcommand.ofName? n).isSome then .help else .usage (.unexpected n)
  | n :: m :: _ =>
    if n = "help" || (Subcommand.ofName? n).isSome then .usage (.unexpected m)
    else .usage (.unexpected n)

/-- Reads options up to a subcommand, or to the end behind one. Values are read for an option
until it has enough. -/
def scan (stage : Option Subcommand) :
    Option Given → List Given → List String →
      Except Stop (List Given × Option (Subcommand × List String))
  | pending, given, [] => (close given pending).map fun g => (g, none)
  | pending, given, arg :: rest =>
    match Token.ofArg arg, pending with
    | .plain, some (o, values) =>
      if o.arity = .several then scan stage (some (o, values ++ [arg])) given rest
      else
        match give given o [arg] with
        | .error e => .error e
        | .ok given => scan stage none given rest
    | .plain, none =>
      match stage, Subcommand.ofName? arg with
      | none, some c => .ok (given, some (c, rest))
      | none, none => .error (if arg = "help" then helpFor rest else .usage (.unexpected arg))
      | some _, _ => .error (.usage (.unexpected arg))
    | token, pending =>
      match close given pending with
      | .error e => .error e
      | .ok given =>
        let taken := match token with
          | .long name value => takeLong stage given name value
          | .letters cs => takeLetters stage given cs
          | _ =>
            match rest with
            | [] => .ok (none, given)
            | extra :: _ => .error (.usage (.unexpected extra))
        match taken with
        | .error e => .error e
        | .ok (pending, given) => scan stage pending given rest

/-- The task that a subcommand stands for. -/
inductive Task where
  /-- Lint the files that a file lists. -/
  | lintListed (list : SystemText)
  /-- Lint files. -/
  | lintFiles (files : List String)
  /-- Lint the files below a directory. -/
  | lintDir (path : SystemText)
  /-- Install missing linters, or tell what would be installed. -/
  | install (dryRun : Bool)
  /-- List the known linters. -/
  | listLinters
  deriving DecidableEq, Repr

/-- The choices that hold for every task. -/
structure Settings where
  /-- Whether to tell more. -/
  verbose : Bool
  /-- Whether to print findings only. -/
  quiet : Bool
  /-- The configuration file. -/
  config : Option SystemText
  /-- The root of the repository. -/
  root : Option SystemText
  /-- The name of the output format. -/
  outputFormat : String
  /-- Whether everything is run in spite of failures. -/
  noFailFast : Bool
  /-- The milliseconds that a linter may take. -/
  timeout : Option Nat
  /-- The linters for packages. -/
  packageLinters : Option String
  /-- The linters for directories. -/
  dirLinters : Option String
  /-- Whether missing linters are installed before linting. -/
  install : Bool
  deriving DecidableEq, Repr

/-- What a command line asks for. -/
structure Request where
  /-- The choices. -/
  settings : Settings
  /-- The task. -/
  task : Task
  deriving DecidableEq, Repr

/-- Whether an option is given. -/
def has (given : List Given) (o : Opt) : Bool := given.any fun g => g.1 = o

/-- The values of an option. -/
def values (given : List Given) (o : Opt) : List String :=
  (given.filter fun g => g.1 = o).flatMap (·.2)

/-- The value of an option; what stands behind the subcommand goes first. -/
def value? (inner outer : List Given) (o : Opt) : Option String :=
  ((values inner o).head?).orElse fun _ => (values outer o).head?

namespace Settings

/-- The choices of the options before and behind the subcommand. -/
def ofGiven (outer inner : List Given) : Settings :=
  let flag (o : Opt) : Bool := has inner o || has outer o
  let value (o : Opt) : Option String := value? inner outer o
  { verbose := flag .verbose
    quiet := flag .quiet
    config := (value .config).map Text.encoded
    root := (value .root).map Text.encoded
    outputFormat := (value .outputFormat).getD "text"
    noFailFast := flag .noFailFast
    timeout := (value .timeout).bind Opt.wholeNumber?
    packageLinters := value .packageLinters
    dirLinters := value .dirLinters
    install := flag .install }

end Settings

/-- The task of a subcommand with its options. -/
def Task.ofGiven (c : Subcommand) (given : List Given) : Except UsageError Task :=
  match c with
  | .lint =>
    match value? given [] .list, has given .files with
    | some _, true => .error .conflict
    | some list, false => .ok (lintListed (Text.encoded list))
    | none, true => .ok (lintFiles (values given .files))
    | none, false => .error .noFiles
  | .lintDir => .ok (lintDir (Text.encoded ((value? given [] .path).getD "./")))
  | .install => .ok (install (has given .dryRun))
  | .listLinters => .ok listLinters

/-- What a command line asks for. -/
def Request.ofArgs (args : List String) : Except Stop Request := do
  match ← scan none none [] args with
  | ([], none) => .error .nothing
  | (_, none) => .error (.usage .noSubcommand)
  | (outer, some (c, rest)) =>
    let (inner, _) ← scan (some c) none [] rest
    let task ← (Task.ofGiven c inner).mapError .usage
    return ⟨.ofGiven outer inner, task⟩

end LintVerdict.CommandLine
