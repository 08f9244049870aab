import LintVerdict.Decimal.Numeral

/-!
# Options of the command line

## Main definitions

* `Subcommand`: what the tool is asked to do.
* `Opt`: the options, with their names and values.
* `Opt.known`: the options that may stand before or behind a subcommand.
-/

namespace LintVerdict.CommandLine

/-- What the tool is asked to do. -/
inductive Subcommand where
  /-- Lint given files. -/
  | lint
  /-- Lint the files below a directory. -/
  | lintDir
  /-- Install missing linters. -/
  | install
  /-- List the known linters. -/
  | listLinters
  deriving DecidableEq, Repr

namespace Subcommand

/-- All subcommands. -/
def all : List Subcommand := [lint, lintDir, install, listLinters]

/-- The word for a subcommand. -/
def name : Subcommand → String
  | lint => "lint"
  | lintDir => "lintdir"
  | install => "install"
  | listLinters => "list-linters"

/-- The subcommand of a word. -/
def ofName? (s : String) : Option Subcommand := all.find? fun c => c.name = s

end Subcommand

/-- How many values an option takes. -/
inductive Arity where
  /-- None. -/
  | flag
  /-- One. -/
  | single
  /-- One or more; the option may be repeated. -/
  | several
  deriving DecidableEq, Repr

/-- An option. -/
inductive Opt where
  /-- Tell more. -/
  | verbose
  /-- Print findings only. -/
  | quiet
  /-- The configuration file. -/
  | config
  /-- The root of the repository. -/
  | root
  /-- The output format. -/
  | outputFormat
  /-- Run everything in spite of failures. -/
  | noFailFast
  /-- The milliseconds that a linter may take. -/
  | timeout
  /-- The linters for packages. -/
  | packageLinters
  /-- The linters for directories. -/
  | dirLinters
  /-- Install missing linters before linting. -/
  | install
  /-- Print the version. -/
  | version
  /-- Print how the tool is used. -/
  | help
  /-- A file that lists files to lint. -/
  | list
  /-- Files to lint. -/
  | files
  /-- The directory whose files to lint. -/
  | path
  /-- Tell only what would be installed. -/
  | dryRun
  deriving DecidableEq, Repr

namespace Opt

/-- The long name, without dashes. -/
def long : Opt → String
  | verbose => "verbose"
  | quiet => "quiet"
  | config => "config"
  | root => "root"
  | outputFormat => "output-format"
  | noFailFast => "no-fail-fast"
  | timeout => "timeout"
  | packageLinters => "package-linters"
  | dirLinters => "dir-linters"
  | install => "install"
  | version => "version"
  | help => "help"
  | list => "list"
  | files => "files"
  | path => "path"
  | dryRun => "dry-run"

/-- The letter that stands for an option. -/
def letter? : Opt → Option Char
  | verbose => some 'v'
  | quiet => some 'q'
  | config => some 'c'
  | version => some 'V'
  | help => some 'h'
  | path => some 'p'
  | _ => none

/-- How many values an option takes. -/
def arity : Opt → Arity
  | config => .single
  | root => .single
  | outputFormat => .single
  | timeout => .single
  | packageLinters => .single
  | dirLinters => .single
  | list => .single
  | path => .single
  | files => .several
  | _ => .flag

/-- The options that every subcommand knows, and that may stand before it. -/
def common : List Opt :=
  [verbose, quiet, config, root, outputFormat, noFailFast, timeout, packageLinters, dirLinters,
    install, help]

/-- The options that are known before any subcommand or behind one. -/
def known : Option Subcommand → List Opt
  | none => version :: common
  | some .lint => list :: files :: common
  | some .lintDir => path :: common
  | some .install => dryRun :: common
  | some .listLinters => common

/-- The option of a long name. -/
def ofLong? (stage : Option Subcommand) (name : String) : Option Opt :=
  (known stage).find? fun o => o.long = name

/-- The option of a letter. -/
def ofLetter? (stage : Option Subcommand) (c : Char) : Option Opt :=
  (known stage).find? fun o => o.letter? = some c

/-- A whole number of at most 64 bits, perhaps with a plus sign. -/
def wholeNumber? (s : String) : Option Nat :=
  let digits := match s.toList with
    | '+' :: cs => cs
    | cs => cs
  if !digits.isEmpty && digits.all Char.isDigit then
    (some (digits.foldl (fun n c => 10 * n + (c.toNat - 48)) 0)).filter (· < Decimal.word64)
  else none

/-- Whether a value is fit for an option: a path must not be empty, and a time is a number. -/
def admits (o : Opt) (value : String) : Bool :=
  match o with
  | config => !value.isEmpty
  | root => !value.isEmpty
  | list => !value.isEmpty
  | path => !value.isEmpty
  | timeout => (wholeNumber? value).isSome
  | _ => true

end Opt

end LintVerdict.CommandLine
