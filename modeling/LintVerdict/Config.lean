import LintVerdict.Files.Tree
import LintVerdict.Linter.Applicability
import LintVerdict.Toml.Reader

/-!
# The configuration

A configuration file is a TOML document that names the linters to run, sets options and
declares further linters. It is found upward from a directory, up to the directory that holds a
repository.

## Main definitions

* `Config`: a configuration; `Config.default` is the one without a file.
* `Config.ofText`: reads a document.
* `Config.discover?`: the nearest configuration file.
* `Config.load`: the configuration of a given file, of the nearest one, or the default.
-/

namespace LintVerdict

/-- Why there is no configuration. -/
inductive ConfigError where
  /-- The file cannot be read. -/
  | unreadable (path : String) (reason : SystemError)
  /-- The file's content is no configuration. -/
  | malformed (path : String) (reason : String)
  deriving DecidableEq, Repr

/-- The message of a configuration error. -/
def ConfigError.message : ConfigError → String
  | unreadable path reason => "Failed to read config file at " ++ path ++ ": " ++ reason.message
  | malformed path reason => "Failed to parse config file at " ++ path ++ ": " ++ reason

/-- A configuration. -/
structure Config where
  /-- The linters that run once a package. -/
  packageLinters : List String
  /-- The linters that run once a directory. -/
  dirLinters : List String
  /-- Whether the first failure ends the run. -/
  failFast : Bool
  /-- The milliseconds that a linter may take, zero for no limit; below `2 ^ 64`. -/
  timeout : Nat
  /-- The values of the placeholders. -/
  options : Options
  /-- Declared linters, with distinct ids. -/
  linters : List (String × LinterDefinition)

/-!
### Reading a document

Every key must be known and every value must be of its key's type. A record may also be written
as a list of its values in order, of which superfluous ones are left out.
-/

namespace Toml

/-- The entries of a record with the given keys, of which at least the first `need` must be
there when it is written as a list. -/
def record? (keys : List String) (need : Nat) : Toml → Option (List (String × Toml))
  | table entries => if entries.all fun e => keys.contains e.1 then some entries else none
  | array items => if items.length < need then none else some (keys.zip items)
  | _ => none

/-- A text. -/
def text? : Toml → Option String
  | text s => some s
  | _ => none

/-- A list of texts. -/
def texts? : Toml → Option (List String)
  | array items => items.mapM text?
  | _ => none

/-- A truth value. -/
def bool? : Toml → Option Bool
  | bool b => some b
  | _ => none

/-- A natural number below a bound. -/
def below? (bound : Nat) : Toml → Option Nat
  | int n => if 0 ≤ n ∧ n < bound then some n.toNat else none
  | _ => none

/-- A number; a whole number must fit into a machine word. -/
def number : Toml → Option Float
  | float x => some x
  | int n =>
    if -9223372036854775808 ≤ n ∧ n < Decimal.word64 then
      some (Decimal.Numeral.toFloat ⟨decide (n < 0), n.natAbs, 0⟩)
    else none
  | _ => none

/-- What is read of a key's value; nothing without the key. -/
def optional? {α : Type} (entries : List (String × Toml)) (key : String) (read : Toml → Option α) :
    Option (Option α) :=
  match get? key entries with
  | none => some none
  | some v => (read v).map some

/-- What is read of a key's value; a default without the key. -/
def withDefault? {α : Type} (entries : List (String × Toml)) (key : String)
    (read : Toml → Option α) (default : α) : Option α :=
  match get? key entries with
  | none => some default
  | some v => read v

/-- Whether a value holds nothing. -/
def isHollow : Toml → Bool
  | table [] => true
  | array [] => true
  | _ => false

/-- A target style: its word, or a table whose one key is the word and whose value is hollow. -/
def target? : Toml → Option TargetStyle
  | text s => TargetStyle.ofName? s
  | table [(s, v)] => if v.isHollow then TargetStyle.ofName? s else none
  | _ => none

/-- The options of a record. -/
def options? (v : Toml) : Option Options := do
  let keys :=
    ["threshold", "min-occurrences", "mincyclo", "min-confidence", "maxlinelength", "tests"]
  let entries ← v.record? keys keys.length
  let word := below? Decimal.word32
  return { threshold := ← optional? entries "threshold" word
           minOccurrences := ← optional? entries "min-occurrences" word
           mincyclo := ← optional? entries "mincyclo" word
           minConfidence := ← optional? entries "min-confidence" number
           maxLineLength := ← optional? entries "maxlinelength" word
           tests := ← optional? entries "tests" bool? }

/-- The declaration of a linter. -/
def definition? (v : Toml) : Option LinterDefinition := do
  let entries ← v.record? ["command", "pattern", "target", "message", "install"] 2
  return { command := ← (get? "command" entries).bind text?
           pattern := ← (get? "pattern" entries).bind text?
           target := ← withDefault? entries "target" target? .path
           message := ← optional? entries "message" text?
           install := ← optional? entries "install" text? }

/-- The declarations of linters by id. -/
def definitions? : Toml → Option (List (String × LinterDefinition))
  | table entries => entries.mapM fun e => (definition? e.2).map fun d => (e.1, d)
  | _ => none

end Toml

namespace Config

/-- The configuration without a file. -/
def default : Config :=
  { packageLinters := Applicability.default.package
    dirLinters := Applicability.default.directory
    failFast := true
    timeout := 0
    options := .unset
    linters := [] }

/-- The keys of a configuration. -/
def keys : List String :=
  ["package-linters", "dir-linters", "fail-fast", "timeout", "options", "linters"]

/-- The configuration of a table; a missing key has its default. -/
def ofToml? (v : Toml) : Option Config := do
  let entries ← v.record? keys keys.length
  return { packageLinters :=
             ← Toml.withDefault? entries "package-linters" Toml.texts? default.packageLinters
           dirLinters := ← Toml.withDefault? entries "dir-linters" Toml.texts? default.dirLinters
           failFast := ← Toml.withDefault? entries "fail-fast" Toml.bool? default.failFast
           timeout :=
             ← Toml.withDefault? entries "timeout" (Toml.below? Decimal.word64) default.timeout
           options := ← Toml.withDefault? entries "options" Toml.options? default.options
           linters := ← Toml.withDefault? entries "linters" Toml.definitions? default.linters }

/-- Why a document is refused. -/
def notConfiguration : String := "TOML parse error: the document is not a configuration"

/-- The configuration of a document; `name` stands for it in an error. -/
def ofText (name document : String) : Except ConfigError Config :=
  match (Toml.read? document).bind ofToml? with
  | some c => .ok c
  | none => .error (.malformed name notConfiguration)

/-- The linters and the scopes that they run on. -/
def applicability (c : Config) : Applicability := ⟨c.packageLinters, c.dirLinters⟩

/-- The built-in linters with the declared ones. -/
def registry (c : Config) : Except RegistryError Registry := Registry.ofDefinitions c.linters

/-- Whether two configurations say the same. -/
def same (a b : Config) : Bool :=
  a.packageLinters = b.packageLinters && a.dirLinters = b.dirLinters && a.failFast = b.failFast &&
    a.timeout = b.timeout && a.options.same b.options && a.linters = b.linters

/-!
### Finding the file
-/

/-- The names of a configuration file, the preferred one first. -/
def fileNames : List String := [".codenanny.toml", "codenanny.toml"]

/-- How many directories are searched. -/
def searchLimit : Nat := 100

/-- The configuration file of a directory. -/
def inDirectory? (files : Files) (dir : SystemText) : Option SystemText :=
  (fileNames.map (FilePath.join dir)).find? files.isFile

/-- The nearest configuration file, from a directory on upward, in at most so many directories.
The search ends at a directory that holds a repository. -/
def search? (files : Files) : Nat → SystemText → Option SystemText
  | 0, _ => none
  | limit + 1, dir =>
    match inDirectory? files dir with
    | some path => some path
    | none =>
      if files.has (FilePath.join dir ".git") then none
      else
        match FilePath.parent? dir with
        | some up => search? files limit up
        | none => none

/-- The nearest configuration file. -/
def discover? (files : Files) (start : SystemText) : Option SystemText :=
  search? files searchLimit start

/-- The configuration of a file. -/
def ofFile (files : Files) (path : SystemText) : Except ConfigError Config :=
  match files.readText path with
  | .error e => .error (.unreadable (Text.decoded path) e)
  | .ok document => ofText (Text.decoded path) document

/-- The configuration of a given file, else of the nearest one, else the default; with the file
that it is from. -/
def load (files : Files) (given : Option SystemText) (start : SystemText) :
    Except ConfigError (Config × Option SystemText) :=
  match given.orElse fun _ => discover? files start with
  | some path => (ofFile files path).map fun c => (c, some path)
  | none => .ok (default, none)

end Config

end LintVerdict
