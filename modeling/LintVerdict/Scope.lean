import LintVerdict.Text.Blank

/-!
# Scopes

Linters run on a package or on a directory. The file says how a list of changed files gives
the packages (directories that hold a Go file) and the directories (of any file) to check.

## Main definitions

* `Scope`: what one linter run checks.
* `Scopes.ofFiles`: the packages and directories of a list of files, in the order in which
  they are first seen.
-/

namespace LintVerdict

open Text (trimChars splitChars)

/-- The two kinds of scope. -/
inductive ScopeKind where
  /-- A Go package. -/
  | package
  /-- A directory. -/
  | directory
  deriving DecidableEq, Repr

/-- The word for a kind of scope. -/
def ScopeKind.name : ScopeKind → String
  | package => "package"
  | directory => "directory"

/-- What one linter run checks: a directory, by its path from the working root, read as a
package or as a plain directory. -/
structure Scope where
  /-- How the directory is read. -/
  kind : ScopeKind
  /-- The path of the directory. -/
  path : String
  deriving DecidableEq, Repr

namespace Scope

/-- The form for a command line. A path that starts with neither a dot nor a slash gets `./`,
so that the Go tools do not take it for an import path. -/
def arg (s : Scope) : String :=
  match s.path.toList with
  | '.' :: _ => s.path
  | '/' :: _ => s.path
  | _ => "./" ++ s.path

/-- The form for a message. -/
def display (s : Scope) : String := s.kind.name ++ " " ++ s.path

end Scope

/-- The directories to check, each list without repeats, in first-seen order. -/
structure Scopes where
  /-- Directories that hold a Go file. -/
  packages : List String
  /-- Directories that hold any file. -/
  directories : List String
  deriving DecidableEq, Repr

namespace Scopes

/-- Nothing to check. -/
def none : Scopes := ⟨[], []⟩

/-- Whether there is nothing to check. -/
def isEmpty (s : Scopes) : Bool := s.packages.isEmpty && s.directories.isEmpty

end Scopes

namespace FilePath

/-- A backslash read as a slash. -/
def slash (c : Char) : Char := if c = '\\' then '/' else c

/-- The path without the `./` at its start, however often they stand there. -/
def dropDotSlash : List Char → List Char
  | '.' :: '/' :: rest => dropDotSlash rest
  | cs => cs

/-- The form of a listed file in which its directory is read off: trimmed, with slashes only
and without leading `./`. A blank entry has none. -/
def normalize (file : List Char) : Option (List Char) :=
  match dropDotSlash ((trimChars file).map slash) with
  | [] => none
  | cs => some cs

/-- The part before the last slash, if there is a slash. -/
def beforeLastSlash (file : List Char) : Option (List Char) :=
  match file.reverse.dropWhile (· ≠ '/') with
  | [] => none
  | _ :: rest => some rest.reverse

/-- The directory of a normalized file: `.` without a slash, `/` right under the root. -/
def parent (file : List Char) : List Char :=
  match beforeLastSlash file with
  | none => ['.']
  | some [] => ['/']
  | some dir => dir

/-- Whether a path names a Go source file. -/
def isGo (file : List Char) : Bool := ['.', 'g', 'o'].isSuffixOf file

end FilePath

/-- A list of distinct elements with one more at its end, if it is new. -/
def insertNew {α : Type} [BEq α] (xs : List α) (x : α) : List α :=
  if xs.contains x then xs else xs ++ [x]

namespace Scopes

/-- The scopes with those of one more listed file. -/
def addFile (s : Scopes) (file : String) : Scopes :=
  match FilePath.normalize file.toList with
  | Option.none => s
  | some cs =>
    let dir := String.ofList (FilePath.parent cs)
    { packages := if FilePath.isGo cs then insertNew s.packages dir else s.packages
      directories := insertNew s.directories dir }

/-- The scopes of a list of files. -/
def ofFiles (files : List String) : Scopes := files.foldl addFile none

end Scopes

/-- The files that a file list names: one a line, trimmed, blank lines and `#` comments left out. -/
def listedFiles (content : String) : List String :=
  ((Text.lineChars content.toList).map Text.trimChars).filterMap fun l =>
    match l with
    | [] => none
    | '#' :: _ => none
    | cs => some (String.ofList cs)

end LintVerdict
