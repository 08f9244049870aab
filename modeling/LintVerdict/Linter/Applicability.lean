import LintVerdict.Linter.Registry
import LintVerdict.Scope

/-!
# Which linters run where

Two lists name the linters that run on packages and those that run on directories.

## Main definitions

* `Applicability`: the two lists.
* `Applicability.validate`: whether every id is known and none is in both lists.
* `Applicability.allIds`: the ids of both lists, without repeats.
-/

namespace LintVerdict

/-- The linters for packages and those for directories. -/
structure Applicability where
  /-- The ids of the linters that run once a package. -/
  package : List String
  /-- The ids of the linters that run once a directory. -/
  directory : List String
  deriving DecidableEq, Repr

namespace Applicability

/-- The linters that run when nothing is configured. -/
def default : Applicability := ⟨["errcheck"], ["goimports"]⟩

/-- The ids of both lists, the packages' first. -/
def listed (a : Applicability) : List String := a.package ++ a.directory

/-- Whether every id is known and none is in both lists. An unknown id, the first in the order
of the lists, wins over a shared one, the first in the packages' list. -/
def validate (a : Applicability) (r : Registry) : Except RegistryError Unit :=
  match a.listed.find? fun id => (r.get? id).isNone with
  | some id => .error (.notFound id)
  | none =>
    match a.package.find? fun id => a.directory.contains id with
    | some id => .error (.overlap id)
    | none => .ok ()

/-- The ids of both lists without repeats, in first-seen order. -/
def allIds (a : Applicability) : List String := a.listed.foldl insertNew []

end Applicability

end LintVerdict
