/-!
# Findings

A finding is one diagnostic that an external linter reported.

## Main definitions

* `Finding`: who reported what, and where.
* `Finding.display`: its one-line form `path:line:column: message (linter)`.
-/

namespace LintVerdict

/-- One diagnostic of an external linter. -/
structure Finding where
  /-- The id of the linter that reported it. -/
  linter : String
  /-- The file it points at, as the linter printed it. -/
  path : String
  /-- The line, counted from one; absent when the whole file is meant. -/
  line : Option Nat
  /-- The column, counted from one; absent when the linter gives none. -/
  column : Option Nat
  /-- What the linter said. -/
  message : String
  deriving DecidableEq, Repr

namespace Finding

/-- The place a finding points at. A column is shown only after a line. -/
def location (f : Finding) : String :=
  match f.line, f.column with
  | none, _ => f.path
  | some l, none => f.path ++ ":" ++ toString l
  | some l, some c => f.path ++ ":" ++ toString l ++ ":" ++ toString c

/-- The one-line form of a finding. -/
def display (f : Finding) : String :=
  f.location ++ ": " ++ f.message ++ " (" ++ f.linter ++ ")"

end Finding

end LintVerdict
