import LintVerdict.Decimal.Shortest

/-!
# Linter options

The values that fill the placeholders of a command template.

## Main definitions

* `Placeholder`: the names a template may mention.
* `Options`: a bag of values, each set or unset.
* `Options.value?`: what an option bag says about a placeholder.
-/

namespace LintVerdict

/-- The placeholders that a command template may hold. -/
inductive Placeholder where
  /-- The similarity of duplicate code. -/
  | threshold
  /-- How often a string occurs before it should be a constant. -/
  | minOccurrences
  /-- The limit of cyclomatic complexity. -/
  | mincyclo
  /-- The least confidence of a reported problem. -/
  | minConfidence
  /-- The longest line allowed. -/
  | maxLineLength
  /-- Whether test files are checked too. -/
  | tests
  deriving DecidableEq, Repr

namespace Placeholder

/-- All placeholders, in the order in which they are documented. -/
def all : List Placeholder :=
  [threshold, minOccurrences, mincyclo, minConfidence, maxLineLength, tests]

/-- The name of a placeholder inside a template. -/
def name : Placeholder → String
  | threshold => "threshold"
  | minOccurrences => "min_occurrences"
  | mincyclo => "mincyclo"
  | minConfidence => "min_confidence"
  | maxLineLength => "maxlinelength"
  | tests => "tests"

/-- The placeholder of a name. -/
def ofName? (s : String) : Option Placeholder := all.find? fun p => p.name = s

/-- A flag placeholder stands for a declared text that is there or not, and not for a value. -/
def isFlag : Placeholder → Bool
  | tests => true
  | _ => false

end Placeholder

/-- The values of the placeholders, each one set or unset. -/
structure Options where
  /-- The similarity of duplicate code, below `2 ^ 32`. -/
  threshold : Option Nat
  /-- How often a string occurs before it should be a constant, below `2 ^ 32`. -/
  minOccurrences : Option Nat
  /-- The limit of cyclomatic complexity, below `2 ^ 32`. -/
  mincyclo : Option Nat
  /-- The least confidence of a reported problem. -/
  minConfidence : Option Float
  /-- The longest line allowed, below `2 ^ 32`. -/
  maxLineLength : Option Nat
  /-- Whether test files are checked too. -/
  tests : Option Bool

/-- What an option says: a text to insert, or a flag that is on or off. -/
inductive OptionValue where
  /-- A text to insert. -/
  | text (s : String)
  /-- A flag. -/
  | flag (on : Bool)
  deriving DecidableEq, Repr

namespace Options

/-- No option set. -/
def unset : Options := ⟨none, none, none, none, none, none⟩

/-- What the options say about a placeholder. -/
def value? (o : Options) : Placeholder → Option OptionValue
  | .threshold => o.threshold.map fun n => .text (toString n)
  | .minOccurrences => o.minOccurrences.map fun n => .text (toString n)
  | .mincyclo => o.mincyclo.map fun n => .text (toString n)
  | .minConfidence => o.minConfidence.map fun x => .text (Decimal.floatText x)
  | .maxLineLength => o.maxLineLength.map fun n => .text (toString n)
  | .tests => o.tests.map .flag

/-- Whether two option bags set the same options to equal values. -/
def same (a b : Options) : Bool :=
  a.threshold = b.threshold && a.minOccurrences = b.minOccurrences && a.mincyclo = b.mincyclo &&
    a.minConfidence == b.minConfidence && a.maxLineLength = b.maxLineLength && a.tests = b.tests

end Options

end LintVerdict
