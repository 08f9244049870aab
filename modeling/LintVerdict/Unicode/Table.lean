import LintVerdict.Text.Blank

/-!
# Written tables

Tables over the code points are written as texts of numbers in base 36, separated by spaces.
A number is the distance from the one before it, so that most of them have one or two digits.

## Main definitions

* `Table.ranges`: ranges, by the first code point of each and the first one after it.
* `Table.runs`: consecutive runs, by their first code point and a label.
* `Table.orbits`: small sets of code points.
* `Table.looseName`: the form in which names of properties are compared.
-/

namespace LintVerdict.Unicode.Table

/-- The last code point. -/
def lastCode : Nat := 0x10FFFF

/-- The value of a digit in base 36. -/
def digitValue (c : Char) : Nat :=
  if c.toNat < 58 then c.toNat - 48 else c.toNat - 87

/-- The value of a number in base 36. -/
def number (cs : List Char) : Nat := cs.foldl (fun n c => 36 * n + digitValue c) 0

/-- The entries of a written table. -/
def entries (rows : List String) : List (List Char) :=
  rows.flatMap fun row => Text.wordChars row.toList

/-- Pairs neighbouring bounds to ranges. A bound without a partner opens a range that reaches
up to the last code point. -/
def pair : List Nat → List (Nat × Nat)
  | a :: b :: rest => (a, b - 1) :: pair rest
  | [a] => [(a, lastCode)]
  | [] => []

/-- Sums the distances from a start on. -/
def sums (start : Nat) : List Nat → List Nat
  | [] => []
  | d :: rest => (start + d) :: sums (start + d) rest

/-- Ranges written by their first code point and the first one after them. -/
def ranges (rows : List String) : List (Nat × Nat) :=
  pair (sums 0 ((entries rows).map number))

/-- Whether a character belongs to a number in base 36: labels begin in upper case. -/
def isDigit (c : Char) : Bool := !c.isUpper

/-- Runs with their labels, each reaching up to the next one's start. -/
def close : List (Nat × String) → List (Nat × Nat × String)
  | (a, s) :: (b, t) :: rest => (a, b - 1, s) :: close ((b, t) :: rest)
  | [(a, s)] => [(a, lastCode, s)]
  | [] => []

/-- Runs written by their first code point and a label that begins with a capital letter. -/
def runs (rows : List String) : List (Nat × Nat × String) :=
  let parts := (entries rows).map fun e => e.span isDigit
  let starts := sums 0 (parts.map fun p => number p.1)
  close (starts.zip (parts.map fun p => String.ofList p.2))

/-- Orbits from their distances: the first number of an entry counts from the first code point
of the entry before, the others from the number before them. -/
def closeOrbits (start : Nat) : List (List Nat) → List (List Nat)
  | [] => []
  | [] :: rest => closeOrbits start rest
  | (d :: ds) :: rest => ((start + d) :: sums (start + d) ds) :: closeOrbits (start + d) rest

/-- Orbits written as entries of numbers between dots. -/
def orbits (rows : List String) : List (List Nat) :=
  closeOrbits 0 ((entries rows).map fun e => (Text.splitChars '.' e).map number)

/-- Whether a character counts in a property's name. -/
def counts (c : Char) : Bool := c ≠ ' ' && c ≠ '_' && c ≠ '-' && c.toNat < 128

/-- A property's name in the form in which names are compared: without case, spaces, hyphens,
underscores and a leading "is". The name "isc" alone keeps it. -/
def looseName (s : String) : String :=
  let cs := s.toList.map Char.toLower
  match cs with
  | 'i' :: 's' :: rest =>
    match rest.filter counts with
    | ['c'] => "isc"
    | cs => String.ofList cs
  | cs => String.ofList (cs.filter counts)

end LintVerdict.Unicode.Table
