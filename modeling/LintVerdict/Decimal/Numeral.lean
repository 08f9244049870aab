/-!
# Written numbers

A number as it stands in a text, before it becomes a machine number.

## Main definitions

* `Numeral`: a sign, decimal digits and a power of ten.
* `Numeral.toFloat`: the nearest floating point number.
* `decimal?`: the value of a run of ASCII digits.
* `boundedNat?`: a natural number below a bound, with an optional plus sign.
-/

namespace LintVerdict.Decimal

/-- The number `mantissa * 10 ^ exponent`, with its sign kept also for zero. -/
structure Numeral where
  /-- Whether a minus sign stands before it. -/
  negative : Bool
  /-- The digits. -/
  mantissa : Nat
  /-- The power of ten. -/
  exponent : Int
  deriving DecidableEq, Repr

/-- An ASCII digit. -/
def isDigit (c : Char) : Bool := '0' ≤ c && c ≤ '9'

/-- The value of an ASCII digit. -/
def digitValue (c : Char) : Nat := c.toNat - '0'.toNat

/-- The value of a run of digits, read on from a value. -/
def readDigits (start : Nat) (cs : List Char) : Nat :=
  cs.foldl (fun n c => 10 * n + digitValue c) start

/-- The value of a non-empty run of ASCII digits. -/
def decimal? (cs : List Char) : Option Nat :=
  if cs ≠ [] ∧ cs.all isDigit then some (readDigits 0 cs) else none

/-- The digits without an optional plus sign before them. -/
def dropPlus : List Char → List Char
  | '+' :: cs => cs
  | cs => cs

/-- A natural number below `bound`: ASCII digits, at least one, after an optional plus sign. -/
def boundedNat? (bound : Nat) (cs : List Char) : Option Nat :=
  (decimal? (dropPlus cs)).filter (· < bound)

/-- How many words a machine word of 64 bits has. -/
def word64 : Nat := Nat.pow 2 64

/-- How many words a machine word of 32 bits has. -/
def word32 : Nat := Nat.pow 2 32

/-- The magnitude as a floating point number, rounded to the nearest. Exponents far outside
the range give infinity or zero without being computed. -/
def Numeral.magnitude (n : Numeral) : Float :=
  if n.mantissa = 0 then 0.0
  else
    let top : Int := n.exponent + (Nat.toDigits 10 n.mantissa).length
    if 400 < top then 1.0 / 0.0
    else if top < -400 then 0.0
    else Float.ofScientific n.mantissa (n.exponent < 0) n.exponent.natAbs

/-- The nearest floating point number. -/
def Numeral.toFloat (n : Numeral) : Float :=
  if n.negative then -n.magnitude else n.magnitude

/-- Whether the numeral is out of the finite range. -/
def Numeral.overflows (n : Numeral) : Bool := n.magnitude.isInf

end LintVerdict.Decimal
