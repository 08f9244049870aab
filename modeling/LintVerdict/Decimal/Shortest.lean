/-!
# The shortest decimal of a floating point number

A finite binary number `m * 2 ^ q` is written with the fewest decimal digits that read back
as the same number, and among those with the digits nearest to it.

## Main definitions

* `Rounding`: the open or closed interval of reals that round to one binary number.
* `Rounding.shortest?`: the point of the coarsest power-of-ten grid inside that interval.
* `positional`: digits and a power of ten written without an exponent.
* `floatText`: the text of a `Float`.
-/

namespace LintVerdict.Decimal

/-- The reals that round to the binary number `mid * 2 ^ scale`: those between
`lower * 2 ^ scale` and `upper * 2 ^ scale`, with the ends when `closed` holds. -/
structure Rounding where
  /-- The lower end, in units of `2 ^ scale`. -/
  lower : Nat
  /-- The number itself, in the same units. -/
  mid : Nat
  /-- The upper end, in the same units. -/
  upper : Nat
  /-- The binary exponent of the unit. -/
  scale : Int
  /-- Whether the ends belong to the interval. -/
  closed : Bool
  deriving DecidableEq, Repr

namespace Rounding

/-- The interval of the number `m * 2 ^ q`. Its lower half is half as wide when the number
below has a smaller exponent. -/
def ofBinary (m : Nat) (q : Int) (narrowBelow : Bool) : Rounding :=
  { lower := if narrowBelow then 4 * m - 1 else 4 * m - 2
    mid := 4 * m
    upper := 4 * m + 2
    scale := q - 2
    closed := m % 2 = 0 }

/-- The numerator of `x * 2 ^ scale / 10 ^ e`. -/
def numerator (r : Rounding) (e : Int) (x : Nat) : Nat :=
  x * Nat.pow 2 r.scale.toNat * Nat.pow 10 (-e).toNat

/-- The denominator of `x * 2 ^ scale / 10 ^ e`. -/
def denominator (r : Rounding) (e : Int) : Nat :=
  Nat.pow 2 (-r.scale).toNat * Nat.pow 10 e.toNat

/-- Whether the grid point `c * 10 ^ e` lies in the interval. -/
def holds (r : Rounding) (e : Int) (c : Nat) : Bool :=
  let p := c * r.denominator e
  let lo := r.numerator e r.lower
  let hi := r.numerator e r.upper
  if r.closed then lo ≤ p && p ≤ hi else lo < p && p < hi

/-- The point of the grid `10 ^ e` inside the interval that is nearest to the number, a tie
going to the greater one. Only the two neighbours of the number can be nearest. -/
def nearest? (r : Rounding) (e : Int) : Option Nat :=
  let n := r.numerator e r.mid
  let d := r.denominator e
  let below := n / d
  let above := below + 1
  match r.holds e below, r.holds e above with
  | false, false => none
  | true, false => some below
  | false, true => some above
  | true, true => some (if 2 * (n % d) < d then below else above)

/-- The exponents of ten to try, the coarsest grid first. They reach from above the greatest
finite number down to below the least positive one. -/
def gridExponents : List Int := (List.range 700).map fun (i : Nat) => 320 - (i : Int)

/-- Digits and exponent of the shortest decimal in the interval. -/
def shortest? (r : Rounding) : Option (Nat × Int) :=
  gridExponents.findSome? fun e => (r.nearest? e).map fun c => (c, e)

end Rounding

/-- The decimal `c * 10 ^ e` without an exponent. -/
def positional (c : Nat) (e : Int) : String :=
  let digits := Nat.toDigits 10 c
  if 0 ≤ e then String.ofList (digits ++ List.replicate e.toNat '0')
  else
    let places := (-e).toNat
    if digits.length ≤ places then
      "0." ++ String.ofList (List.replicate (places - digits.length) '0' ++ digits)
    else
      String.ofList (digits.take (digits.length - places)) ++ "." ++
        String.ofList (digits.drop (digits.length - places))

/-- The text of the finite number that a sign bit, a biased exponent and a fraction stand for. -/
def finiteText (exponent fraction : Nat) : String :=
  let m := if exponent = 0 then fraction else Nat.pow 2 52 + fraction
  let q : Int := (if exponent = 0 then 1 else (exponent : Int)) - 1075
  match (Rounding.ofBinary m q (fraction = 0 && 1 < exponent)).shortest? with
  | some (c, e) => if m = 0 then "0" else positional c e
  | none => "0"

/-- The text of a floating point number: the shortest digits that read back, in positional
form; a sign also before a zero, none before the text for "not a number". -/
def floatText (x : Float) : String :=
  let bits := x.toBits.toNat
  let exponent := bits / Nat.pow 2 52 % Nat.pow 2 11
  let fraction := bits % Nat.pow 2 52
  let sign := if bits / Nat.pow 2 63 = 1 then "-" else ""
  if exponent = 2047 then
    if fraction = 0 then sign ++ "inf" else "NaN"
  else sign ++ finiteText exponent fraction

end LintVerdict.Decimal
