import LintVerdict.Text.Blank
import LintVerdict.Toml.Moment

/-!
# TOML values

## Main definitions

* `Toml`: a value of a TOML document.
* `Toml.scalar?`: the value of a word that is no text, such as a number.
-/

namespace LintVerdict

/-- A TOML value. The keys of a table are in ascending order. -/
inductive Toml where
  /-- A text. -/
  | text (s : String)
  /-- A whole number. -/
  | int (n : Int)
  /-- A number with a fraction or an exponent, infinity, or no number. -/
  | float (x : Float)
  /-- A truth value. -/
  | bool (b : Bool)
  /-- A date or a time, as it is written. -/
  | moment (written : String)
  /-- A list of values. -/
  | array (items : List Toml)
  /-- Values by key. -/
  | table (entries : List (String × Toml))

namespace Toml

open Decimal (Numeral isDigit readDigits)

/-- The digits of a run without its underscores, each of which stands between two digits. -/
def run? (digit : Char → Bool) (cs : List Char) : Option (List Char) :=
  let parts := Text.splitChars '_' cs
  if parts.all fun p => !p.isEmpty && p.all digit then some parts.flatten else none

/-- The digits of a decimal run that does not begin with a needless zero. -/
def whole? (cs : List Char) : Option (List Char) :=
  if cs.head? = some '0' && cs.length ≠ 1 then none else run? isDigit cs

/-- The value of a digit in bases up to sixteen. -/
def baseDigit (c : Char) : Nat :=
  if isDigit c then c.toNat - 48 else if 'a' ≤ c then c.toNat - 87 else c.toNat - 55

/-- A digit of a base up to sixteen. -/
def isBaseDigit (base : Nat) (c : Char) : Bool :=
  (isDigit c || ('a' ≤ c && c ≤ 'f') || ('A' ≤ c && c ≤ 'F')) && baseDigit c < base

/-- A whole number in a base. -/
def based? (base : Nat) (cs : List Char) : Option Toml :=
  (run? (isBaseDigit base) cs).map fun ds =>
    int (ds.foldl (fun n c => base * n + baseDigit c) 0 : Nat)

/-- The value of an exponent. -/
def exponent? : List Char → Option Int
  | '+' :: cs => (run? isDigit cs).map fun ds => (readDigits 0 ds : Int)
  | '-' :: cs => (run? isDigit cs).map fun ds => -(readDigits 0 ds : Int)
  | cs => (run? isDigit cs).map fun ds => (readDigits 0 ds : Int)

/-- A number with a fraction, an exponent or both. One that is too large has no value. -/
def decimal? (negative : Bool) (cs : List Char) : Option Toml := do
  let isMark (c : Char) : Bool := c = 'e' || c = 'E'
  let (front, power) := cs.span fun c => !isMark c
  let exp ← match power with
    | [] => some 0
    | _ :: e => exponent? e
  let (whole, point) := front.span (· ≠ '.')
  let frac ← match point with
    | [] => some []
    | _ :: f => run? isDigit f
  let digits ← whole? whole
  let n : Numeral := ⟨negative, readDigits 0 (digits ++ frac), exp - frac.length⟩
  if n.overflows then none else return float n.toFloat

/-- A number that begins with a digit. -/
def number? (negative : Bool) (cs : List Char) : Option Toml :=
  if cs.any fun c => c = '.' || c = 'e' || c = 'E' then decimal? negative cs
  else (whole? cs).map fun ds =>
    int (if negative then -(readDigits 0 ds : Int) else readDigits 0 ds)

/-- A date, a time or both. -/
def moment? (cs : List Char) : Option Toml :=
  if isMoment cs then some (moment (String.ofList cs)) else none

/-- A number that may have a sign. -/
def signed? (negative : Bool) : List Char → Option Toml
  | ['i', 'n', 'f'] => some (float (if negative then -(1.0 / 0.0) else 1.0 / 0.0))
  | ['n', 'a', 'n'] => some (float (0.0 / 0.0))
  | cs => number? negative cs

/-- The value of a word that is no text. -/
def scalar? : List Char → Option Toml
  | ['t', 'r', 'u', 'e'] => some (bool true)
  | ['f', 'a', 'l', 's', 'e'] => some (bool false)
  | '0' :: 'x' :: cs => based? 16 cs
  | '0' :: 'o' :: cs => based? 8 cs
  | '0' :: 'b' :: cs => based? 2 cs
  | '+' :: cs => signed? false cs
  | '-' :: cs => signed? true cs
  | cs => (signed? false cs).orElse fun _ => moment? cs

/-- The value of a key in a table. -/
def get? (key : String) (entries : List (String × Toml)) : Option Toml :=
  (entries.find? fun e => e.1 = key).map (·.2)

end Toml

end LintVerdict
