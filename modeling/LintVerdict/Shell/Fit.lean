/-!
# Shell patterns

## Main definitions

* `Fit`: the parts of a pattern.
* `Fit.ofChars`: the pattern of some characters, of which quoted ones stand for themselves.
* `fits`: whether a text fits a pattern.
-/

namespace LintVerdict.Shell

/-- A part of a pattern. -/
inductive Fit where
  /-- One certain character. -/
  | one (c : Char)
  /-- Any character. -/
  | any
  /-- Any characters. -/
  | many
  /-- A character that is in some ranges, or in none of them. -/
  | member (negated : Bool) (ranges : List (Char × Char))
  deriving DecidableEq, Repr

namespace Fit

/-- The characters of a text with the mark that they are not quoted. -/
def plain (cs : List Char) : List (Char × Bool) := cs.map fun c => (c, false)

/-- Reads ranges up to a closing bracket. A dash right before the bracket stands for itself. -/
def readRanges (acc : List (Char × Char)) (first : Bool) :
    List (Char × Bool) → Option (List (Char × Char) × List (Char × Bool))
  | [] => none
  | [(a, q)] => if a = ']' && !q && !first then some (acc.reverse, []) else none
  | (a, q) :: ('-', false) :: (b, p) :: rest =>
    if a = ']' && !q && !first then some (acc.reverse, ('-', false) :: (b, p) :: rest)
    else if b = ']' && !p then some ((('-', '-') :: (a, a) :: acc).reverse, rest)
    else readRanges ((a, b) :: acc) false rest
  | (a, q) :: c :: rest =>
    if a = ']' && !q && !first then some (acc.reverse, c :: rest)
    else readRanges ((a, a) :: acc) false (c :: rest)

/-- Reads what stands behind an opening bracket. -/
def readMember (cs : List (Char × Bool)) : Option (Fit × List (Char × Bool)) :=
  match cs with
  | ('!', false) :: rest => (readRanges [] true rest).map fun (rs, rest) => (member true rs, rest)
  | ('^', false) :: rest => (readRanges [] true rest).map fun (rs, rest) => (member true rs, rest)
  | _ => (readRanges [] true cs).map fun (rs, rest) => (member false rs, rest)

/-- The pattern of characters that are each quoted or not. -/
def ofChars : Nat → List (Char × Bool) → List Fit
  | 0, _ => []
  | _, [] => []
  | budget + 1, (c, quoted) :: rest =>
    if quoted then one c :: ofChars budget rest
    else if c = '?' then any :: ofChars budget rest
    else if c = '*' then many :: ofChars budget rest
    else if c = '[' then
      match readMember rest with
      | some (m, rest) => m :: ofChars budget rest
      | none => one c :: ofChars budget rest
    else one c :: ofChars budget rest

/-- The pattern of characters. -/
def pattern (cs : List (Char × Bool)) : List Fit := ofChars (cs.length + 1) cs

/-- Whether one character fits one part. -/
def takes : Fit → Char → Bool
  | one a, c => a = c
  | any, _ => true
  | many, _ => true
  | member negated ranges, c => negated != ranges.any fun r => r.1 ≤ c && c ≤ r.2

end Fit

/-- Whether a text fits a pattern. -/
def fits : List Fit → List Char → Bool
  | [], cs => cs.isEmpty
  | .many :: ps, [] => fits ps []
  | .many :: ps, c :: cs => fits ps (c :: cs) || fits (.many :: ps) cs
  | _ :: _, [] => false
  | p :: ps, c :: cs => p.takes c && fits ps cs
  termination_by ps cs => (ps.length, cs.length)

/-- Whether characters hold anything that makes them a pattern. -/
def hasPattern (cs : List (Char × Bool)) : Bool :=
  cs.any fun c => !c.2 && (c.1 = '*' || c.1 = '?' || c.1 = '[')

end LintVerdict.Shell
