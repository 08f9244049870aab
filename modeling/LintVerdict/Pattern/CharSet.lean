import LintVerdict.Unicode.CaseFold
import LintVerdict.Unicode.Digit
import LintVerdict.Unicode.Word

/-!
# Sets of characters

A set of characters is a list of ranges of code points, in rising order and apart from each
other.

## Main definitions

* `CharSet`, `CharSet.has`: sets and membership.
* `CharSet.ofRanges`, `union`, `complement`, `inter`, `diff`, `symmDiff`: building sets.
* `CharSet.foldCase`: the set closed under simple case folding.
-/

namespace LintVerdict.Pattern

/-- A set of characters, by ranges of code points in rising order with gaps between them. -/
structure CharSet where
  /-- The first and last code points of the ranges. -/
  ranges : List (Nat × Nat)
  deriving DecidableEq, Repr

namespace CharSet

/-- Whether a code point lies in one of the ranges. The search ends at the first range that
begins above it. -/
def hasCode (n : Nat) : List (Nat × Nat) → Bool
  | [] => false
  | (lo, hi) :: rest => if n < lo then false else if n ≤ hi then true else hasCode n rest

/-- Whether a character is in the set. -/
def has (s : CharSet) (c : Char) : Bool := hasCode c.toNat s.ranges

/-- A range and further ones, ordered by their starts, the ones that touch or overlap joined. -/
def joinOnto (lo hi : Nat) : List (Nat × Nat) → List (Nat × Nat)
  | [] => [(lo, hi)]
  | (lo', hi') :: rest =>
    if lo' ≤ hi + 1 then joinOnto lo (max hi hi') rest else (lo, hi) :: joinOnto lo' hi' rest

/-- Ranges ordered by their starts, the ones that touch or overlap joined. -/
def join : List (Nat × Nat) → List (Nat × Nat)
  | [] => []
  | (lo, hi) :: rest => joinOnto lo hi rest

/-- The set of all characters in some ranges, which may come in any order and overlap. -/
def ofRanges (rs : List (Nat × Nat)) : CharSet :=
  ⟨join ((rs.filter fun r => r.1 ≤ r.2).mergeSort fun a b => a.1 ≤ b.1)⟩

/-- No character. -/
def empty : CharSet := ⟨[]⟩

/-- Every character. -/
def univ : CharSet := ⟨[(0, Unicode.Table.lastCode)]⟩

/-- One character. -/
def single (c : Char) : CharSet := ⟨[(c.toNat, c.toNat)]⟩

/-- The characters in one of two sets. -/
def union (s t : CharSet) : CharSet := ofRanges (s.ranges ++ t.ranges)

/-- The gaps between ranges, from a code point on. -/
def gaps (start : Nat) : List (Nat × Nat) → List (Nat × Nat)
  | [] => if start ≤ Unicode.Table.lastCode then [(start, Unicode.Table.lastCode)] else []
  | (lo, hi) :: rest =>
    if start < lo then (start, lo - 1) :: gaps (hi + 1) rest else gaps (hi + 1) rest

/-- The characters outside a set. -/
def complement (s : CharSet) : CharSet := ⟨gaps 0 s.ranges⟩

/-- The characters in both sets. -/
def inter (s t : CharSet) : CharSet := (s.complement.union t.complement).complement

/-- The characters in the first set and not in the second. -/
def diff (s t : CharSet) : CharSet := s.inter t.complement

/-- The characters in exactly one of two sets. -/
def symmDiff (s t : CharSet) : CharSet := (s.diff t).union (t.diff s)

/-- The set or its complement. -/
def negateIf (negated : Bool) (s : CharSet) : CharSet := if negated then s.complement else s

/-- The set together with every character that differs from one of its members only in case. -/
def foldCase (s : CharSet) : CharSet :=
  s.union (ofRanges
    ((Unicode.caseOrbits.filter fun o => o.any fun n => hasCode n s.ranges).flatten.map
      fun n => (n, n)))

/-- Decimal digits of all writing systems. -/
def digits : CharSet := ⟨Unicode.decimalDigits⟩

/-- Blank characters. -/
def spaces : CharSet :=
  ⟨[(9, 13), (0x20, 0x20), (0x85, 0x85), (0xA0, 0xA0), (0x1680, 0x1680), (0x2000, 0x200A),
    (0x2028, 0x2029), (0x202F, 0x202F), (0x205F, 0x205F), (0x3000, 0x3000)]⟩

/-- Word characters. -/
def word : CharSet := ⟨Unicode.wordRanges⟩

/-- ASCII digits. -/
def asciiDigits : CharSet := ⟨[(48, 57)]⟩

/-- ASCII blanks. -/
def asciiSpaces : CharSet := ⟨[(9, 13), (32, 32)]⟩

/-- ASCII word characters. -/
def asciiWord : CharSet := ⟨[(48, 57), (65, 90), (95, 95), (97, 122)]⟩

/-- ASCII characters. -/
def ascii : CharSet := ⟨[(0, 127)]⟩

/-- Whether all members are ASCII. -/
def isAscii (s : CharSet) : Bool := s.ranges.all fun r => r.2 < 128

/-- Whether a character is a word character. -/
def isWord (c : Char) : Bool := word.has c

/-- Whether a character is an ASCII word character. -/
def isAsciiWord (c : Char) : Bool := asciiWord.has c

end CharSet

end LintVerdict.Pattern
