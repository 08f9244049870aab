import LintVerdict.Pattern.Output
import LintVerdict.Proofs.Pattern.Matches

/-!
# The shorthands of output patterns

Two shorthands stand for the usual shapes of a diagnostic. The file says which expressions they
are read as, and which characters the sets in these expressions hold.

## Main definitions

* `Shorthand`: the two shorthands.
* `Shorthand.regex`: what a shorthand matches.

## Main results

* `Shorthand.parse_name`: a shorthand is read as its expression.
-/

namespace LintVerdict

open Pattern (CharSet Expr Flags ReadPattern Regex dotSet)

/-- The shorthands for the usual shapes of a diagnostic. -/
inductive Shorthand where
  /-- The path, the line, the column and the message. -/
  | lineAndColumn
  /-- The path, the line and the message. -/
  | lineOnly
  deriving DecidableEq, Repr

/-- A character that does not end a line. -/
def inLine (c : Char) : Bool := c ≠ '\r' && c ≠ '\n'

/-- The set of the characters that do not end a line. -/
def lineSet : CharSet := ⟨[(0, 9), (11, 12), (14, Unicode.Table.lastCode)]⟩

/-! ### The sets of characters -/

theorem eq_of_not_inLine {c : Char} (h : inLine c = false) : c = '\r' ∨ c = '\n' := by
  simpa [inLine, or_iff_not_imp_left] using h

theorem inLine_of_not_blank {c : Char} (h : Text.isBlank c = false) : inLine c = true := by
  by_contra hc
  obtain rfl | rfl := eq_of_not_inLine (by simpa using hc) <;> exact absurd h (by decide)

theorem has_lineSet (c : Char) : lineSet.has c = inLine c := by
  have hc := Pattern.toNat_le_lastCode c
  simp only [CharSet.has, lineSet, CharSet.hasCode, inLine, ← Char.toNat_inj, ne_eq]
  rw [Bool.eq_iff_iff]
  simp
  omega

theorem has_single (a c : Char) : (CharSet.single a).has c = decide (c = a) := by
  simp only [CharSet.has, CharSet.single, CharSet.hasCode, ← Char.toNat_inj]
  rw [Bool.eq_iff_iff]
  simp
  omega

theorem has_spaces (c : Char) : CharSet.spaces.has c = Text.isBlank c := by
  simp only [CharSet.has, CharSet.spaces, CharSet.hasCode, Text.isBlank]
  rw [Bool.eq_iff_iff]
  simp
  omega

/-- Below the second writing system with digits of its own, the digits are those of ASCII. -/
theorem has_digits {c : Char} (h : c.toNat < 1632) :
    CharSet.digits.has c = Decimal.isDigit c := by
  have hd : Decimal.isDigit c = (decide (48 ≤ c.toNat) && decide (c.toNat ≤ 57)) := rfl
  obtain ⟨hi, rest, hranges⟩ :
      ∃ hi rest, Unicode.decimalDigits = (48, 57) :: (1632, hi) :: rest := ⟨_, _, rfl⟩
  rw [hd, CharSet.has, CharSet.digits, hranges, CharSet.hasCode, CharSet.hasCode, if_pos h,
    Bool.eq_iff_iff]
  simp

theorem dotSet_output : dotSet Flags.output = lineSet := by
  simp [dotSet, Flags.output, CharSet.ofRanges, CharSet.complement, List.mergeSort,
    List.MergeSort.Internal.splitInTwo, CharSet.join, CharSet.joinOnto, CharSet.gaps, lineSet,
    Unicode.Table.lastCode]

/-! ### The expressions -/

/-- One colon. -/
def colon : Regex := .chars (.single ':')

/-- The end of a path. -/
def extension : Regex :=
  .cat (.chars (.single '.')) (.cat (.chars (.single 'g')) (.chars (.single 'o')))

/-- As few characters of a line as there can be, and the end of a path. -/
def pathPart : Regex := .group 1 (.cat (.star false (.chars lineSet)) extension)

/-- A number under a group, a colon, and a further expression. -/
def numberPart (group : Nat) (rest : Regex) : Regex :=
  .cat (.group group (.plus true (.chars .digits))) (.cat colon rest)

/-- Blanks, and the rest of a line under a group. -/
def messagePart (group : Nat) : Regex :=
  .cat (.star true (.chars .spaces))
    (.cat (.group group (.star true (.chars lineSet))) (.look .lineEnd))

namespace Shorthand

/-- How a shorthand is written. -/
def name : Shorthand → String
  | lineAndColumn => "PATH:LINE:COL:MESSAGE"
  | lineOnly => "PATH:LINE:MESSAGE"

/-- What stands behind the path and its colon. -/
def numbers : Shorthand → Regex
  | lineAndColumn => numberPart 2 (numberPart 3 (messagePart 4))
  | lineOnly => numberPart 2 (messagePart 3)

/-- What a shorthand matches. -/
def regex (s : Shorthand) : Regex :=
  .cat (.look .lineStart) (.cat pathPart (.cat colon s.numbers))

/-- The numbers of the named groups. -/
def names : Shorthand → List (String × Nat)
  | lineAndColumn => [("path", 1), ("line", 2), ("col", 3), ("message", 4)]
  | lineOnly => [("path", 1), ("line", 2), ("message", 3)]

/-- The usable pattern that a shorthand is. -/
def pattern (s : Shorthand) : OutputPattern := ⟨s.name, s.regex, s.names⟩

/-! ### Reading a shorthand -/

/-- A number under a group, as it is written. -/
def numberExpr (group : Nat) : Expr :=
  .group group (.repeated 1 none true (.cls (.letter false .digit)))

/-- The parts of a shorthand behind the path and its colon, as they are written. -/
def numberExprs : Shorthand → List Expr
  | lineAndColumn =>
    [numberExpr 2, .char ':' false, numberExpr 3, .char ':' false,
      .repeated 0 none true (.cls (.letter false .space)),
      .group 4 (.repeated 0 none true .dot), .assertion .lineEnd]
  | lineOnly =>
    [numberExpr 2, .char ':' false, .repeated 0 none true (.cls (.letter false .space)),
      .group 3 (.repeated 0 none true .dot), .assertion .lineEnd]

/-- What a shorthand spells out. -/
def expr (s : Shorthand) : Expr :=
  .sequence (.assertion .lineStart ::
    .group 1 (.sequence [.repeated 0 none false .dot, .char '.' false, .char 'g' false,
      .char 'o' false]) :: .char ':' false :: s.numberExprs)

theorem read_name (s : Shorthand) :
    ReadPattern.ofText? (OutputPattern.expand s.name) = some ⟨s.expr, s.names⟩ := by
  have hread : ∀ s ∈ [lineAndColumn, lineOnly],
      ReadPattern.ofText? (OutputPattern.expand s.name) = some ⟨s.expr, s.names⟩ := by
    decide +kernel
  exact hread s (by cases s <;> decide)

theorem regex?_expr (s : Shorthand) : s.expr.regex? Flags.output = some s.regex := by
  have hdot : dotSet ⟨false, true, false, false, true, true⟩ = lineSet := dotSet_output
  cases s <;>
    simp [expr, numberExprs, numberExpr, regex, pathPart, extension, colon, numbers, numberPart,
      messagePart, Expr.regex?, Expr.sequence, Expr.regexWith?, Flags.output, hdot,
      Pattern.charSet?, CharSet.fold, Pattern.ClassExpr.set?, Pattern.wholeChars?,
      CharSet.negateIf, Pattern.ClassLetter.set, Pattern.Assertion.look, Regex.repeated,
      Regex.onlyEmpty, Regex.atLeast]

theorem compile_name (s : Shorthand) :
    OutputPattern.compile (OutputPattern.expand s.name) = .ok (s.regex, s.names) := by
  have hweight : ¬Pattern.weightLimit < s.regex.weight := by
    cases s <;> decide
  have hnames : (s.names.filter fun n => s.regex.groups.contains n.2) = s.names := by
    cases s <;> rfl
  rw [OutputPattern.compile, read_name]
  dsimp only
  rw [regex?_expr]
  dsimp only
  rw [if_neg hweight, hnames]

/-- A shorthand is read as its expression. -/
theorem parse_name (s : Shorthand) : OutputPattern.parse s.name = .ok s.pattern := by
  delta OutputPattern.parse
  rw [compile_name]
  cases s <;> rfl

/-- The parts of a shorthand are such that its program finds the successive matches. -/
theorem matchesIn_eq (s : Shorthand) (text : Array Char) :
    s.pattern.matchesIn text = s.regex.scan text 0 := by
  refine Pattern.Program.allMatches_ofRegex ?_ ?_ ?_ text
  · cases s <;> rfl
  · cases s <;> rfl
  · cases s <;> decide

end Shorthand

end LintVerdict
