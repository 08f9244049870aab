import LintVerdict.Proofs.Pattern.Shorthand

/-!
# Patterns part by part

A pattern that is written without flags is a row of parts, and each part means the same wherever
it stands. The file names the parts that output patterns are made of, each as it is written and
with what it matches.

## Main definitions

* `Part`: a part of a pattern.
* `Part.row`: parts one after the other.

## Main results

* `Part.regexWith?_sequence`: a row of parts matches the parts in turn.
* `Part.expand_eq_self`: a pattern that is no shorthand stands for itself.
* `Part.parse_of_read`: a pattern that is written as a part is usable.
-/

namespace LintVerdict

open Pattern (CharSet ClassExpr Expr Flags ReadPattern Regex dotSet)

/-- Expressions one after the other. -/
def Pattern.Regex.sequence : List Regex → Regex
  | [] => .empty
  | [r] => r
  | r :: rest => .cat r (sequence rest)

/-- A part of a pattern, as it is written and with what it matches. -/
structure Part where
  /-- How the part is written. -/
  expr : Expr
  /-- What the part matches. -/
  regex : Regex
  /-- It does so under the flags of an output pattern, and leaves them as they are. -/
  means : expr.regexWith? Flags.output = some (regex, Flags.output)

namespace Part

/-! ### Places and characters -/

/-- The start of a line. -/
def lineStart : Part := ⟨.assertion .lineStart, .look .lineStart, rfl⟩

/-- The end of a line. -/
def lineEnd : Part := ⟨.assertion .lineEnd, .look .lineEnd, rfl⟩

/-- A character that stands for itself. -/
def char (c : Char) : Part := ⟨.char c false, .chars (.single c), rfl⟩

/-- A dot: a character that does not end a line. -/
def dot : Part where
  expr := .dot
  regex := .chars lineSet
  means := by rw [← dotSet_output]; rfl

/-- A digit. -/
def digit : Part := ⟨.cls (.letter false .digit), .chars .digits, rfl⟩

/-- A blank. -/
def blank : Part := ⟨.cls (.letter false .space), .chars .spaces, rfl⟩

/-- A character that is not blank. -/
def notBlank : Part := ⟨.cls (.letter true .space), .chars CharSet.spaces.complement, rfl⟩

/-- A character that is not blank, in brackets. -/
def notBlankInBrackets : Part :=
  ⟨.cls (.bracket true (.letter false .space)), .chars CharSet.spaces.complement, rfl⟩

/-- Any character but one. -/
def other (c : Char) : Part :=
  ⟨.cls (.bracket true (.char c false)), .chars (CharSet.single c).complement, rfl⟩

/-- A blank, with the tabulator written out although it is one. -/
def blankOrTab : Part where
  expr := .cls (.bracket false (.union (.letter false .space) (.char '\t' false)))
  regex := .chars .spaces
  means := by
    have hunion : CharSet.spaces.union (.single '\t') = .spaces := by
      simp [CharSet.union, CharSet.ofRanges, CharSet.spaces, CharSet.single, List.mergeSort,
        List.MergeSort.Internal.splitInTwo, CharSet.join, CharSet.joinOnto]
    conv_rhs => rw [← hunion]
    rfl

/-! ### Parts of parts -/

/-- A repeated part. -/
def repeated (min : Nat) (max : Option Nat) (greedy : Bool) (p : Part) : Part where
  expr := .repeated min max greedy p.expr
  regex := p.regex.repeated min max greedy
  means := by
    rw [Expr.regexWith?, p.means]
    cases greedy <;> rfl

/-- A part that is remembered under a number. -/
def group (n : Nat) (p : Part) : Part where
  expr := .group n p.expr
  regex := .group n p.regex
  means := by
    rw [Expr.regexWith?, p.means]
    rfl

/-- A part in parentheses that are not remembered. -/
def plain (p : Part) : Part where
  expr := .flagged [] p.expr
  regex := p.regex
  means := by
    rw [Expr.regexWith?, Flags.apply, List.foldl_nil, p.means]
    rfl

theorem regexWith?_sequence (ps : List Part) :
    (Expr.sequence (ps.map expr)).regexWith? Flags.output =
      some (Regex.sequence (ps.map regex), Flags.output) := by
  induction ps with
  | nil => rfl
  | cons p ps ih =>
      cases ps with
      | nil => exact p.means
      | cons q ps =>
          simp only [List.map_cons, Expr.sequence, Regex.sequence, Expr.regexWith?] at ih ⊢
          simp only [p.means, Option.bind_eq_bind, Option.bind_some, ih]
          rfl

/-- Parts one after the other. -/
def row (ps : List Part) : Part :=
  ⟨Expr.sequence (ps.map expr), Regex.sequence (ps.map regex), regexWith?_sequence ps⟩

/-- What a part matches by itself. -/
theorem regex?_expr (p : Part) : p.expr.regex? Flags.output = some p.regex := by
  rw [Expr.regex?, p.means]
  rfl

/-- A pattern without blanks at its ends that does not begin like a shorthand stands for
itself. The characters are given, since taking them from the text is slow to check. -/
theorem expand_eq_self {pattern : String} {cs : List Char} (hchars : pattern.toList = cs)
    (htrim : Text.trimChars cs = cs) (hhead : cs.head? ≠ some 'P') :
    OutputPattern.expand pattern = pattern := by
  have htext : Text.trim pattern = pattern := by
    rw [Text.trim, hchars, htrim, ← hchars, String.ofList_toList]
  have hne : ∀ rest : List Char, pattern ≠ String.ofList ('P' :: rest) := by
    rintro rest rfl
    rw [String.toList_ofList] at hchars
    exact hhead (hchars ▸ rfl)
  rw [OutputPattern.expand, htext]
  exact (if_neg (hne _)).trans (if_neg (hne _))

/-- **A pattern is usable** if it is written as a part whose group `path` is in it. -/
theorem parse_of_read {p : Part} {pattern : String} {names : List (String × Nat)}
    (hread : ReadPattern.ofText? (OutputPattern.expand pattern) = some ⟨p.expr, names⟩)
    (hweight : p.regex.weight ≤ Pattern.weightLimit)
    (hnames : ∀ n ∈ names, n.2 ∈ p.regex.groups) (hpath : "path" ∈ names.map Prod.fst) :
    OutputPattern.parse pattern = .ok ⟨pattern, p.regex, names⟩ := by
  have hpresent : (names.filter fun n => p.regex.groups.contains n.2) = names :=
    List.filter_eq_self.mpr fun n hn => List.contains_iff_mem.mpr (hnames n hn)
  have hcompile : OutputPattern.compile (OutputPattern.expand pattern) =
      .ok (p.regex, names) := by
    rw [OutputPattern.compile, hread]
    dsimp only
    rw [regex?_expr]
    dsimp only
    rw [if_neg (Nat.not_lt.mpr hweight), hpresent]
  have hany : (names.any fun n => n.1 = "path") = true := by
    simpa using hpath
  delta OutputPattern.parse
  rw [hcompile]
  dsimp only
  rw [if_pos hany]

end Part

end LintVerdict
