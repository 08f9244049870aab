import LintVerdict.Proofs.Pattern.Avoid
import LintVerdict.Proofs.Pattern.Part

/-!
# The patterns of the built-in linters

Most built-in linters have a shorthand for a pattern, and eight patterns are written out. The
file takes those apart and tells which line ends the paths of their findings may hold: a path
that is written as a run of anything but colons may run over the ends of lines.

## Main definitions

* `BuiltinPattern`: the patterns that are written out.
* `BuiltinPattern.lineEnds`: the line ends that a path may hold.

## Main results

* `BuiltinPattern.parse_text`: the patterns are usable, and what they match.
* `BuiltinPattern.mem_path_iff`: exactly the line ends of the list come up in paths.
* `Shorthand.inLine_path`: none comes up in the paths of a shorthand.
-/

namespace LintVerdict

open Pattern (Program ReadPattern Regex)

/-- The patterns of the built-in linters that are no shorthands. -/
inductive BuiltinPattern where
  /-- That of `aligncheck` and `structcheck`. -/
  | withColumn
  /-- That of `deadcode`. -/
  | deadcode
  /-- That of `dupl`. -/
  | dupl
  /-- That of `gocyclo`. -/
  | gocyclo
  /-- That of `gofmt`. -/
  | gofmt
  /-- That of `test`. -/
  | test
  /-- That of `testify`. -/
  | testify
  /-- That of `varcheck`. -/
  | varcheck
  deriving DecidableEq, Repr

namespace BuiltinPattern

/-- How the pattern is written. -/
def text : BuiltinPattern → String
  | withColumn =>
    "^(?:[^:]+: )?(?P<path>[^:]+):(?P<line>\\d+):(?P<col>\\d+):\\s*(?P<message>.+)$"
  | deadcode => "^deadcode: (?P<path>.*?\\.go):(?P<line>\\d+):(?P<col>\\d+):\\s*(?P<message>.*)$"
  | dupl => "^(?P<path>[^\\s][^:]+?\\.go):(?P<line>\\d+)-\\d+:\\s*(?P<message>.*)$"
  | gocyclo =>
    "^(?P<cyclo>\\d+)\\s+\\S+\\s(?P<function>\\S+)\\s+(?P<path>[^:]+):(?P<line>\\d+):(\\d+)$"
  | gofmt => "^(?P<path>[^\\n]+)$"
  | test => "^--- FAIL: .*$\\s+(?P<path>[^:]+):(?P<line>\\d+): (?P<message>.*)$"
  | testify =>
    "Location:\\s+(?P<path>[^:]+):(?P<line>\\d+)$\\s+Error:\\s+(?P<message>[^\\n]+)"
  | varcheck =>
    "^(?:[^:]+: )?(?P<path>[^:]+):(?P<line>\\d+):(?P<col>\\d+):[\\s\\t]+(?P<message>.*)$"

/-! ### The parts -/

/-- A part at least once, as often as it goes. -/
def many (p : Part) : Part := p.repeated 1 none true

/-- A part any number of times, as often as it goes. -/
def any (p : Part) : Part := p.repeated 0 none true

/-- Characters that stand for themselves. -/
def literal (s : String) : List Part := s.toList.map Part.char

/-- A number under a group. -/
def number (n : Nat) : Part := .group n (many .digit)

/-- The package that may stand before a path. -/
def package : Part :=
  (Part.plain (.row (many (.other ':') :: literal ": "))).repeated 0 (some 1) true

/-- A path under a group, of anything but colons, and the colon behind it. -/
def path (n : Nat) : List Part := [.group n (many (.other ':')), .char ':']

/-- The line and the column under groups, each with a colon behind it. -/
def lineAndColumn : List Part := [number 2, .char ':', number 3, .char ':']

/-- The rest of a line under a group. -/
def message (n : Nat) : List Part := [.group n (any .dot), .lineEnd]

/-- The parts of the pattern. -/
def parts : BuiltinPattern → List Part
  | withColumn =>
    [.lineStart, package] ++ path 1 ++ lineAndColumn ++
      [any .blank, .group 4 (many .dot), .lineEnd]
  | deadcode =>
    .lineStart :: literal "deadcode: " ++
      [.group 1 (.row (Part.dot.repeated 0 none false :: literal ".go")), .char ':'] ++
      lineAndColumn ++ [any .blank] ++ message 4
  | dupl =>
    [.lineStart,
        .group 1 (.row (.notBlankInBrackets :: (Part.other ':').repeated 1 none false ::
          literal ".go")),
        .char ':', number 2, .char '-', many .digit, .char ':', any .blank] ++ message 3
  | gocyclo =>
    [.lineStart, number 1, many .blank, many .notBlank, .blank, .group 2 (many .notBlank),
        many .blank] ++ path 3 ++ [number 4, .char ':', number 5, .lineEnd]
  | gofmt => [.lineStart, .group 1 (many (.other '\n')), .lineEnd]
  | test =>
    .lineStart :: literal "--- FAIL: " ++ [any .dot, .lineEnd, many .blank] ++ path 1 ++
      [number 2] ++ literal ": " ++ message 3
  | testify =>
    literal "Location:" ++ [many .blank] ++ path 1 ++ [number 2, .lineEnd, many .blank] ++
      literal "Error:" ++ [many .blank, .group 3 (many (.other '\n'))]
  | varcheck =>
    [.lineStart, package] ++ path 1 ++ lineAndColumn ++ [many .blankOrTab] ++ message 4

/-- The numbers of the named groups. -/
def names : BuiltinPattern → List (String × Nat)
  | withColumn => [("path", 1), ("line", 2), ("col", 3), ("message", 4)]
  | deadcode => [("path", 1), ("line", 2), ("col", 3), ("message", 4)]
  | dupl => [("path", 1), ("line", 2), ("message", 3)]
  | gocyclo => [("cyclo", 1), ("function", 2), ("path", 3), ("line", 4)]
  | gofmt => [("path", 1)]
  | test => [("path", 1), ("line", 2), ("message", 3)]
  | testify => [("path", 1), ("line", 2), ("message", 3)]
  | varcheck => [("path", 1), ("line", 2), ("col", 3), ("message", 4)]

/-- What the pattern matches. -/
def regex (b : BuiltinPattern) : Regex := (Part.row b.parts).regex

/-- The usable pattern. -/
def pattern (b : BuiltinPattern) : OutputPattern := ⟨b.text, b.regex, b.names⟩

theorem expand_text (b : BuiltinPattern) : OutputPattern.expand b.text = b.text := by
  cases b <;> exact Part.expand_eq_self String.toList_ofList rfl (by decide)

theorem read_text (b : BuiltinPattern) :
    ReadPattern.ofText? b.text = some ⟨(Part.row b.parts).expr, b.names⟩ := by
  -- All are read in one check: the table of letters is then written out once only.
  have hread : ∀ b ∈ [withColumn, deadcode, dupl, gocyclo, gofmt, test, testify, varcheck],
      ReadPattern.ofText? b.text = some ⟨(Part.row b.parts).expr, b.names⟩ := by
    decide +kernel
  exact hread b (by cases b <;> decide)

/-- **The patterns are usable**, and match their parts in turn. -/
theorem parse_text (b : BuiltinPattern) : OutputPattern.parse b.text = .ok b.pattern := by
  refine Part.parse_of_read (by rw [expand_text, read_text]) ?_ ?_ ?_
  · cases b <;> decide
  · cases b <;> decide
  · cases b <;> simp [names]

theorem loopsAdvance_regex (b : BuiltinPattern) : b.regex.loopsAdvance = true := by
  cases b <;> rfl

/-- The program of a pattern finds the successive matches. -/
theorem matchesIn_eq (b : BuiltinPattern) (text : Array Char) :
    b.pattern.matchesIn text = b.regex.scan text 0 := by
  refine Program.allMatches_ofRegex (loopsAdvance_regex b) ?_ ?_ text
  · cases b <;> rfl
  · cases b <;> decide

/-! ### Line ends in paths -/

/-- The line ends that a path may hold. -/
def lineEnds : BuiltinPattern → List Char
  | deadcode => []
  | gofmt => ['\r']
  | _ => ['\r', '\n']

/-- The number of the group of the path. -/
def pathGroup : BuiltinPattern → Nat
  | gocyclo => 3
  | _ => 1

/-- An output with a path that holds all line ends that it may hold. -/
def crossing : BuiltinPattern → String
  | withColumn => "x\r\na.go:1:2: m"
  | deadcode => ""
  | dupl => "x\r\na.go:1-2: m"
  | gocyclo => "12 p f x\r\na.go:1:2"
  | gofmt => "a\rb"
  | test => "--- FAIL: T\n x\r\na.go:1: m"
  | testify => "Location: x\r\na.go:1\nError: m"
  | varcheck => "x\r\na.go:1:2: m"

/-- The paths in that output. -/
def crossingPaths : BuiltinPattern → List (List Char)
  | deadcode => []
  | gofmt => ["a\rb".toList]
  | _ => ["x\r\na.go".toList]

theorem avoidsIn_regex (b : BuiltinPattern) {c : Char} (hc : inLine c = false)
    (h : c ∉ b.lineEnds) : b.regex.avoidsIn b.pathGroup c = true := by
  obtain rfl | rfl := eq_of_not_inLine hc
  · cases b <;> first | rfl | exact absurd h (by decide)
  · cases b <;> first | rfl | exact absurd h (by decide)

theorem paths_crossing (b : BuiltinPattern) :
    (b.regex.scan b.crossing.toList.toArray 0).filterMap
      (b.pattern.path? b.crossing.toList.toArray) = b.crossingPaths := by
  cases b <;> decide +kernel

/-- **The line ends in paths**: a path may hold exactly those of the list. -/
theorem mem_path_iff (b : BuiltinPattern) (linter : String) (fallback : Option String) {c : Char}
    (hc : inLine c = false) :
    (∃ output, ∃ f ∈ b.pattern.findings linter output fallback, c ∈ f.path.toList) ↔
      c ∈ b.lineEnds := by
  constructor
  · rintro ⟨output, f, hf, hmem⟩
    by_contra h
    have hname : b.names.find? (fun n => n.1 = "path") = some ("path", b.pathGroup) := by
      cases b <;> rfl
    have hgroup : b.pathGroup ≠ 0 := by
      cases b <;> decide
    exact OutputPattern.notMem_path (loopsAdvance_regex b) hname hgroup
      (avoidsIn_regex b hc h) hf hmem
  · intro h
    have hall : ∀ c ∈ b.lineEnds, ∃ path ∈ b.crossingPaths, c ∈ path := by
      cases b <;> simp [lineEnds, crossingPaths]
    obtain ⟨path, hpath, hmem⟩ := hall c h
    rw [← paths_crossing, ← matchesIn_eq, List.mem_filterMap] at hpath
    obtain ⟨m, hm, hpath⟩ := hpath
    obtain ⟨f, hf, rfl⟩ := OutputPattern.exists_finding_iff.mpr ⟨m, hm, hpath⟩
    exact ⟨b.crossing, f, hf, hmem⟩

end BuiltinPattern

/-- **The paths of a shorthand** hold no line end. -/
theorem Shorthand.inLine_path (s : Shorthand) {linter output : String}
    {fallback : Option String} {f : Finding}
    (hf : f ∈ s.pattern.findings linter output fallback) :
    ∀ c ∈ f.path.toList, inLine c = true := by
  intro c hmem
  by_contra hc
  have hloops : s.regex.loopsAdvance = true := by
    cases s <;> rfl
  have hname : s.names.find? (fun n => n.1 = "path") = some ("path", 1) := by
    cases s <;> rfl
  have havoid : s.regex.avoidsIn 1 c = true := by
    obtain rfl | rfl := eq_of_not_inLine (Bool.eq_false_iff.mpr hc) <;> cases s <;> decide
  exact OutputPattern.notMem_path hloops hname (by decide) havoid hf hmem

end LintVerdict
