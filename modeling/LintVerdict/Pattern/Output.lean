import LintVerdict.Decimal.Numeral
import LintVerdict.Finding
import LintVerdict.Pattern.Expr.Meaning
import LintVerdict.Pattern.Expr.Reader
import LintVerdict.Pattern.Program

/-!
# Output patterns

An output pattern picks the findings out of what a linter printed. It is a regular expression
whose named groups `path`, `line`, `col` and `message` hold the parts of a finding; `path` is
required. Two shorthands stand for the usual shape `file.go:line:column: message`.

## Main definitions

* `OutputPattern.parse`: reads a pattern, or tells why it cannot be used.
* `OutputPattern.findings`: the findings of an output, one a match that has a path.
-/

namespace LintVerdict

open Pattern (Regex Program Match)

/-- Why an output pattern cannot be used. -/
inductive PatternError where
  /-- The expression cannot be compiled. -/
  | invalid (pattern : String) (reason : String)
  /-- The expression has no group named `path`. -/
  | missingPath (pattern : String)
  deriving DecidableEq, Repr

namespace PatternError

/-- The message of a pattern error. -/
def message : PatternError → String
  | invalid pattern reason => "invalid output pattern '" ++ pattern ++ "': " ++ reason
  | missingPath pattern => "output pattern '" ++ pattern ++ "' has no named 'path' group"

end PatternError

/-- A usable output pattern. -/
structure OutputPattern where
  /-- The pattern as it was declared. -/
  source : String
  /-- What it matches. -/
  regex : Regex
  /-- The numbers of its named groups. -/
  names : List (String × Nat)
  deriving DecidableEq, Repr

namespace OutputPattern

/-- The expression behind `PATH:LINE:COL:MESSAGE`. -/
def lineAndColumn : String :=
  "^(?P<path>.*?\\.go):(?P<line>\\d+):(?P<col>\\d+):\\s*(?P<message>.*)$"

/-- The expression behind `PATH:LINE:MESSAGE`. -/
def lineOnly : String := "^(?P<path>.*?\\.go):(?P<line>\\d+):\\s*(?P<message>.*)$"

/-- The expression that a declared pattern means: what stands between blanks at its ends, with
the shorthands spelled out. -/
def expand (pattern : String) : String :=
  let trimmed := Text.trim pattern
  if trimmed = "PATH:LINE:COL:MESSAGE" then lineAndColumn
  else if trimmed = "PATH:LINE:MESSAGE" then lineOnly
  else trimmed

/-- Why an expression that does not follow the grammar is refused. -/
def malformed : String := "regex parse error: the expression is not well formed"

/-- Why an expression that takes too much room is refused. -/
def tooLarge : String :=
  "Compiled regex exceeds size limit of " ++ toString Pattern.weightLimit ++ " bytes."

/-- The expression of a text with the numbers of its named groups, or why there is none. A
group that the expression repeats zero times is not in it. -/
def compile (text : String) : Except String (Regex × List (String × Nat)) :=
  match Pattern.ReadPattern.ofText? text with
  | none => .error malformed
  | some read =>
    match read.expr.regex? Pattern.Flags.output with
    | none => .error malformed
    | some regex =>
      if Pattern.weightLimit < regex.weight then .error tooLarge
      else
        let present := regex.groups
        .ok (regex, read.names.filter fun n => present.contains n.2)

/-- Reads a pattern. -/
def parse (pattern : String) : Except PatternError OutputPattern :=
  match compile (expand pattern) with
  | .error reason => .error (.invalid pattern reason)
  | .ok (regex, names) =>
    if names.any fun n => n.1 = "path" then .ok ⟨pattern, regex, names⟩
    else .error (.missingPath pattern)

/-- The matches of a pattern in a text, in order. -/
def matchesIn (p : OutputPattern) (text : Array Char) : List Match :=
  (Program.ofRegex p.regex).allMatches text

/-- The text of a named group in a match, if the group took part. -/
def groupText? (p : OutputPattern) (text : Array Char) (m : Match) (name : String) :
    Option (List Char) := do
  let (_, index) ← p.names.find? fun n => n.1 = name
  let (first, last) ← m.group? index
  return (text.extract first last).toList

/-- The characters, if there are any. -/
def nonempty? (cs : List Char) : Option (List Char) := if cs.isEmpty then none else some cs

/-- What a group of digits says: a number below `2 ^ 64`. -/
def number? (cs : List Char) : Option Nat := Decimal.boundedNat? Decimal.word64 cs

/-- The message of a finding whose match holds none. -/
def defaultMessage (fallback : Option String) : String := fallback.getD "issue reported"

/-- The finding of a match, if its path is not blank. -/
def finding? (p : OutputPattern) (linter : String) (fallback : Option String)
    (text : Array Char) (m : Match) : Option Finding := do
  let path ← nonempty? (Text.trimChars (← p.groupText? text m "path"))
  let message := (p.groupText? text m "message").bind fun cs => nonempty? (Text.trimChars cs)
  return { linter
           path := String.ofList path
           line := (p.groupText? text m "line").bind number?
           column := (p.groupText? text m "col").bind number?
           message := (message.map String.ofList).getD (defaultMessage fallback) }

/-- The findings of an output, in its order. -/
def findings (p : OutputPattern) (linter : String) (output : String) (fallback : Option String) :
    List Finding :=
  let text := output.toList.toArray
  (p.matchesIn text).filterMap (p.finding? linter fallback text)

end OutputPattern

end LintVerdict
