import LintVerdict.Json.Value
import LintVerdict.Report
import LintVerdict.Report.Style

/-!
# Report formats

A report is shown as plain lines, as a JSON document, or as the annotation lines that a
continuous-integration service reads.

## Main definitions

* `OutputFormat`: the formats, and `OutputFormat.ofName?` for their names.
* `Formatter`: a format together with the choice of colours.
* `Formatter.report`, `Formatter.summary?`: the text of a report and its one-line summary.
-/

namespace LintVerdict

/-- The ways to show a report. -/
inductive OutputFormat where
  /-- One line a finding, for people. -/
  | text
  /-- One JSON document. -/
  | json
  /-- One workflow command a finding. -/
  | github
  deriving DecidableEq, Repr

/-- The format of a name, upper and lower case alike. No letter outside ASCII has a lower case
form that occurs in the names, so ASCII case is enough. -/
def OutputFormat.ofName? (s : String) : Option OutputFormat :=
  match String.ofList (s.toList.map Char.toLower) with
  | "text" => some .text
  | "json" => some .json
  | "github" => some .github
  | _ => none

/-- The message for a name that no format has. -/
def unknownFormatMessage (s : String) : String := "Unknown output format: " ++ s

namespace Finding

/-- The one-line form with the parts in their styles. -/
def styled (f : Finding) : String :=
  let place := Style.path.paint f.path
  let place :=
    match f.line, f.column with
    | none, _ => place
    | some l, none => place ++ ":" ++ Style.number.paint (toString l)
    | some l, some c =>
      place ++ ":" ++ Style.number.paint (toString l) ++ ":" ++ Style.number.paint (toString c)
  place ++ ": " ++ f.message ++ " " ++ Style.linter.paint ("(" ++ f.linter ++ ")")

/-- The finding as a JSON object; an absent line or column has no member. -/
def toJson (f : Finding) : Json :=
  .obj ([("linter", .str f.linter), ("path", .str f.path)] ++
    (f.line.map fun n => ("line", Json.int n)).toList ++
    (f.column.map fun n => ("column", Json.int n)).toList ++
    [("message", .str f.message)])

end Finding

/-- The JSON value of an exit code. -/
def exitCodeJson : Option Int → Json
  | none => .null
  | some n => .int n

/-- The failing run as a JSON object. -/
def FailedRun.toJson (r : FailedRun) : Json :=
  .obj [("scope", .str r.scope), ("linter", .str r.linter), ("exit_code", exitCodeJson r.exitCode)]

/-- The report as a JSON object. -/
def Report.toJson (r : Report) : Json :=
  .obj [("outcome", .str r.outcome.name), ("findings", .arr (r.findings.map Finding.toJson)),
    ("failed", .arr (r.failed.map FailedRun.toJson)), ("checked", .int r.checked)]

/-!
### Annotation lines

A workflow log reads one command a line. A property ends at a comma or a colon and a message at
the line's end, so these characters are written as percent escapes.
-/

namespace Workflow

/-- A character inside a message. -/
def escapeData (c : Char) : List Char :=
  if c = '%' then ['%', '2', '5']
  else if c = '\r' then ['%', '0', 'D']
  else if c = '\n' then ['%', '0', 'A']
  else [c]

/-- A character inside a property. -/
def escapeProperty (c : Char) : List Char :=
  if c = ':' then ['%', '3', 'A']
  else if c = ',' then ['%', '2', 'C']
  else escapeData c

/-- A text as a message. -/
def data (s : String) : String := String.ofList (s.toList.flatMap escapeData)

/-- A text as a property. -/
def property (s : String) : String := String.ofList (s.toList.flatMap escapeProperty)

/-- The properties that give a finding's line and column. A column needs a line. -/
def position (f : Finding) : String :=
  match f.line, f.column with
  | none, _ => ""
  | some l, none => ",line=" ++ toString l
  | some l, some c => ",line=" ++ toString l ++ ",col=" ++ toString c

/-- The annotation of a finding. -/
def annotate (f : Finding) : String :=
  "::error file=" ++ property f.path ++ position f ++ ",title=" ++ property f.linter ++ "::" ++
    data f.message

end Workflow

/-- The summary of a report. -/
def Report.summary (r : Report) : String :=
  if r.isOk then "No issues found (" ++ toString r.checked ++ " check(s) run)"
  else
    "Found " ++ toString r.findings.length ++ " issue(s) from " ++
      Text.joinWith ", " (r.failed.map fun f => f.linter ++ " on " ++ f.scope)

/-- A format with the choice of colours, which only the text format heeds. -/
structure Formatter where
  /-- The format. -/
  format : OutputFormat
  /-- Whether text is coloured. -/
  colors : Bool
  deriving DecidableEq, Repr

namespace Formatter

/-- The text of a report, without a line feed at its end. -/
def report (f : Formatter) (r : Report) : String :=
  match f.format with
  | .text =>
    Text.joinWith "\n" (r.findings.map fun x => if f.colors then x.styled else x.display)
  | .json => r.toJson.pretty
  | .github => Text.joinWith "\n" (r.findings.map Workflow.annotate)

/-- The summary line, which only the text format has. -/
def summary? (f : Formatter) (r : Report) : Option String :=
  match f.format with
  | .text =>
    some <|
      if f.colors then (if r.isOk then Style.good else Style.bad).paint r.summary else r.summary
  | .json => none
  | .github => none

end Formatter

end LintVerdict
