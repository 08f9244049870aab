import LintVerdict.Proofs.FirstError
import LintVerdict.Proofs.Json.Pretty
import LintVerdict.Report.Format

/-!
# Reading report documents

A report in the JSON format is one object. The file says which members the object has, and gives a
reader that looks them up by name. An absent line or column has no member, and an absent exit code
is `null`, so the reader tells absent from present and gets the whole report back.

## Main definitions

* `Report.ShownBy`: what the members of a report's object are.
* `Report.ofJson?`: the report that an object shows.

## Main results

* `Report.ofJson?_of_shownBy`: a report is read from an object that shows it.
* `document_lossless`: a report is read from its document.
-/

namespace LintVerdict

namespace Json

/-- The names of the members of an object. -/
def names : Json → List String
  | obj members => members.map (·.1)
  | _ => []

/-- The text that a value is. -/
def text? : Json → Option String
  | str s => some s
  | _ => none

/-- The whole number that a value is. -/
def whole? : Json → Option Int
  | int n => some n
  | _ => none

/-- The natural number that a value is. -/
def nat? (v : Json) : Option Nat := v.whole?.bind Int.toNat?

/-- The elements of a list. -/
def items? : Json → Option (List Json)
  | arr items => some items
  | _ => none

/-- The natural number of a member that may be absent. -/
def optionalNat? (name : String) (v : Json) : Option (Option Nat) :=
  match v.member? name with
  | none => some none
  | some n => n.nat?.map some

end Json

/-! ### Readers -/

/-- The finding that an object shows. -/
def Finding.ofJson? (v : Json) : Option Finding := do
  return { linter := ← (← v.member? "linter").text?
           path := ← (← v.member? "path").text?
           line := ← v.optionalNat? "line"
           column := ← v.optionalNat? "column"
           message := ← (← v.member? "message").text? }

/-- The exit code that a value shows. -/
def exitCodeOfJson? : Json → Option (Option Int)
  | .null => some none
  | .int n => some (some n)
  | _ => none

/-- The failing run that an object shows. -/
def FailedRun.ofJson? (v : Json) : Option FailedRun := do
  return { scope := ← (← v.member? "scope").text?
           linter := ← (← v.member? "linter").text?
           exitCode := ← exitCodeOfJson? (← v.member? "exit_code") }

/-- The verdict of a word. -/
def Outcome.ofName? : String → Option Outcome
  | "clean" => some clean
  | "failed" => some failed
  | _ => none

/-- The report that an object shows. -/
def Report.ofJson? (v : Json) : Option Report := do
  return { outcome := ← Outcome.ofName? (← (← v.member? "outcome").text?)
           findings := ← (← (← v.member? "findings").items?).mapM Finding.ofJson?
           failed := ← (← (← v.member? "failed").items?).mapM FailedRun.ofJson?
           checked := ← (← v.member? "checked").nat? }

/-! ### Members -/

/-- The members of a finding's object: a line or a column has a member exactly if it is set. -/
structure Finding.ShownBy (f : Finding) (v : Json) : Prop where
  names_nodup : v.names.Nodup
  names_subset : v.names ⊆ ["linter", "path", "line", "column", "message"]
  linter : v.member? "linter" = some (.str f.linter)
  path : v.member? "path" = some (.str f.path)
  line : v.member? "line" = f.line.map fun n => .int n
  column : v.member? "column" = f.column.map fun n => .int n
  message : v.member? "message" = some (.str f.message)

/-- The members of a failing run's object: the exit code is `null` exactly if it is absent. -/
structure FailedRun.ShownBy (r : FailedRun) (v : Json) : Prop where
  names_nodup : v.names.Nodup
  names_subset : v.names ⊆ ["scope", "linter", "exit_code"]
  scope : v.member? "scope" = some (.str r.scope)
  linter : v.member? "linter" = some (.str r.linter)
  exitCode : v.member? "exit_code" = some (r.exitCode.elim .null .int)

/-- The members of a report's object, with the findings and the failing runs in their order. -/
structure Report.ShownBy (r : Report) (v : Json) : Prop where
  names_nodup : v.names.Nodup
  names_subset : v.names ⊆ ["outcome", "findings", "failed", "checked"]
  outcome : v.member? "outcome" = some (.str r.outcome.name)
  findings : ∃ vs, v.member? "findings" = some (.arr vs) ∧
    List.Forall₂ Finding.ShownBy r.findings vs
  failed : ∃ vs, v.member? "failed" = some (.arr vs) ∧ List.Forall₂ FailedRun.ShownBy r.failed vs
  checked : v.member? "checked" = some (.int r.checked)

variable {f : Finding} {x : FailedRun} {r : Report} {v : Json}

theorem Finding.shownBy_toJson (f : Finding) : f.ShownBy f.toJson := by
  obtain ⟨linter, path, line, column, message⟩ := f
  cases line <;> cases column <;> constructor <;> simp [Finding.toJson, Json.names, Json.member?]

theorem FailedRun.shownBy_toJson (x : FailedRun) : x.ShownBy x.toJson := by
  obtain ⟨scope, linter, exitCode⟩ := x
  cases exitCode <;> constructor <;>
    simp [FailedRun.toJson, exitCodeJson, Json.names, Json.member?]

theorem Report.shownBy_toJson (r : Report) : r.ShownBy r.toJson where
  names_nodup := by simp [Report.toJson, Json.names]
  names_subset := by simp [Report.toJson, Json.names]
  outcome := by simp [Report.toJson, Json.member?]
  findings := by
    refine ⟨r.findings.map Finding.toJson, by simp [Report.toJson, Json.member?], ?_⟩
    rw [List.forall₂_map_right_iff, List.forall₂_same]
    exact fun f _ => f.shownBy_toJson
  failed := by
    refine ⟨r.failed.map FailedRun.toJson, by simp [Report.toJson, Json.member?], ?_⟩
    rw [List.forall₂_map_right_iff, List.forall₂_same]
    exact fun x _ => x.shownBy_toJson
  checked := by simp [Report.toJson, Json.member?]

/-! ### Reading -/

theorem Json.nat?_int (n : Nat) : (Json.int n).nat? = some n :=
  rfl

theorem Json.optionalNat?_of_member? {name : String} {n : Option Nat}
    (h : v.member? name = n.map fun n => .int n) : v.optionalNat? name = some n := by
  rw [Json.optionalNat?, h]
  cases n <;> rfl

theorem Finding.ofJson?_of_shownBy (h : f.ShownBy v) : Finding.ofJson? v = some f := by
  simp [Finding.ofJson?, h.linter, h.path, Json.optionalNat?_of_member? h.line,
    Json.optionalNat?_of_member? h.column, h.message, Json.text?]

theorem FailedRun.ofJson?_of_shownBy (h : x.ShownBy v) : FailedRun.ofJson? v = some x := by
  have hcode : exitCodeOfJson? (x.exitCode.elim .null .int) = some x.exitCode := by
    cases x.exitCode <;> rfl
  simp [FailedRun.ofJson?, h.scope, h.linter, h.exitCode, hcode, Json.text?]

theorem Outcome.ofName?_name (o : Outcome) : Outcome.ofName? o.name = some o := by
  cases o <;> rfl

/-- A report is read from an object that shows it. -/
theorem Report.ofJson?_of_shownBy (h : r.ShownBy v) : Report.ofJson? v = some r := by
  obtain ⟨fs, hfindings, hfs⟩ := h.findings
  obtain ⟨xs, hfailed, hxs⟩ := h.failed
  have hfs := mapM_eq_some_iff.mpr (hfs.imp fun _ _ => Finding.ofJson?_of_shownBy).flip
  have hxs := mapM_eq_some_iff.mpr (hxs.imp fun _ _ => FailedRun.ofJson?_of_shownBy).flip
  simp [Report.ofJson?, h.outcome, hfindings, hfailed, h.checked, Json.text?, Json.items?,
    Outcome.ofName?_name, hfs, hxs, Json.nat?_int]

/-- **A report loses nothing as a document.** Its text is a JSON text, and the value that is read
from it is an object whose members show the report, with each number and each text as it is. So the
report is read from the object, and no other report has the same text. -/
theorem document_lossless (colors : Bool) (r : Report) :
    let text := (Formatter.mk .json colors).report r
    ∃ v, Json.Written (.value v) text.toList ∧ Json.read? text = some v ∧ r.ShownBy v ∧
      Report.ofJson? v = some r ∧
      ∀ colors' r', (Formatter.mk .json colors').report r' = text → r' = r := by
  intro text
  have hread : ∀ r : Report, (Json.read? r.toJson.pretty).bind Report.ofJson? = some r := by
    intro r
    rw [Json.read?_pretty, Option.bind_some, Report.ofJson?_of_shownBy r.shownBy_toJson]
  refine ⟨r.toJson, Json.written_prettyAt 0 r.toJson, Json.read?_pretty r.toJson,
    r.shownBy_toJson, Report.ofJson?_of_shownBy r.shownBy_toJson, fun colors' r' h => ?_⟩
  have hr' := hread r'
  change r'.toJson.pretty = r.toJson.pretty at h
  rw [h, hread r] at hr'
  exact (Option.some.inj hr').symm

end LintVerdict
