import Mathlib.Data.List.Forall2
import LintVerdict.Proofs.Decimal
import LintVerdict.Proofs.Text
import LintVerdict.Proofs.Text.Split
import LintVerdict.Report.Format

/-!
# Reading annotation lines

A report in the annotation format has one line a finding. Escapes keep the delimiters out of
every field, so a reader that knows the delimiters and the escapes gets every finding back, with
its column if it has a line.

## Main definitions

* `Workflow.unescape`: a text with its percent escapes read.
* `Annotates`: the form of a line that annotates a finding.
* `Workflow.read?`, `Workflow.readReport?`: the reader of a line and of a report.

## Main results

* `read?_of_annotates`: a line is read as its finding.
* `annotations_readable`: a report is read as its findings.
-/

namespace LintVerdict

namespace Workflow

/-- The value of a hexadecimal digit. -/
def hexValue? (c : Char) : Option Nat :=
  if '0' ≤ c ∧ c ≤ '9' then some (c.toNat - '0'.toNat)
  else if 'A' ≤ c ∧ c ≤ 'F' then some (c.toNat - 'A'.toNat + 10)
  else if 'a' ≤ c ∧ c ≤ 'f' then some (c.toNat - 'a'.toNat + 10)
  else none

/-- The character that two digits of an escape stand for. Above ASCII an escape stands for a
byte and not for a character. -/
def escaped? (high low : Char) : Option Char := do
  let code := 16 * (← hexValue? high) + (← hexValue? low)
  if code < 128 then some (Char.ofNat code) else none

/-- A text with its percent escapes read. -/
def unescape : List Char → List Char
  | [] => []
  | '%' :: high :: low :: rest =>
    match escaped? high low with
    | some c => c :: unescape rest
    | none => '%' :: unescape (high :: low :: rest)
  | c :: rest => c :: unescape rest

/-- The value of a property among the properties of a command. -/
def property? (name : String) (fields : List (List Char)) : Option (List Char) :=
  fields.findSome? fun field => (name.toList ++ ['=']).isPrefixOf? field

/-- The finding that the properties and the message of a command give. -/
def ofFields? (fields : List (List Char)) (message : List Char) : Option Finding := do
  let path ← property? "file" fields
  let title ← property? "title" fields
  return { linter := String.ofList (unescape title)
           path := String.ofList (unescape path)
           line := (property? "line" fields).bind Decimal.decimal?
           column := (property? "col" fields).bind Decimal.decimal?
           message := String.ofList (unescape message) }

/-- The finding that a line annotates: its properties end at the first colon, and the message
stands behind two of them. -/
def read? (line : List Char) : Option Finding := do
  let command ← "::error ".toList.isPrefixOf? line
  let message ← "::".toList.isPrefixOf? (command.dropWhile (· ≠ ':'))
  ofFields? (Text.splitChars ',' (command.takeWhile (· ≠ ':'))) message

/-- The findings of a report in the annotation format. -/
def readReport? (text : String) : Option (List Finding) :=
  if text = "" then some [] else (Text.splitAt '\n' text).mapM fun line => read? line.toList

end Workflow

/-- What an annotation says of a finding: a column only with a line. -/
def Finding.shown (f : Finding) : Finding := { f with column := f.line.bind fun _ => f.column }

/-- The properties that give a line, and a column if there is a line. -/
inductive Places : Option Nat → Option Nat → List (List Char) → Prop
  | file {column : Option Nat} : Places none column []
  | line {line : Nat} {digits : List Char} :
      Decimal.decimal? digits = some line → Places (some line) none ["line=".toList ++ digits]
  | column {line column : Nat} {lineDigits columnDigits : List Char} :
      Decimal.decimal? lineDigits = some line → Decimal.decimal? columnDigits = some column →
      Places (some line) (some column)
        ["line=".toList ++ lineDigits, "col=".toList ++ columnDigits]

/-- The value of a property: no delimiter stands in it, and its escapes give the text. -/
structure IsProperty (value : List Char) (text : String) : Prop where
  plain : ∀ c ∈ value, c ∉ [',', ':', '\r', '\n']
  unescape_eq : Workflow.unescape value = text.toList

/-- The message of an annotation: it stays in its line, and its escapes give the text. -/
structure IsData (value : List Char) (text : String) : Prop where
  plain : ∀ c ∈ value, c ∉ ['\r', '\n']
  unescape_eq : Workflow.unescape value = text.toList

/-- The form of a line that annotates a finding: the properties behind the path stand each
behind a comma. -/
inductive Annotates (f : Finding) : String → Prop
  | mk {path title message : List Char} {place : List (List Char)} :
      IsProperty path f.path → Places f.line f.column place → IsProperty title f.linter →
      IsData message f.message →
      Annotates f (String.ofList
        ("::error file=".toList ++ path ++ place.flatMap (',' :: ·) ++ ",title=".toList ++ title ++
          "::".toList ++ message))

namespace Workflow

variable {c : Char} {f : Finding}

/-! ### Escapes -/

theorem unescape_cons (h : c ≠ '%') (rest : List Char) :
    unescape (c :: rest) = c :: unescape rest := by
  rw [unescape]
  rintro _ _ _ rfl
  exact absurd rfl h

theorem unescape_escapeData (c : Char) (rest : List Char) :
    unescape (escapeData c ++ rest) = c :: unescape rest := by
  rw [escapeData]
  split
  · next h => subst h; rfl
  split
  · next h => subst h; rfl
  split
  · next h => subst h; rfl
  · next h _ _ => exact unescape_cons h rest

theorem unescape_escapeProperty (c : Char) (rest : List Char) :
    unescape (escapeProperty c ++ rest) = c :: unescape rest := by
  rw [escapeProperty]
  split
  · next h => subst h; rfl
  split
  · next h => subst h; rfl
  · exact unescape_escapeData c rest

/-- Escapes that are read one by one are read in a row. -/
theorem unescape_flatMap {escape : Char → List Char}
    (h : ∀ c rest, unescape (escape c ++ rest) = c :: unescape rest) (cs : List Char) :
    unescape (cs.flatMap escape) = cs := by
  induction cs with
  | nil => rfl
  | cons c cs ih => rw [List.flatMap_cons, h, ih]

theorem escapeData_plain (c : Char) : ∀ d ∈ escapeData c, d ∉ ['\r', '\n'] := by
  rw [escapeData]
  split
  · simp
  split
  · simp
  split
  · simp
  · next hr hn => simp [hr, hn]

theorem escapeProperty_plain (c : Char) : ∀ d ∈ escapeProperty c, d ∉ [',', ':', '\r', '\n'] := by
  rw [escapeProperty]
  split
  · simp
  split
  · simp
  · next hcolon hcomma =>
    rw [escapeData]
    split
    · simp
    split
    · simp
    split
    · simp
    · next hr hn => simp [hcolon, hcomma, hr, hn]

theorem isProperty_property (s : String) : IsProperty (property s).toList s where
  plain := by
    rw [property, String.toList_ofList]
    intro d hd
    obtain ⟨c, -, hd⟩ := List.mem_flatMap.mp hd
    exact escapeProperty_plain c d hd
  unescape_eq := by
    rw [property, String.toList_ofList]
    exact unescape_flatMap unescape_escapeProperty s.toList

theorem isData_data (s : String) : IsData (data s).toList s where
  plain := by
    rw [data, String.toList_ofList]
    intro d hd
    obtain ⟨c, -, hd⟩ := List.mem_flatMap.mp hd
    exact escapeData_plain c d hd
  unescape_eq := by
    rw [data, String.toList_ofList]
    exact unescape_flatMap unescape_escapeData s.toList

theorem exists_places (f : Finding) :
    ∃ place, Places f.line f.column place ∧ (position f).toList = place.flatMap (',' :: ·) := by
  rw [position]
  split
  · next hline => exact ⟨[], hline ▸ Places.file, rfl⟩
  · next line hline hcolumn =>
    rw [hline, hcolumn]
    refine ⟨_, Places.line (Decimal.decimal?_toString line), ?_⟩
    simp
  · next line column hline hcolumn =>
    rw [hline, hcolumn]
    refine ⟨_, Places.column (Decimal.decimal?_toString line)
      (Decimal.decimal?_toString column), ?_⟩
    simp

/-- The annotation of a finding annotates it. -/
theorem annotates_annotate (f : Finding) : Annotates f (annotate f) := by
  obtain ⟨place, hplace, hposition⟩ := exists_places f
  have hline := Annotates.mk (isProperty_property f.path) hplace (isProperty_property f.linter)
    (isData_data f.message)
  rw [← hposition] at hline
  simp only [← String.toList_append, String.ofList_toList] at hline
  exact hline

/-! ### Reading -/

theorem notMem_of_decimal? {digits : List Char} {n : Nat}
    (h : Decimal.decimal? digits = some n) (hc : Decimal.isDigit c = false) : c ∉ digits := by
  intro hmem
  obtain ⟨⟨-, hdigits⟩, -⟩ := Decimal.decimal?_eq_some_iff.mp h
  exact Bool.eq_false_iff.mp hc (hdigits c hmem)

theorem notMem_places {line column : Option Nat} {place : List (List Char)}
    (h : Places line column place) (hc : c ∈ [',', ':', '\n']) :
    ∀ field ∈ place, c ∉ field := by
  obtain ⟨hdigit, hname⟩ : Decimal.isDigit c = false ∧ c ∉ "line=col=".toList := by
    have hdelimiters : ∀ d ∈ [',', ':', '\n'],
        Decimal.isDigit d = false ∧ d ∉ "line=col=".toList := by
      simp [Decimal.isDigit]
    exact hdelimiters c hc
  cases h with
  | file => exact List.forall_mem_nil _
  | line hline =>
      have hdigits := notMem_of_decimal? hline hdigit
      simp_all
  | column hline hcolumn =>
      have hline := notMem_of_decimal? hline hdigit
      have hcolumn := notMem_of_decimal? hcolumn hdigit
      simp_all

/-- The properties of an annotation: the path, and each further one behind a comma. -/
def command (path : List Char) (place : List (List Char)) (title : List Char) : List Char :=
  "file=".toList ++ path ++ (place ++ ["title=".toList ++ title]).flatMap (',' :: ·)

section Command

variable {path title message : List Char} {place : List (List Char)}

theorem annotation_eq :
    "::error file=".toList ++ path ++ place.flatMap (',' :: ·) ++ ",title=".toList ++ title ++
      "::".toList ++ message =
      "::error ".toList ++ (command path place title ++ ':' :: ':' :: message) := by
  have hstart : "::error file=".toList = "::error ".toList ++ "file=".toList := rfl
  have htitle : ",title=".toList = ',' :: "title=".toList := rfl
  have hend : "::".toList = [':', ':'] := rfl
  delta command
  rw [hstart, htitle, hend, List.flatMap_append, List.flatMap_singleton]
  simp only [List.append_assoc, List.cons_append, List.nil_append]

/-- The properties end at the first colon, and in their line. -/
theorem notMem_command (hpath : IsProperty path f.path) (hplace : Places f.line f.column place)
    (htitle : IsProperty title f.linter) (hc : c ∈ [':', '\n']) : c ∉ command path place title := by
  obtain ⟨hplain, hcomma, hfile, hname⟩ :
      c ∈ [',', ':', '\r', '\n'] ∧ c ≠ ',' ∧ c ∉ "file=".toList ∧ c ∉ "title=".toList := by
    have hdelimiters : ∀ d ∈ [':', '\n'], d ∈ [',', ':', '\r', '\n'] ∧ d ≠ ',' ∧
        d ∉ "file=".toList ∧ d ∉ "title=".toList := by
      simp
    exact hdelimiters c hc
  delta command
  rw [List.mem_append, List.mem_append, List.mem_flatMap]
  rintro ((h | h) | ⟨field, hfield, h⟩)
  · exact hfile h
  · exact hpath.plain c h hplain
  · obtain h | h := List.mem_cons.mp h
    · exact hcomma h
    · obtain hfield | hfield := List.mem_append.mp hfield
      · exact notMem_places hplace (List.mem_cons_of_mem ',' hc) field hfield h
      · rw [List.mem_singleton.mp hfield] at h
        obtain h | h := List.mem_append.mp h
        · exact hname h
        · exact htitle.plain c h hplain

/-- The commas are where one property ends and the next one begins. -/
theorem splitChars_command (hpath : IsProperty path f.path)
    (hplace : Places f.line f.column place) (htitle : IsProperty title f.linter) :
    Text.splitChars ',' (command path place title) =
      ("file=".toList ++ path) :: (place ++ ["title=".toList ++ title]) := by
  have hpath : ',' ∉ path := fun h => hpath.plain _ h (by decide)
  have hplace := notMem_places hplace (c := ',') (by decide)
  have htitle : ',' ∉ title := fun h => htitle.plain _ h (by decide)
  refine Text.splitChars_append_flatMap (by simpa using hpath) fun field hfield => ?_
  obtain hfield | hfield := List.mem_append.mp hfield
  · exact hplace field hfield
  · rw [List.mem_singleton.mp hfield]
    simpa using htitle

end Command

/-- Each value is found by its name. -/
theorem ofFields?_of_places {line column : Option Nat} {place : List (List Char)}
    (h : Places line column place) (path title message : List Char) :
    ofFields? (("file=".toList ++ path) :: (place ++ ["title=".toList ++ title])) message =
      some { linter := String.ofList (unescape title)
             path := String.ofList (unescape path)
             line := line
             column := line.bind fun _ => column
             message := String.ofList (unescape message) } := by
  cases h with
  | file => rfl
  | line hline => exact congrArg (fun line => some (Finding.mk _ _ line none _)) hline
  | column hline hcolumn =>
      exact congrArg₂ (fun line column => some (Finding.mk _ _ line column _)) hline hcolumn

/-- A line is read as its finding. -/
theorem read?_of_annotates {line : String} (h : Annotates f line) :
    read? line.toList = some f.shown := by
  obtain @⟨path, title, message, place, hpath, hplace, htitle, hmessage⟩ := h
  have hcolon : ':' ∉ command path place title := notMem_command hpath hplace htitle (by decide)
  have hcommand : "::error ".toList.isPrefixOf?
      ("::error ".toList ++ (command path place title ++ ':' :: ':' :: message)) =
      some (command path place title ++ ':' :: ':' :: message) :=
    List.isPrefixOf?_eq_some_iff_append_eq.mpr rfl
  rw [String.toList_ofList, annotation_eq, read?, hcommand, Option.bind_eq_bind,
    Option.bind_some, dropWhile_ne_append hcolon, takeWhile_ne_append hcolon,
    splitChars_command hpath hplace htitle]
  change ofFields? _ message = _
  rw [ofFields?_of_places hplace, hpath.unescape_eq, htitle.unescape_eq, hmessage.unescape_eq]
  simp only [String.ofList_toList]
  rfl

example : read? "::error file=a%2Cb.go,line=3,title=vet::50%25 done%0A".toList =
    some { linter := "vet", path := "a,b.go", line := some 3, column := none
           message := "50% done\n" } := by
  rfl

/-! ### Reports -/

/-- An annotation stays in its line. -/
theorem feed_notMem_of_annotates {line : String} (h : Annotates f line) : '\n' ∉ line.toList := by
  obtain @⟨path, title, message, place, hpath, hplace, htitle, hmessage⟩ := h
  have hcommand : '\n' ∉ command path place title :=
    notMem_command hpath hplace htitle (by decide)
  have hmessage : '\n' ∉ message := fun h => hmessage.plain _ h (by decide)
  rw [String.toList_ofList, annotation_eq]
  simp [hcommand, hmessage]

theorem ne_empty_of_annotates {line : String} (h : Annotates f line) : line ≠ "" := by
  obtain @⟨path, title, message, place, -, -, -, -⟩ := h
  simp

theorem forall₂_annotates (findings : List Finding) :
    List.Forall₂ Annotates findings (findings.map annotate) := by
  rw [List.forall₂_map_right_iff, List.forall₂_same]
  exact fun f _ => annotates_annotate f

/-- The lines of a report are the annotations of its findings. -/
theorem splitAt_report {findings : List Finding} (h : findings ≠ []) :
    Text.splitAt '\n' (Text.joinWith "\n" (findings.map annotate)) = findings.map annotate := by
  refine Text.splitAt_joinWith (by simpa using h) ?_
  rw [List.forall_mem_map]
  exact fun f _ => feed_notMem_of_annotates (annotates_annotate f)

/-- A report is read as its findings. -/
theorem readReport?_report (findings : List Finding) :
    readReport? (Text.joinWith "\n" (findings.map annotate)) =
      some (findings.map Finding.shown) := by
  cases findings with
  | nil => rfl
  | cons f findings =>
      have hsplit := splitAt_report (List.cons_ne_nil f findings)
      have hne : Text.joinWith "\n" ((f :: findings).map annotate) ≠ "" := by
        intro hempty
        rw [hempty] at hsplit
        exact ne_empty_of_annotates (annotates_annotate f) (List.cons.inj hsplit).1.symm
      have hread : (fun line => read? line.toList) ∘ annotate = fun f => pure f.shown :=
        funext fun f => read?_of_annotates (annotates_annotate f)
      rw [readReport?, if_neg hne, hsplit, List.mapM_map, hread, List.mapM_pure]
      rfl

end Workflow

/-- A report in the annotation format is **read as its findings**: it has one line a finding, in
order, and none without findings, each line has the form of an annotation, and the reader gives
every finding back, with its column if it has a line. So a text is the report of one list of
findings only. -/
theorem annotations_readable (colors : Bool) (r : Report) :
    let text := (Formatter.mk .github colors).report r
    (r.findings = [] → text = "") ∧
      (r.findings ≠ [] → List.Forall₂ Annotates r.findings (Text.splitAt '\n' text)) ∧
      Workflow.readReport? text = some (r.findings.map Finding.shown) ∧
      ∀ r' : Report, (Formatter.mk .github colors).report r' = text →
        r'.findings.map Finding.shown = r.findings.map Finding.shown := by
  intro text
  refine ⟨fun h => ?_, fun h => ?_, Workflow.readReport?_report r.findings, fun r' h => ?_⟩
  · change Text.joinWith "\n" (r.findings.map Workflow.annotate) = ""
    rw [h]
    rfl
  · change List.Forall₂ Annotates _ (Text.splitAt '\n' (Text.joinWith "\n" _))
    rw [Workflow.splitAt_report h]
    exact Workflow.forall₂_annotates r.findings
  · have hread := Workflow.readReport?_report r'.findings
    change Text.joinWith "\n" _ = Text.joinWith "\n" _ at h
    rw [h, Workflow.readReport?_report r.findings] at hread
    exact (Option.some.inj hread).symm

end LintVerdict
