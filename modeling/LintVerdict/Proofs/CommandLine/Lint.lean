import LintVerdict.Proofs.Builtin
import LintVerdict.Proofs.CommandLine.Action
import LintVerdict.Proofs.Config
import LintVerdict.Proofs.Dispatch.Configuration
import LintVerdict.Proofs.Dispatch.Failure
import LintVerdict.Proofs.Files.Location
import LintVerdict.Proofs.Pattern.WholeLine
import LintVerdict.Proofs.Process.Executor
import LintVerdict.Proofs.Report.Annotation

/-!
# What a lint tells by its exit code

A lint takes its steps up to a report, and prints when it has one. So it prints findings or tells
of a failed step, never both. The file cuts a lint at its report, and reads its exit code and its
output off the cut. How a report is shown decides nothing before the cut.

## Main definitions

* `Task.listing?`: how a task tells the files to lint.
* `Request.toReport`: the steps of a lint up to its report.
* `Outcome.ofReport`: what a lint prints about its report.
* `Outcome.AgreesWith`: the exit code and the output of a lint agree with its steps.
* `Request.SameWork`: requests that differ in how a report is shown.

## Main results

* `Request.perform_eq`: a lint is its steps up to the report, and the printing of it.
* `Request.audible_of_toReport`: a report has findings exactly if it has failed.
* `Request.SameWork.sameEnd`: how a report is shown decides nothing before it.
* `lint_tells`: the exit code and the output of a lint.
-/

namespace LintVerdict

/-! ### Texts that are not empty -/

/-- Texts that are not empty are glued to one that is not, unless there are none. -/
theorem Text.joinWith_eq_empty_iff {sep : String} {parts : List String}
    (h : ∀ part ∈ parts, part ≠ "") : Text.joinWith sep parts = "" ↔ parts = [] := by
  rw [← String.toList_eq_nil_iff, Text.joinWith, String.toList_intercalate]
  cases parts with
  | nil => exact iff_of_true rfl rfl
  | cons part parts =>
      have hpart : part.toList ≠ [] := mt String.toList_eq_nil_iff.mp (h part List.mem_cons_self)
      refine iff_of_false (fun hnil => ?_) (List.cons_ne_nil _ _)
      cases parts with
      | nil => exact hpart (by simpa using hnil)
      | cons next parts =>
          rw [List.map_cons, List.map_cons, List.intercalate_cons_cons, List.append_assoc] at hnil
          exact hpart (List.append_eq_nil_iff.mp hnil).1

theorem Finding.display_ne_empty (f : Finding) : f.display ≠ "" := fun h =>
  absurd (String.append_eq_empty_iff.mp h).2 (by decide)

theorem Style.paint_ne_empty (style : Style) (text : String) : style.paint text ≠ "" := by
  rw [Ne, ← String.toList_eq_nil_iff, paint, String.toList_ofList]
  exact List.append_ne_nil_of_right_ne_nil _ (List.cons_ne_nil _ _)

theorem Finding.styled_ne_empty (f : Finding) : f.styled ≠ "" := fun h =>
  Style.paint_ne_empty _ _ (String.append_eq_empty_iff.mp h).2

theorem Workflow.annotate_ne_empty (f : Finding) : annotate f ≠ "" :=
  ne_empty_of_annotates (annotates_annotate f)

/-- A format for people or for annotations shows something exactly if there are findings, with
and without colours. -/
theorem Formatter.report_eq_empty_iff {formatter : Formatter} (h : formatter.format ≠ .json)
    (r : Report) : formatter.report r = "" ↔ r.findings = [] := by
  obtain ⟨format, colors⟩ := formatter
  cases format with
  | text =>
      have hshown : ∀ f ∈ r.findings, (if colors then f.styled else f.display) ≠ "" := by
        intro f _
        split
        · exact f.styled_ne_empty
        · exact f.display_ne_empty
      change Text.joinWith "\n" (r.findings.map fun f => if colors then f.styled else f.display) =
        "" ↔ _
      rw [Text.joinWith_eq_empty_iff (List.forall_mem_map.mpr hshown), List.map_eq_nil_iff]
  | json => exact absurd rfl h
  | github =>
      change Text.joinWith "\n" (r.findings.map Workflow.annotate) = "" ↔ _
      rw [Text.joinWith_eq_empty_iff
        (List.forall_mem_map.mpr fun f _ => Workflow.annotate_ne_empty f), List.map_eq_nil_iff]

namespace CommandLine

variable {programs : Programs} {q q' : Request} {args : List String} {s t : Session}
  {listing : Session → Except ScopeError (List String)} {format : OutputFormat} {report : Report}
  {e : Failure}

/-! ### Up to the report -/

/-- How a task tells the files to lint, if it is to lint. -/
def Task.listing? : Task → Option (Session → Except ScopeError (List String))
  | lintListed list => some fun s => readFileList s.files list
  | lintFiles paths => some fun _ => .ok paths
  | lintDir path => some fun s => listDir s.files (RuleSet.global s) path
  | install _ => none
  | listLinters => none

/-- The chosen output format. -/
def formatOf (o : Settings) : Action OutputFormat :=
  match OutputFormat.ofName? o.outputFormat with
  | some format => pure format
  | none => throw (.format o.outputFormat)

/-- What a lint works on: the configuration, the linters and the files. -/
def Request.prepare (q : Request) (listing : Session → Except ScopeError (List String)) :
    Action (Config × Registry × List String) := do
  let c ← configOf q.settings
  let r ← Action.ofExcept .definitions c.registry
  let paths ← Action.ofExcept .scope (listing (← get))
  return (c, r, paths)

/-- Installs the linters that are missing, if that is asked for. -/
def installMissing (programs : Programs) (o : Settings) (c : Config) (r : Registry) :
    Action Unit := do
  if o.install then
    let _ ← Action.ofStep .install (checkDependencies programs r c.applicability.allIds .install)

/-- Runs the linters on files. -/
def dispatchFiles (programs : Programs) (o : Settings) (c : Config) (r : Registry)
    (paths : List String) : Action Report := do
  let d ← Action.ofExcept .dispatch (Dispatcher.make r c.applicability c.options c.failFast)
  let scopes ← scopesOf programs o paths
  Action.ofStep .dispatch fun s =>
    let (report, _, s) := d.run (hostOf programs o) scopes (.new c.timeout, s)
    (report, s)

/-- The steps of a lint up to its report, with the format to show it in. -/
def Request.toReport (programs : Programs) (q : Request)
    (listing : Session → Except ScopeError (List String)) : Action (OutputFormat × Report) := do
  let (c, r, paths) ← q.prepare listing
  let format ← formatOf q.settings
  installMissing programs q.settings c r
  let report ← dispatchFiles programs q.settings c r paths
  return (format, report)

/-- How a lint shows its report: colours go to a terminal, unless the environment is against it. -/
def formatterOf (format : OutputFormat) (s : Session) : Formatter :=
  ⟨format, s.terminal && colored s⟩

/-- What a lint prints about its report. -/
def Outcome.ofReport (quiet : Bool) (formatter : Formatter) (report : Report) : Outcome :=
  let status : ExitStatus := if report.isOk then .success else .violations
  let summary := if quiet then none else formatter.summary? report
  ⟨status.code, lineOf (formatter.report report), (summary.map (· ++ "\n")).getD ""⟩

theorem lintFiles_eq (programs : Programs) (o : Settings) (c : Config) (r : Registry)
    (paths : List String) :
    lintFiles programs o c r paths = (do
      let format ← formatOf o
      installMissing programs o c r
      let report ← dispatchFiles programs o c r paths
      let s ← get
      return Outcome.ofReport o.quiet (formatterOf format s) report) := by
  unfold lintFiles formatOf installMissing dispatchFiles
  cases OutputFormat.ofName? o.outputFormat with
  | none => rfl
  | some format =>
      by_cases hinstall : o.install = true
      · simp only [if_pos hinstall, pure_bind, bind_assoc]
        rfl
      · simp only [if_neg hinstall, pure_bind, bind_assoc]
        rfl

/-- **A lint is its steps up to the report, and the printing of it.** -/
theorem Request.perform_eq (h : q.task.listing? = some listing) (programs : Programs) :
    q.perform programs = (do
      let (format, report) ← q.toReport programs listing
      let s ← get
      return Outcome.ofReport q.settings.quiet (formatterOf format s) report) := by
  obtain ⟨o, task⟩ := q
  simp only [perform, toReport, prepare, bind_assoc, pure_bind]
  cases task with
  | lintListed list =>
      obtain rfl := Option.some.inj h
      simp only [lintFiles_eq]
  | lintFiles paths =>
      obtain rfl := Option.some.inj h
      simp only [lintFiles_eq]
      rfl
  | lintDir path =>
      obtain rfl := Option.some.inj h
      simp only [lintFiles_eq]
  | install dryRun => exact absurd h nofun
  | listLinters => exact absurd h nofun

/-- A lint whose configuration is read and whose linters are known. -/
structure Request.Configured (q : Request) (s : Session) (c : Config) (r : Registry) : Prop where
  /-- The configuration, with what the command line says otherwise. -/
  config : configOf q.settings s = .ok c s
  /-- The built-in linters with the declared ones. -/
  registry : c.registry = .ok r

namespace Request.Configured

variable {c : Config} {r : Registry} {paths : List String}

/-- Without a configuration file a lint has the default with what the command line says
otherwise. -/
theorem of_default (hconfig : q.settings.config = none)
    (hload : Config.load s.files none s.files.here = .ok (.default, none)) :
    q.Configured s (q.settings.override .default) .builtin := by
  refine ⟨?_, Config.registry_default⟩
  have hget : (get : Action Session) s = .ok s s := rfl
  rw [configOf, Action.bind_of_ok hget, hconfig, hload]
  rfl

/-- A lint fails where the files to lint cannot be told. -/
theorem toReport_of_unlisted (h : q.Configured s c r) {fault : ScopeError}
    (hpaths : listing s = .error fault) :
    q.toReport programs listing s = .error (.scope fault) s := by
  refine Action.bind_of_error ?_
  rw [prepare, Action.bind_of_ok h.config, h.registry]
  change (Action.ofExcept .scope (listing s) >>= _) s = _
  rw [hpaths]
  rfl

/-- When its files are told, a lint goes on with them. -/
theorem prepare_eq (h : q.Configured s c r) (hpaths : listing s = .ok paths) :
    q.prepare listing s = .ok (c, r, paths) s := by
  rw [prepare, Action.bind_of_ok h.config, h.registry]
  change (Action.ofExcept .scope (listing s) >>= _) s = _
  rw [hpaths]
  rfl

/-- A lint fails where its output format is unknown. -/
theorem toReport_of_no_format (h : q.Configured s c r) (hpaths : listing s = .ok paths)
    (hformat : OutputFormat.ofName? q.settings.outputFormat = none) :
    q.toReport programs listing s = .error (.format q.settings.outputFormat) s := by
  rw [toReport, Action.bind_of_ok (h.prepare_eq hpaths)]
  refine Action.bind_of_error ?_
  rw [formatOf, hformat]
  rfl

/-- Then a lint installs and runs the linters. -/
theorem toReport_eq (h : q.Configured s c r) (hpaths : listing s = .ok paths)
    (hformat : OutputFormat.ofName? q.settings.outputFormat = some format) :
    q.toReport programs listing s =
      (do installMissing programs q.settings c r
          let report ← dispatchFiles programs q.settings c r paths
          return (format, report)) s := by
  have hchosen : formatOf q.settings s = .ok format s := by
    rw [formatOf, hformat]
    rfl
  rw [toReport, Action.bind_of_ok (h.prepare_eq hpaths)]
  exact Action.bind_of_ok hchosen

end Request.Configured

/-- Nothing is installed unless it is asked for. -/
theorem installMissing_of_not {o : Settings} (h : o.install = false) (c : Config) (r : Registry) :
    installMissing programs o c r s = .ok () s := by
  rw [installMissing, h]
  rfl

/-- What is asked for is installed, and the session is the one that this leaves. -/
theorem installMissing_cases {o : Settings} (h : o.install = true) (programs : Programs)
    (c : Config) (r : Registry) (s : Session) :
    installMissing programs o c r s =
        .ok () (checkDependencies programs r c.applicability.allIds .install s).2 ∨
      ∃ e, installMissing programs o c r s =
        .error e (checkDependencies programs r c.applicability.allIds .install s).2 := by
  rcases hcheck : checkDependencies programs r c.applicability.allIds .install s with ⟨e | _, t⟩
  · refine Or.inr ⟨.install e, ?_⟩
    rw [installMissing, if_pos h]
    refine Action.bind_of_error ?_
    rw [Action.ofStep, hcheck]
  · refine Or.inl ?_
    rw [installMissing, if_pos h]
    exact Action.bind_of_ok (Action.ofStep_eq_ok_iff.mpr hcheck)

/-- When a dispatcher can be made and the scopes are told, the report is that of its run. -/
theorem dispatchFiles_of_run {o : Settings} {c : Config} {r : Registry} {paths : List String}
    {d : Dispatcher} {scopes : Scopes} {y : Executor × Session}
    (hmake : Dispatcher.make r c.applicability c.options c.failFast = .ok d)
    (hscopes : scopesOf programs o paths s = .ok scopes t)
    (hrun : d.run (hostOf programs o) scopes (.new c.timeout, t) = (.ok report, y)) :
    dispatchFiles programs o c r paths s = .ok report y.2 := by
  rw [dispatchFiles, hmake]
  refine (Action.bind_of_ok rfl).trans ((Action.bind_of_ok hscopes).trans ?_)
  refine Action.ofStep_eq_ok_iff.mpr ?_
  rw [hrun]

/-! ### The report -/

theorem formatOf_eq_ok_iff {o : Settings} :
    formatOf o s = .ok format t ↔ OutputFormat.ofName? o.outputFormat = some format ∧ s = t := by
  rw [formatOf]
  cases OutputFormat.ofName? o.outputFormat with
  | none => simp [throw, throwThe, MonadExceptOf.throw, EStateM.throw]
  | some f => simp [pure, EStateM.pure]

/-- The report on files is that of a run, so it is audible. -/
theorem audible_of_dispatchFiles {o : Settings} {c : Config} {r : Registry} {paths : List String}
    (h : dispatchFiles programs o c r paths s = .ok report t) : report.Audible := by
  obtain ⟨d, s₁, -, h⟩ := Action.exists_of_bind_eq_ok h
  obtain ⟨scopes, s₂, -, h⟩ := Action.exists_of_bind_eq_ok h
  have h := Action.ofStep_eq_ok_iff.mp h
  cases hrun : d.run (hostOf programs o) scopes (.new c.timeout, s₂) with
  | mk result y =>
      dsimp only at h
      rw [hrun] at h
      obtain rfl : result = .ok report := congrArg Prod.fst h
      exact Report.audible_of_run hrun

/-- **A report has findings exactly if it has failed**, and it is shown in the format that is
asked for. -/
theorem Request.audible_of_toReport
    (h : q.toReport programs listing s = .ok (format, report) t) :
    OutputFormat.ofName? q.settings.outputFormat = some format ∧ report.Audible := by
  obtain ⟨⟨c, r, paths⟩, s₁, -, h⟩ := Action.exists_of_bind_eq_ok h
  obtain ⟨format', s₂, hformat, h⟩ := Action.exists_of_bind_eq_ok h
  obtain ⟨-, s₃, -, h⟩ := Action.exists_of_bind_eq_ok h
  obtain ⟨report', s₄, hreport, h⟩ := Action.exists_of_bind_eq_ok h
  cases h
  exact ⟨(formatOf_eq_ok_iff.mp hformat).1, audible_of_dispatchFiles hreport⟩

/-! ### The exit code -/

/-- The exit code and the output of a lint agree with what its steps up to the report come to. -/
structure Outcome.AgreesWith (x : Outcome) (format? : Option OutputFormat)
    (result : EStateM.Result Failure Session (OutputFormat × Report)) : Prop where
  /-- The exit code is two exactly if a step before the report failed. -/
  toolError : x.exitCode = 2 ↔ ∃ e t, result = .error e t
  /-- Nothing is printed on the standard output then. -/
  silent : x.exitCode = 2 → x.stdout = ""
  /-- It is one exactly if there is a report on a failure. -/
  violations : x.exitCode = 1 ↔
    ∃ format report t, result = .ok (format, report) t ∧ report.outcome = .failed
  /-- It is zero exactly if there is a clean report. -/
  success : x.exitCode = 0 ↔
    ∃ format report t, result = .ok (format, report) t ∧ report.outcome = .clean
  /-- The text and the annotations show something exactly if the exit code is one. -/
  printed : ∀ format, format? = some format → format ≠ .json → (x.stdout ≠ "" ↔ x.exitCode = 1)

/-- A lint that comes to a report prints it. -/
theorem carryOut_of_report (hq : Request.ofArgs args = .ok q)
    (hlint : q.task.listing? = some listing)
    (h : q.toReport programs listing s = .ok (format, report) t) :
    carryOut programs args s =
      (Outcome.ofReport q.settings.quiet (formatterOf format t) report, t) := by
  have hperform : q.perform programs s =
      .ok (Outcome.ofReport q.settings.quiet (formatterOf format t) report) t := by
    rw [Request.perform_eq hlint, Action.bind_of_ok h]
    rfl
  rw [carryOut, hq]
  dsimp only
  rw [hperform]

/-- A lint with a failing step tells of it. -/
theorem carryOut_of_error (hq : Request.ofArgs args = .ok q)
    (hlint : q.task.listing? = some listing) (h : q.toReport programs listing s = .error e t) :
    carryOut programs args s =
      (⟨ExitStatus.toolError.code, "", e.line (colored t) ++ "\n"⟩, t) := by
  have hperform : q.perform programs s = .error e t := by
    rw [Request.perform_eq hlint, Action.bind_of_error h]
  rw [carryOut, hq]
  dsimp only
  rw [hperform]

/-- The exit code of a printed report. -/
theorem Outcome.exitCode_ofReport (quiet : Bool) (formatter : Formatter) (report : Report) :
    (ofReport quiet formatter report).exitCode = if report.outcome = .failed then 1 else 0 := by
  rw [ofReport, Report.isOk]
  cases report.outcome <;> rfl

theorem lineOf_eq_empty_iff {text : String} : lineOf text = "" ↔ text = "" := by
  rw [lineOf]
  split
  · next h => simpa using h
  · next h => simpa [String.append_eq_empty_iff] using h

/-- What is printed about an audible report agrees with it. -/
theorem Outcome.agreesWith_ofReport (h : report.Audible) (quiet : Bool) (formatter : Formatter) :
    (ofReport quiet formatter report).AgreesWith (some formatter.format)
      (.ok (formatter.format, report) t) := by
  have hcode := exitCode_ofReport quiet formatter report
  have hprinted : formatter.format ≠ .json →
      ((ofReport quiet formatter report).stdout ≠ "" ↔ report.outcome = .failed) := by
    intro hformat
    rw [ofReport, h.outcome, h.findings, Ne, lineOf_eq_empty_iff,
      Formatter.report_eq_empty_iff hformat]
  refine ⟨?_, ?_, ?_, ?_, ?_⟩
  · rw [hcode]
    split <;> simp
  · rw [hcode]
    split <;> simp
  · simp [hcode]
  · rw [hcode]
    cases houtcome : report.outcome <;> simp [houtcome]
  · intro format hformat hne
    obtain rfl := Option.some.inj hformat
    simp [hprinted hne, hcode]

/-- What is printed about a failing step agrees with it. -/
theorem Outcome.agreesWith_of_error (format? : Option OutputFormat) (stderr : String) :
    AgreesWith ⟨ExitStatus.toolError.code, "", stderr⟩ format? (.error e t) where
  toolError := iff_of_true rfl ⟨e, t, rfl⟩
  silent _ := rfl
  violations := iff_of_false nofun nofun
  success := iff_of_false nofun nofun
  printed _ _ _ := iff_of_false (absurd rfl) nofun

/-! ### Requests with the same work -/

/-- Two requests that differ only in whether a summary is printed and in which of the known
formats findings are shown. -/
structure Request.SameWork (q q' : Request) : Prop where
  /-- The task is the same. -/
  task : q'.task = q.task
  /-- The other choices are the same. -/
  settings : q'.settings =
    { q.settings with
      quiet := q'.settings.quiet
      outputFormat := q'.settings.outputFormat }
  /-- Both formats are known, or none of them. -/
  format : (OutputFormat.ofName? q'.settings.outputFormat).isSome =
    (OutputFormat.ofName? q.settings.outputFormat).isSome

/-- Formats that are both known, or both unknown, are chosen alike. -/
theorem sameEnd_formatOf {o o' : Settings}
    (h : (OutputFormat.ofName? o'.outputFormat).isSome =
      (OutputFormat.ofName? o.outputFormat).isSome) :
    SameEnd (fun _ _ => True) (formatOf o s) (formatOf o' s) := by
  rw [formatOf, formatOf]
  cases hformat : OutputFormat.ofName? o.outputFormat with
  | none =>
      rw [hformat, Option.isSome_none, Option.isSome_eq_false_iff, Option.isNone_iff_eq_none] at h
      rw [h]
      exact .error
  | some format =>
      rw [hformat] at h
      obtain ⟨format', hformat'⟩ := Option.isSome_iff_exists.mp h
      rw [hformat']
      exact .ok trivial

/-- **Requests with the same work come to the same report**, by the same steps. -/
theorem Request.SameWork.sameEnd (h : q.SameWork q') :
    SameEnd (fun a b => a.2 = b.2) (q.toReport programs listing s)
      (q'.toReport programs listing s) := by
  obtain ⟨o, task⟩ := q
  obtain ⟨o', task'⟩ := q'
  obtain ⟨-, hsettings, hformat⟩ := h
  dsimp only at hsettings hformat
  generalize o'.quiet = quiet, o'.outputFormat = name at hsettings hformat
  subst hsettings
  -- No step but the choice of the format reads the two choices that differ.
  refine .bind (.refl _) ?_
  rintro ⟨c, r, paths⟩ _ t rfl
  refine .bind (sameEnd_formatOf hformat) fun format format' t _ => ?_
  refine .bind (.refl _) fun _ _ t _ => ?_
  refine .bind (.refl _) fun report _ t hreport => ?_
  exact .ok hreport

/-! ### The whole lint -/

/-- **The exit code of a lint and what it prints agree.** The exit code is two exactly if a step
up to the report failed, and nothing is on the standard output then. Otherwise it is one exactly
if the report is a failure, and exactly then the text and the annotations show something. The
exit code and the session with all started programs depend neither on whether a summary is
printed nor on which of the known formats findings are shown in. -/
theorem lint_tells (hq : Request.ofArgs args = .ok q) (hlint : q.task.listing? = some listing)
    (programs : Programs) (s : Session) :
    (carryOut programs args s).1.AgreesWith (OutputFormat.ofName? q.settings.outputFormat)
        (q.toReport programs listing s) ∧
      ∀ args' q', Request.ofArgs args' = .ok q' → q.SameWork q' →
        (carryOut programs args' s).1.exitCode = (carryOut programs args s).1.exitCode ∧
        (carryOut programs args' s).2 = (carryOut programs args s).2 := by
  constructor
  · cases h : q.toReport programs listing s with
    | ok result t =>
        obtain ⟨format, report⟩ := result
        obtain ⟨hformat, haudible⟩ := Request.audible_of_toReport h
        rw [carryOut_of_report hq hlint h, hformat]
        exact Outcome.agreesWith_ofReport haudible q.settings.quiet (formatterOf format t)
    | error e t =>
        rw [carryOut_of_error hq hlint h]
        exact Outcome.agreesWith_of_error ..
  · intro args' q' hq' hsame
    have hlint' : q'.task.listing? = some listing := hsame.task ▸ hlint
    have hend : SameEnd (fun a b => a.2 = b.2) (q.toReport programs listing s)
        (q'.toReport programs listing s) := hsame.sameEnd
    generalize h : q.toReport programs listing s = result,
      h' : q'.toReport programs listing s = result' at hend
    cases hend with
    | @ok a b t hreport =>
        obtain ⟨format, report⟩ := a
        obtain ⟨format', report'⟩ := b
        obtain rfl : report = report' := hreport
        rw [carryOut_of_report hq hlint h, carryOut_of_report hq' hlint' h']
        simp only [Outcome.exitCode_ofReport, and_self]
    | error =>
        rw [carryOut_of_error hq hlint h, carryOut_of_error hq' hlint' h']
        exact ⟨rfl, rfl⟩

/-! ### A missing configuration file -/

/-- Programs that do nothing. -/
def idlePrograms : Programs := fun x _ => (.ok (.finished ⟨#[]⟩ ⟨#[]⟩ (some 0)), x.files)

/-- A session without files, in which no program was started. -/
def bareSession : Session := ⟨⟨.dir [], []⟩, [], false, []⟩

/-- A request to lint a file with a configuration file that is missing. -/
def goneRequest (quiet : Bool) (format : String) : Request where
  settings := ⟨false, quiet, some "/gone.toml", none, format, false, none, none, none, false⟩
  task := .lintFiles ["a.go"]

theorem configOf_goneRequest (quiet : Bool) (format : String) :
    configOf (goneRequest quiet format).settings bareSession =
      .error (.config (.unreadable "/gone.toml" .notFound)) bareSession := by
  have hplace : bareSession.files.place "/gone.toml" true = .error .notFound := by
    rw [Files.place_of_walk (show _ = '/' :: "gone.toml".toList from rfl) (by decide) (by decide)]
    cbv
  have hread : bareSession.files.readText "/gone.toml" = .error .notFound := by
    unfold Files.readText Files.read Files.node
    rw [hplace]
    rfl
  have hload : Config.load bareSession.files (some "/gone.toml") bareSession.files.here =
      .error (.unreadable "/gone.toml" .notFound) := by
    unfold Config.load Config.ofFile
    simp only [Option.orElse_some, hread]
    rfl
  have hget : (get : Action Session) bareSession = .ok bareSession bareSession := rfl
  rw [configOf, Action.bind_of_ok hget]
  refine Action.bind_of_error ?_
  change Action.ofExcept _ (Config.load _ (some "/gone.toml") _) _ = _
  rw [hload]
  rfl

/-! ### A linter that prints nothing -/

/-- Programs that print nothing and end with a code. -/
def codePrograms (code : Int) : Programs := fun x _ =>
  (.ok (.finished ⟨#[]⟩ ⟨#[]⟩ (some code)), x.files)

/-- A session in which the Go tool is at hand. -/
def vetSession : Session :=
  ⟨⟨.dir [("bin", .dir [("go", .file ⟨#[]⟩ true)])], []⟩, [("PATH", "/bin")], false, []⟩

/-- A request to vet the package of a file. -/
def vetRequest : Request where
  settings := ⟨false, false, none, some "/", "text", false, none, some "vet", some "", false⟩
  task := .lintFiles ["a.go"]

/-- The linter that it runs. -/
def vetSpec : LinterSpec :=
  ⟨"vet", ⟨"go", [⟨"vet".toList, [.literal "vet".toList]⟩]⟩, .path,
    Shorthand.lineAndColumn.pattern, none, none⟩

/-- The dispatcher of this linter alone. -/
def vetDispatcher : Dispatcher := ⟨.builtin, ⟨["vet"], []⟩, .unset, true⟩

theorem configured_vetRequest :
    vetRequest.Configured vetSession
      { Config.default with packageLinters := ["vet"], dirLinters := [] } .builtin :=
  .of_default rfl (Config.load_of_no_entry rfl rfl (by decide))

theorem get?_vet : Registry.builtin.get? "vet" = some vetSpec := by
  have hlisted : ("vet", ⟨"go vet", "PATH:LINE:COL:MESSAGE", .path, none, none⟩) ∈
      builtinLinters := by
    decide
  have htemplate : CommandTemplate.parse "go vet" = .ok vetSpec.template := by
    decide +kernel
  exact get?_builtin hlisted htemplate Shorthand.lineAndColumn.parse_name

theorem make_vetDispatcher :
    Dispatcher.make .builtin ⟨["vet"], []⟩ .unset true = .ok vetDispatcher := by
  have hlisted : ∀ id ∈ Applicability.listed ⟨["vet"], []⟩, id = "vet" := by decide
  refine Dispatcher.make_eq_ok_iff.mpr ⟨⟨?_, nofun, ?_⟩, rfl⟩
  · intro id hid
    exact ⟨vetSpec, hlisted id hid ▸ get?_vet⟩
  · intro id hid spec hspec
    obtain rfl := hlisted id hid
    obtain rfl := Option.some.inj (get?_vet.symm.trans hspec)
    exact ⟨["vet"], rfl⟩

theorem findProgram?_vetSession : vetSession.findProgram? "go" = some "/bin/go" := by
  have hplace : vetSession.files.place "/bin/go" true = .ok ["bin", "go"] := by
    rw [Files.place_of_walk (show _ = '/' :: "bin/go".toList from rfl) (by decide) (by decide)]
    cbv
  have hprogram : vetSession.files.isProgram "/bin/go" = true :=
    Files.isProgram_iff.mpr ⟨_, Files.node_eq_ok_iff.mpr ⟨_, hplace, rfl⟩, rfl⟩
  have hcandidates : vetSession.candidates "go" = ["/bin/go"] := by
    decide
  rw [Session.findProgram?, hcandidates, List.find?_cons_of_pos hprogram]

theorem findings_vetSpec : vetSpec.pattern.findings "vet" "" none = [] := by
  rw [vetSpec, findings_eq]
  cbv

/-- The linter runs in the root and prints nothing. -/
theorem exists_check_vet (code : Int) (o : Settings) :
    ∃ y, vetDispatcher.check (hostOf (codePrograms code) o) "/" ⟨.package, "."⟩ "vet"
      (.new 0, vetSession) = (.ok (evaluate ⟨.package, "."⟩ vetSpec ⟨"", some code⟩), y) := by
  have hcommand : vetDispatcher.command vetSession.files "/" ⟨.package, "."⟩ "vet" =
      .ok (vetSpec, ⟨"go", ["vet", "."]⟩) := by
    rw [Dispatcher.command, vetDispatcher, Registry.lookup_of_get? get?_vet]
    decide
  have hpath : (Executor.new 0).path? vetSession "go" = some "/bin/go" :=
    Option.none_or.trans findProgram?_vetSession
  obtain ⟨y, -, hrun⟩ := Executor.exists_run_of_path (c := ⟨"go", ["vet", "."]⟩)
    (codePrograms code) "/" hpath
  have hresult : (Executor.new 0).result "go" (vetSession.launch (codePrograms code)
      ((Executor.new 0).launchAt "/bin/go" ⟨"go", ["vet", "."]⟩ "/")).1 =
        .ok ⟨"", some code⟩ := by
    cbv
  rw [hresult] at hrun
  have hlaunch : (hostOf (codePrograms code) o).launch ⟨"go", ["vet", "."]⟩ "/"
      (.new 0, vetSession) = _ := hrun
  exact ⟨_, Dispatcher.check_eq_ok_iff.mpr ⟨vetSpec, _, _, hcommand, hlaunch, rfl⟩⟩

/-- The linter is all that runs. -/
theorem exists_run_vet (code : Int) :
    ∃ y, vetDispatcher.run (hostOf (codePrograms code) vetRequest.settings) ⟨["."], ["."]⟩
        (.new 0, vetSession) =
      (.ok (Report.clean.record (evaluate ⟨.package, "."⟩ vetSpec ⟨"", some code⟩)), y) := by
  obtain ⟨y, hcheck⟩ := exists_check_vet code vetRequest.settings
  have hpairs : vetDispatcher.pairs ⟨["."], ["."]⟩ = [(⟨.package, "."⟩, "vet")] := rfl
  have hroot : (hostOf (codePrograms code) vetRequest.settings).root (.new 0, vetSession) =
      (.ok "/", .new 0, vetSession) := rfl
  have hfiles : (hostOf (codePrograms code) vetRequest.settings).files (.new 0, vetSession) =
      vetSession.files := rfl
  have hdir : Dispatcher.workingRoot vetSession.files "/" = .ok "/" := by cbv
  generalize evaluate ⟨.package, "."⟩ vetSpec ⟨"", some code⟩ = result at hcheck
  refine ⟨y, ?_⟩
  rw [Dispatcher.run, hpairs]
  dsimp only
  rw [hroot]
  dsimp only
  rw [hfiles, hdir]
  dsimp only
  rw [Dispatcher.walk, hcheck]
  dsimp only
  split <;> rfl

/-- The report is clean exactly if the linter ends with code zero. -/
theorem exists_toReport_vet (code : Int) :
    ∃ report t, vetRequest.toReport (codePrograms code) (fun _ => .ok ["a.go"]) vetSession =
        .ok (.text, report) t ∧
      report.outcome = if code = 0 then .clean else .failed := by
  obtain ⟨y, hrun⟩ := exists_run_vet code
  have hfailure : (evaluate ⟨.package, "."⟩ vetSpec ⟨"", some code⟩).isFailure =
      decide (code ≠ 0) := by
    rw [Bool.eq_iff_iff, isFailure_evaluate_iff, decide_eq_true_eq]
    exact (or_iff_left (not_not.mpr findings_vetSpec)).trans (not_congr Option.some_inj)
  generalize evaluate ⟨.package, "."⟩ vetSpec ⟨"", some code⟩ = result at hrun hfailure
  have hscopes : scopesOf (codePrograms code) vetRequest.settings ["a.go"] vetSession =
      .ok ⟨["."], ["."]⟩ vetSession := by
    cbv
  refine ⟨Report.clean.record result, y.2, ?_, ?_⟩
  · rw [configured_vetRequest.toReport_eq rfl rfl,
      Action.bind_of_ok (installMissing_of_not rfl _ _)]
    exact Action.bind_of_ok (dispatchFiles_of_run make_vetDispatcher hscopes hrun)
  · rw [Report.record_eq, hfailure]
    by_cases hcode : code = 0
    · simp [hcode, Report.clean]
    · simp [hcode]

/-- Without its configuration file a lint ends with code two and prints no finding, in any format
and also if no summary is wanted. With a linter that fails it ends with code one and prints
something, and with one that does not it ends with code zero and prints nothing. -/
theorem lint_tells_endings :
    ((carryOut idlePrograms ["lint", "--files", "a.go", "--config", "/gone.toml"]
          bareSession).1.exitCode = 2 ∧
        (carryOut idlePrograms ["lint", "--files", "a.go", "--config", "/gone.toml"]
          bareSession).1.stdout = "" ∧
        (carryOut idlePrograms ["--quiet", "--output-format", "GitHub", "lint", "--files", "a.go",
          "--config", "/gone.toml"] bareSession).1.exitCode = 2) ∧
      ((carryOut (codePrograms 1) ["--root", "/", "--package-linters", "vet", "--dir-linters", "",
          "lint", "--files", "a.go"] vetSession).1.exitCode = 1 ∧
        (carryOut (codePrograms 1) ["--root", "/", "--package-linters", "vet", "--dir-linters", "",
          "lint", "--files", "a.go"] vetSession).1.stdout ≠ "") ∧
      ((carryOut (codePrograms 0) ["--root", "/", "--package-linters", "vet", "--dir-linters", "",
          "lint", "--files", "a.go"] vetSession).1.exitCode = 0 ∧
        (carryOut (codePrograms 0) ["--root", "/", "--package-linters", "vet", "--dir-linters", "",
          "lint", "--files", "a.go"] vetSession).1.stdout = "") := by
  have hgone : Request.ofArgs ["lint", "--files", "a.go", "--config", "/gone.toml"] =
      .ok (goneRequest false "text") := by
    decide
  have hquiet : Request.ofArgs ["--quiet", "--output-format", "GitHub", "lint", "--files", "a.go",
      "--config", "/gone.toml"] = .ok (goneRequest true "GitHub") := by
    decide
  have hvet : Request.ofArgs ["--root", "/", "--package-linters", "vet", "--dir-linters", "",
      "lint", "--files", "a.go"] = .ok vetRequest := by
    decide
  have hsame : (goneRequest false "text").SameWork (goneRequest true "GitHub") :=
    ⟨rfl, rfl, by decide⟩
  refine ⟨?_, ?_, ?_⟩
  · obtain ⟨hagrees, hsteps⟩ := lint_tells hgone rfl idlePrograms bareSession
    have hcode := hagrees.toolError.mpr
      ⟨_, _, Action.bind_of_error (Action.bind_of_error (configOf_goneRequest _ _))⟩
    exact ⟨hcode, hagrees.silent hcode, (hsteps _ _ hquiet hsame).1.trans hcode⟩
  · obtain ⟨hagrees, -⟩ := lint_tells hvet rfl (codePrograms 1) vetSession
    obtain ⟨report, t, hreport, houtcome⟩ := exists_toReport_vet 1
    have hcode := hagrees.violations.mpr ⟨_, report, t, hreport, houtcome⟩
    exact ⟨hcode, (hagrees.printed .text rfl nofun).mpr hcode⟩
  · obtain ⟨hagrees, -⟩ := lint_tells hvet rfl (codePrograms 0) vetSession
    obtain ⟨report, t, hreport, houtcome⟩ := exists_toReport_vet 0
    have hcode := hagrees.success.mpr ⟨_, report, t, hreport, houtcome⟩
    refine ⟨hcode, not_not.mp fun hprinted => ?_⟩
    have hone := (hagrees.printed .text rfl nofun).mp hprinted
    exact absurd (hcode.symm.trans hone) nofun

end CommandLine

end LintVerdict
