import LintVerdict.Proofs.Builtin
import LintVerdict.Proofs.CommandLine.Lint
import LintVerdict.Proofs.Dispatch.Configuration
import LintVerdict.Proofs.Process.Install

/-!
# What a lint starts in spite of a fault

A faulty configuration is refused when the dispatcher is made, before git and the linters are
asked for anything. But missing linters are installed before that. So what a faulty lint starts
are installations alone, and the file tells which faulty lints start any.

## Main definitions

* `Applicability.Fault`: an unknown linter, a shared one, or one whose template lacks a value.
* `Request.firstInstallation?`: the installation with which a lint begins its work.

## Main results

* `Applicability.fault_iff`: a configuration has a fault exactly if it is not settled.
* `exists_toReport_error`: how far a lint with a faulty configuration comes.
* `faulty_lint_starts`: the exit code of such a lint, and what it starts.
-/

namespace LintVerdict

/-! ### Faults -/

/-- A fault of a configuration. -/
inductive Applicability.Fault (a : Applicability) (registry : Registry) (options : Options) : Prop
  /-- A listed linter is unknown. -/
  | unknown {id : String} : id ∈ a.listed → registry.get? id = none → Fault a registry options
  /-- A linter is in both lists. -/
  | shared {id : String} : id ∈ a.package → id ∈ a.directory → Fault a registry options
  /-- The template of a listed linter does not resolve with the options. -/
  | unresolved {id : String} {spec : LinterSpec} {e : TemplateError} :
      id ∈ a.listed → registry.get? id = some spec →
      spec.template.render id options = .error e → Fault a registry options

variable {a : Applicability} {registry : Registry} {options : Options}

/-- **A configuration has a fault** exactly if it is not settled. -/
theorem Applicability.fault_iff : a.Fault registry options ↔ ¬ a.Settled registry options := by
  constructor
  · rintro (⟨hid, hnone⟩ | ⟨hpackage, hdirectory⟩ | ⟨hid, hspec, herror⟩) hsettled
    · obtain ⟨spec, hspec⟩ := hsettled.known _ hid
      exact absurd (hnone.symm.trans hspec) nofun
    · exact hsettled.disjoint _ hpackage hdirectory
    · obtain ⟨args, hargs⟩ := hsettled.rendered _ hid _ hspec
      exact absurd (herror.symm.trans hargs) nofun
  · intro hsettled
    by_contra hfault
    refine hsettled ⟨?_, ?_, ?_⟩
    · intro id hid
      cases hspec : registry.get? id with
      | none => exact absurd (.unknown hid hspec) hfault
      | some spec => exact ⟨spec, rfl⟩
    · intro id hpackage hdirectory
      exact hfault (.shared hpackage hdirectory)
    · intro id hid spec hspec
      cases hargs : spec.template.render id options with
      | error e => exact absurd (.unresolved hid hspec hargs) hfault
      | ok args => exact ⟨args, rfl⟩

/-- A faulty configuration is refused. -/
theorem Applicability.Fault.exists_make_error (h : a.Fault registry options) (failFast : Bool) :
    ∃ e, Dispatcher.make registry a options failFast = .error e := by
  cases hmake : Dispatcher.make registry a options failFast with
  | error e => exact ⟨e, rfl⟩
  | ok d => exact absurd (Dispatcher.make_eq_ok_iff.mp hmake).1 (Applicability.fault_iff.mp h)

namespace CommandLine

variable {programs : Programs} {args : List String} {q : Request} {s : Session} {c : Config}
  {r : Registry} {listing : Session → Except ScopeError (List String)}

/-! ### How far a lint comes -/

/-- The installation with which a lint begins its work. There is none unless installations are
asked for, the files to lint are told and the output format is known. -/
def Request.firstInstallation? (q : Request) (listing : Session → Except ScopeError (List String))
    (s : Session) (c : Config) (r : Registry) : Option Launch :=
  match q.settings.install, listing s, OutputFormat.ofName? q.settings.outputFormat with
  | true, .ok _, some _ => r.firstInstallation? s c.applicability.allIds
  | _, _, _ => none

/-- No linter runs on files if the dispatcher cannot be made, and nothing is started for them. -/
theorem dispatchFiles_of_error {o : Settings} {e : DispatchError} {t : Session}
    (h : Dispatcher.make r c.applicability c.options c.failFast = .error e)
    (programs : Programs) (paths : List String) :
    dispatchFiles programs o c r paths t = .error (.dispatch e) t := by
  rw [dispatchFiles, h]
  rfl

/-- **How far a lint with a faulty configuration comes**: to its installations, if there are any,
and not to a report. -/
theorem exists_toReport_error (hconf : q.Configured s c r)
    (hfault : c.applicability.Fault r c.options) (programs : Programs)
    (listing : Session → Except ScopeError (List String)) :
    ∃ e t ls, q.toReport programs listing s = .error e t ∧ s.Installs programs ls t ∧
      ls.head? = q.firstInstallation? listing s c r := by
  obtain ⟨fault, hmake⟩ := hfault.exists_make_error c.failFast
  rw [Request.firstInstallation?]
  -- Each step before the dispatcher is made may end the lint; only installations start anything.
  cases hpaths : listing s with
  | error unlisted =>
      refine ⟨_, s, [], hconf.toReport_of_unlisted hpaths, .nil, ?_⟩
      cases q.settings.install <;> rfl
  | ok paths =>
      cases hformat : OutputFormat.ofName? q.settings.outputFormat with
      | none =>
          refine ⟨_, s, [], hconf.toReport_of_no_format hpaths hformat, .nil, ?_⟩
          cases q.settings.install <;> rfl
      | some format =>
          rw [hconf.toReport_eq hpaths hformat]
          cases hinstall : q.settings.install with
          | false =>
              refine ⟨.dispatch fault, s, [], ?_, .nil, rfl⟩
              rw [Action.bind_of_ok (installMissing_of_not hinstall c r)]
              exact Action.bind_of_error (dispatchFiles_of_error hmake programs paths)
          | true =>
              obtain ⟨ls, hls, hfirst⟩ :=
                installs_checkDependencies programs r c.applicability.allIds s
              rcases installMissing_cases hinstall programs c r s with hdone | ⟨e, hfailed⟩
              · refine ⟨.dispatch fault, _, ls, ?_, hls, hfirst⟩
                rw [Action.bind_of_ok hdone]
                exact Action.bind_of_error (dispatchFiles_of_error hmake programs paths)
              · exact ⟨e, _, ls, Action.bind_of_error hfailed, hls, hfirst⟩

/-! ### The whole lint -/

/-- **What a lint starts in spite of a fault.** When a listed linter is unknown, is in both lists
or has a template that does not resolve, the lint ends with code two, and what it has started are
installations of missing linters alone. It has started nothing exactly if there is no installation
with which it begins its work: if installations are not asked for, if it fails before them, if all
linters are at hand, or if the first that is not cannot be installed. -/
theorem faulty_lint_starts (hq : Request.ofArgs args = .ok q)
    (hlint : q.task.listing? = some listing) (hconf : q.Configured s c r)
    (hfault : c.applicability.Fault r c.options) (programs : Programs) :
    (carryOut programs args s).1.exitCode = 2 ∧
      ((carryOut programs args s).2.started = s.started ↔
        q.firstInstallation? listing s c r = none) ∧
      ∃ ls, s.Installs programs ls (carryOut programs args s).2 ∧
        (carryOut programs args s).2.started = s.started ++ ls ∧
        ls.head? = q.firstInstallation? listing s c r := by
  obtain ⟨e, t, ls, hreport, hls, hfirst⟩ := exists_toReport_error hconf hfault programs listing
  rw [carryOut_of_error hq hlint hreport]
  refine ⟨rfl, ?_, ls, hls, hls.started_eq, hfirst⟩
  rw [hls.started_eq, List.append_right_eq_self, ← hfirst, List.head?_eq_none_iff]

/-- The request to install what is missing and to lint a file with the given linters. -/
def installingRequest (packages directories : String) : Request where
  settings := ⟨false, false, none, none, "text", false, none, some packages, some directories,
    true⟩
  task := .lintFiles ["a.go"]

/-- From the root of a tree without a configuration file, the request has the default linters
replaced. -/
theorem configured_installingRequest {entries : List (String × Node)} (hcwd : s.files.cwd = [])
    (hroot : s.files.root = .dir entries)
    (h : ∀ name ∈ Config.fileNames, entries.find? (fun e => e.1 = name) = none)
    (packages directories : String) :
    (installingRequest packages directories).Configured s
      { Config.default with
        packageLinters := splitIds packages
        dirLinters := splitIds directories } .builtin :=
  .of_default rfl (Config.load_of_no_entry hcwd hroot h)

/-- An unknown linter where nothing can be installed: nothing is started. -/
theorem faulty_lint_starts_nothing :
    (installingRequest "vet" "foo").Configured bareSession
        { Config.default with packageLinters := ["vet"], dirLinters := ["foo"] } .builtin ∧
      Applicability.Fault ⟨["vet"], ["foo"]⟩ .builtin .unset ∧
      (carryOut idlePrograms ["--install", "--package-linters", "vet", "--dir-linters", "foo",
        "lint", "--files", "a.go"] bareSession).1.exitCode = 2 ∧
      (carryOut idlePrograms ["--install", "--package-linters", "vet", "--dir-linters", "foo",
        "lint", "--files", "a.go"] bareSession).2.started = [] := by
  have hq : Request.ofArgs ["--install", "--package-linters", "vet", "--dir-linters", "foo",
      "lint", "--files", "a.go"] = .ok (installingRequest "vet" "foo") := by
    decide
  have hconf : (installingRequest "vet" "foo").Configured bareSession
      { Config.default with packageLinters := ["vet"], dirLinters := ["foo"] } .builtin :=
    configured_installingRequest rfl rfl (fun _ _ => rfl) "vet" "foo"
  have hfault : Applicability.Fault ⟨["vet"], ["foo"]⟩ .builtin .unset :=
    .unknown (show "foo" ∈ _ by decide) (by decide)
  obtain ⟨hcode, hstarted, -⟩ := faulty_lint_starts hq rfl hconf hfault idlePrograms
  refine ⟨hconf, hfault, hcode, hstarted.mpr ?_⟩
  have hnone : bareSession.installation? = fun _ => none :=
    funext (Session.installation?_of_no_go rfl)
  change Registry.firstInstallation? _ _ _ = none
  rw [Registry.firstInstallation?, hnone, Option.bind_fun_none]

/-- The program and the source of a built-in linter. -/
theorem exists_errcheck_spec :
    ∃ spec, Registry.builtin.get? "errcheck" = some spec ∧ spec.program = "errcheck" ∧
      spec.install = some "github.com/kisielk/errcheck@latest" := by
  have hlisted : ("errcheck", ⟨"errcheck -abspath", "PATH:LINE:COL:MESSAGE", .path,
      some "error return value not checked", some "github.com/kisielk/errcheck@latest"⟩) ∈
        builtinLinters := by
    decide
  have htemplate : CommandTemplate.parse "errcheck -abspath" =
      .ok ⟨"errcheck", [⟨"-abspath".toList, [.literal "-abspath".toList]⟩]⟩ := by
    decide +kernel
  exact ⟨_, get?_builtin hlisted htemplate Shorthand.lineAndColumn.parse_name, rfl, rfl⟩

/-- A linter that is listed for packages and for directories is installed before the lint is
refused. -/
theorem shared_linter_installed :
    (installingRequest "errcheck" "errcheck").Configured goSession
        { Config.default with packageLinters := ["errcheck"], dirLinters := ["errcheck"] }
        .builtin ∧
      Applicability.Fault ⟨["errcheck"], ["errcheck"]⟩ .builtin .unset ∧
      (carryOut idlePrograms ["--install", "--package-linters", "errcheck", "--dir-linters",
        "errcheck", "lint", "--files", "a.go"] goSession).1.exitCode = 2 ∧
      (carryOut idlePrograms ["--install", "--package-linters", "errcheck", "--dir-linters",
        "errcheck", "lint", "--files", "a.go"] goSession).2.started.head? =
          some (installLaunch "/bin/go" "github.com/kisielk/errcheck@latest") := by
  have hq : Request.ofArgs ["--install", "--package-linters", "errcheck", "--dir-linters",
      "errcheck", "lint", "--files", "a.go"] =
        .ok (installingRequest "errcheck" "errcheck") := by
    decide
  have hconf : (installingRequest "errcheck" "errcheck").Configured goSession
      { Config.default with packageLinters := ["errcheck"], dirLinters := ["errcheck"] }
      .builtin :=
    configured_installingRequest rfl rfl (by decide) "errcheck" "errcheck"
  have hfault : Applicability.Fault ⟨["errcheck"], ["errcheck"]⟩ .builtin .unset :=
    .shared (List.mem_singleton_self "errcheck") (List.mem_singleton_self _)
  obtain ⟨e, t, ls, hreport, hls, hfirst⟩ := exists_toReport_error hconf hfault idlePrograms
    fun _ => .ok ["a.go"]
  obtain ⟨spec, hspec, hprogram, hsource⟩ := exists_errcheck_spec
  have hmissing : goSession.findProgram? spec.program = none := by
    rw [hprogram, findProgram?_goSession_errcheck]
  have hhead : ls.head? =
      some (installLaunch "/bin/go" "github.com/kisielk/errcheck@latest") :=
    hfirst.trans ((Registry.firstInstallation?_of_missing hspec hmissing).trans
      (Session.installation?_of_missing hmissing hsource findProgram?_goSession_go))
  refine ⟨hconf, hfault, ?_⟩
  rw [carryOut_of_error hq rfl hreport, hls.started_eq]
  exact ⟨rfl, hhead⟩

end CommandLine

end LintVerdict
