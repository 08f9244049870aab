import LintVerdict.Proofs.CommandLine.Lint
import LintVerdict.Proofs.CommandLine.Scopes
import LintVerdict.Proofs.Dispatch.Configuration

/-!
# When the root is needed

A run asks for the root only if there is a pair to run. But a lint asks for it before, to read the
scopes off its files, as soon as a file is listed. So a lint without a pair is clean if no file is
listed or the root is told, and it fails without a root.

## Main definitions

* `ChecksNothing`: a lint that comes to its end without a pair.

## Main results

* `Dispatcher.pairs_ofFiles_eq_nil_iff`: when a list of files gives no pair.
* `Request.toReport_eq_clean_iff`: which lints come to the clean report of no check.
* `lint_without_pairs`: what becomes of a lint without a pair, with a root and without one.
-/

namespace LintVerdict

/-! ### Pairs -/

namespace Dispatcher

variable {d : Dispatcher} {scopes : Scopes}

/-- No pair is there exactly if each kind of scope lacks scopes or linters. -/
theorem pairs_eq_nil_iff :
    d.pairs scopes = [] ↔
      (scopes.packages = [] ∨ d.applicability.package = []) ∧
        (scopes.directories = [] ∨ d.applicability.directory = []) := by
  have hnil : ∀ (dirs linters : List String) (pair : String → String → Scope × String),
      (dirs.flatMap fun dir => linters.map (pair dir)) = [] ↔ dirs = [] ∨ linters = [] := by
    intro dirs linters pair
    cases dirs <;> cases linters <;> simp
  rw [pairs, List.append_eq_nil_iff]
  exact and_congr (hnil _ _ _) (hnil _ _ _)

/-- **When a list of files gives no pair**: no linter is listed for packages or no file is a Go
file, and no linter is listed for directories or all entries are blank. -/
theorem pairs_ofFiles_eq_nil_iff {files : List String} :
    d.pairs (.ofFiles files) = [] ↔
      ((∀ cs ∈ Scopes.normalized files, FilePath.isGo cs = false) ∨
          d.applicability.package = []) ∧
        (Scopes.normalized files = [] ∨ d.applicability.directory = []) := by
  rw [pairs_eq_nil_iff, Scopes.ofFiles_eq]
  simp [eraseDups_eq_nil_iff, List.filter_eq_nil_iff]

end Dispatcher

namespace CommandLine

variable {programs : Programs} {args : List String} {q : Request} {s t : Session} {c : Config}
  {r : Registry} {d : Dispatcher} {listing : Session → Except ScopeError (List String)}
  {paths : List String} {format : OutputFormat} {root : String} {e : DispatchError}

/-! ### Lints without a pair -/

/-- A lint that comes to its end without a pair: no file is listed, or the root is found and the
files give no pair from there. It leaves the session in which the root was found. -/
inductive ChecksNothing (programs : Programs) (o : Settings) (d : Dispatcher)
    (paths : List String) (s : Session) : Session → Prop
  /-- No file is listed. -/
  | unlisted : paths = [] → ChecksNothing programs o d paths s s
  /-- No listed file gives a pair. -/
  | unmatched {root : String} {t : Session} :
      paths ≠ [] → findRoot programs o s = (.ok root, t) →
      d.pairs (scopesFrom t.files root paths) = [] → ChecksNothing programs o d paths s t

/-- Once its scopes are known, a lint runs the linters on them. -/
theorem dispatchFiles_of_scopes {o : Settings} {scopes : Scopes}
    (hd : Dispatcher.make r c.applicability c.options c.failFast = .ok d)
    (hscopes : scopesOf programs o paths s = .ok scopes t) :
    dispatchFiles programs o c r paths s =
      Action.ofStep .dispatch (fun t =>
        let (report, _, t) := d.run (hostOf programs o) scopes (.new c.timeout, t)
        (report, t)) t := by
  rw [dispatchFiles, hd]
  exact Action.bind_of_ok hscopes

/-- With files but without a root no linter runs. -/
theorem dispatchFiles_of_lost {o : Settings}
    (hd : Dispatcher.make r c.applicability c.options c.failFast = .ok d)
    (hroot : findRoot programs o s = (.error e, t)) (hne : paths ≠ []) :
    dispatchFiles programs o c r paths s = .error (.dispatch e) t := by
  have hmake : Action.ofExcept .dispatch
      (Dispatcher.make r c.applicability c.options c.failFast) s = .ok d s := by
    rw [hd]
    rfl
  rw [dispatchFiles, Action.bind_of_ok hmake]
  exact Action.bind_of_error (scopesOf_of_lost hroot hne)

/-- The clean report of no check comes of scopes without a pair. -/
theorem dispatchFiles_eq_clean_iff_of_scopes {o : Settings} {scopes : Scopes} {t' : Session}
    (hd : Dispatcher.make r c.applicability c.options c.failFast = .ok d)
    (hscopes : scopesOf programs o paths s = .ok scopes t') :
    dispatchFiles programs o c r paths s = .ok .clean t ↔ d.pairs scopes = [] ∧ t' = t := by
  rw [dispatchFiles_of_scopes hd hscopes, Action.ofStep_eq_ok_iff]
  constructor
  · intro h
    rcases hrun : d.run (hostOf programs o) scopes (.new c.timeout, t') with ⟨result, x, t''⟩
    dsimp only at h
    rw [hrun] at h
    obtain ⟨rfl, rfl⟩ := Prod.mk.inj h
    obtain ⟨hpairs, hsame⟩ := Dispatcher.run_eq_clean_iff.mp hrun
    exact ⟨hpairs, congrArg Prod.snd hsame⟩
  · rintro ⟨hpairs, rfl⟩
    dsimp only
    rw [Dispatcher.run_of_no_pair hpairs]

/-- Which files come to the clean report of no check. -/
theorem dispatchFiles_eq_clean_iff {o : Settings}
    (hd : Dispatcher.make r c.applicability c.options c.failFast = .ok d) :
    dispatchFiles programs o c r paths s = .ok .clean t ↔
      ChecksNothing programs o d paths s t := by
  by_cases hne : paths = []
  · subst hne
    rw [dispatchFiles_eq_clean_iff_of_scopes hd (scopesOf_nil programs o s)]
    constructor
    · rintro ⟨-, rfl⟩
      exact .unlisted rfl
    · rintro (- | ⟨hne, -, -⟩)
      · exact ⟨rfl, rfl⟩
      · exact absurd rfl hne
  rcases hroot : findRoot programs o s with ⟨e | root, t'⟩
  · rw [dispatchFiles_of_lost hd hroot hne]
    refine iff_of_false nofun ?_
    rintro (hnil | ⟨-, hfound, -⟩)
    · exact hne hnil
    · exact absurd (hroot.symm.trans hfound) (by simp)
  · rw [dispatchFiles_eq_clean_iff_of_scopes hd (scopesOf_of_found hroot hne)]
    constructor
    · rintro ⟨hpairs, rfl⟩
      exact .unmatched hne hroot hpairs
    · rintro (hnil | ⟨-, hfound, hpairs⟩)
      · exact absurd hnil hne
      · obtain ⟨hsame, rfl⟩ := Prod.mk.inj (hroot.symm.trans hfound)
        obtain rfl := Except.ok.inj hsame
        exact ⟨hpairs, rfl⟩

/-- Without installations a lint goes on with its files. -/
theorem Request.Configured.toReport_eq_of_not_install (hconf : q.Configured s c r)
    (hpaths : listing s = .ok paths)
    (hformat : OutputFormat.ofName? q.settings.outputFormat = some format)
    (hinstall : q.settings.install = false) :
    q.toReport programs listing s =
      (do let report ← dispatchFiles programs q.settings c r paths
          return (format, report)) s := by
  rw [hconf.toReport_eq hpaths hformat, Action.bind_of_ok (installMissing_of_not hinstall c r)]

/-- **Which lints come to the clean report of no check.** -/
theorem Request.toReport_eq_clean_iff (hconf : q.Configured s c r)
    (hpaths : listing s = .ok paths)
    (hformat : OutputFormat.ofName? q.settings.outputFormat = some format)
    (hinstall : q.settings.install = false)
    (hd : Dispatcher.make r c.applicability c.options c.failFast = .ok d) :
    q.toReport programs listing s = .ok (format, .clean) t ↔
      ChecksNothing programs q.settings d paths s t := by
  rw [hconf.toReport_eq_of_not_install hpaths hformat hinstall, ← dispatchFiles_eq_clean_iff hd]
  constructor
  · intro h
    obtain ⟨report, t', hreport, hpure⟩ := Action.exists_of_bind_eq_ok h
    cases hpure
    exact hreport
  · intro h
    exact Action.bind_of_ok h

/-- A lint of files without a root fails. -/
theorem Request.toReport_of_lost (hconf : q.Configured s c r)
    (hpaths : listing s = .ok paths)
    (hformat : OutputFormat.ofName? q.settings.outputFormat = some format)
    (hinstall : q.settings.install = false)
    (hd : Dispatcher.make r c.applicability c.options c.failFast = .ok d) (hne : paths ≠ [])
    (hroot : findRoot programs q.settings s = (.error e, t)) :
    q.toReport programs listing s = .error (.dispatch e) t := by
  rw [hconf.toReport_eq_of_not_install hpaths hformat hinstall]
  exact Action.bind_of_error (dispatchFiles_of_lost hd hroot hne)

/-! ### The whole lint -/

/-- **What becomes of a lint without a pair.** Without installations, and with a configuration
that is accepted, a lint comes to the clean report of no check exactly if no file is listed, or
the root is found and the files give no pair from there. Then it ends with code zero. But with a
file and without a root it ends with code two, be there a pair or not. A run alone needs no root
without a pair, and asks its surroundings for nothing. Files give no pair if for packages there is
no linter or no Go file, and for directories no linter or no entry that is not blank. -/
theorem lint_without_pairs (hq : Request.ofArgs args = .ok q)
    (hlint : q.task.listing? = some listing) (hinstall : q.settings.install = false)
    (hconf : q.Configured s c r) (hpaths : listing s = .ok paths)
    (hformat : OutputFormat.ofName? q.settings.outputFormat = some format)
    (hd : Dispatcher.make r c.applicability c.options c.failFast = .ok d) (programs : Programs) :
    (∀ t, q.toReport programs listing s = .ok (format, .clean) t ↔
        ChecksNothing programs q.settings d paths s t) ∧
      (∀ t, ChecksNothing programs q.settings d paths s t →
        carryOut programs args s =
            (Outcome.ofReport q.settings.quiet (formatterOf format t) .clean, t) ∧
          (carryOut programs args s).1.exitCode = 0) ∧
      (paths ≠ [] → ∀ e t, findRoot programs q.settings s = (.error e, t) →
        (carryOut programs args s).1.exitCode = 2 ∧ (carryOut programs args s).2 = t) ∧
      (∀ scopes, d.pairs scopes = [] → ∀ {σ : Type} (host : Host σ) (x : σ),
        d.run host scopes x = (.ok .clean, x)) ∧
      ∀ files, d.pairs (.ofFiles files) = [] ↔
        ((∀ cs ∈ Scopes.normalized files, FilePath.isGo cs = false) ∨ c.packageLinters = []) ∧
          (Scopes.normalized files = [] ∨ c.dirLinters = []) := by
  have hclean : ∀ t, q.toReport programs listing s = .ok (format, .clean) t ↔
      ChecksNothing programs q.settings d paths s t := fun t =>
    Request.toReport_eq_clean_iff hconf hpaths hformat hinstall hd
  refine ⟨hclean, fun t ht => ?_, fun hne e t hroot => ?_, ?_, fun files => ?_⟩
  · rw [carryOut_of_report hq hlint ((hclean t).mpr ht)]
    exact ⟨rfl, Outcome.exitCode_ofReport q.settings.quiet (formatterOf format t) .clean⟩
  · rw [carryOut_of_error hq hlint
      (Request.toReport_of_lost hconf hpaths hformat hinstall hd hne hroot)]
    exact ⟨rfl, rfl⟩
  · exact fun scopes hpairs σ host x => Dispatcher.run_of_no_pair hpairs host x
  · obtain rfl := Dispatcher.eq_of_make hd
    exact Dispatcher.pairs_ofFiles_eq_nil_iff

/-- The request to lint a file with no linter at all. -/
def linterlessRequest (root : Option SystemText) : Request where
  settings := ⟨false, false, none, root, "text", false, none, some "", some "", false⟩
  task := .lintFiles ["a.go"]

/-- The configuration without any linter. -/
def linterlessDispatcher : Dispatcher := ⟨.builtin, ⟨[], []⟩, .unset, true⟩

/-- Without linters there is no pair. -/
theorem pairs_linterlessDispatcher (scopes : Scopes) : linterlessDispatcher.pairs scopes = [] :=
  Dispatcher.pairs_eq_nil_iff.mpr ⟨Or.inr rfl, Or.inr rfl⟩

theorem configured_linterlessRequest (root : Option SystemText) :
    (linterlessRequest root).Configured bareSession
      { Config.default with packageLinters := [], dirLinters := [] } .builtin :=
  .of_default rfl (Config.load_of_no_entry rfl rfl fun _ _ => rfl)

/-- With a given root a lint without linters is clean. -/
theorem lint_without_pairs_rooted :
    (carryOut idlePrograms ["--root", "/", "--package-linters", "", "--dir-linters", "", "lint",
        "--files", "a.go"] bareSession).1 = Outcome.ofReport false ⟨.text, false⟩ .clean ∧
      (carryOut idlePrograms ["--root", "/", "--package-linters", "", "--dir-linters", "", "lint",
        "--files", "a.go"] bareSession).1.exitCode = 0 := by
  have hq : Request.ofArgs ["--root", "/", "--package-linters", "", "--dir-linters", "", "lint",
      "--files", "a.go"] = .ok (linterlessRequest (some "/")) := by
    decide
  have hd : Dispatcher.make .builtin ⟨[], []⟩ .unset true = .ok linterlessDispatcher := rfl
  obtain ⟨-, hend, -⟩ := lint_without_pairs hq rfl rfl (configured_linterlessRequest (some "/"))
    rfl rfl hd idlePrograms
  obtain ⟨hout, hcode⟩ := hend bareSession
    (.unmatched (List.cons_ne_nil _ _) rfl (pairs_linterlessDispatcher _))
  exact ⟨congrArg Prod.fst hout, hcode⟩

/-- Programs that are not there. -/
def missingPrograms : Programs := fun x _ => (.error .notFound, x.files)

/-- Where the root cannot be told, a lint without linters fails. -/
theorem root_asked_without_pairs :
    Request.ofArgs ["--package-linters", "", "--dir-linters", "", "lint", "--files", "a.go"] =
        .ok (linterlessRequest none) ∧
      (linterlessRequest none).Configured bareSession
        { Config.default with packageLinters := [], dirLinters := [] } .builtin ∧
      Dispatcher.make .builtin ⟨[], []⟩ .unset true = .ok linterlessDispatcher ∧
      (∀ scopes, linterlessDispatcher.pairs scopes = []) ∧
      (carryOut missingPrograms ["--package-linters", "", "--dir-linters", "", "lint", "--files",
        "a.go"] bareSession).1.exitCode = 2 := by
  have hq : Request.ofArgs ["--package-linters", "", "--dir-linters", "", "lint", "--files",
      "a.go"] = .ok (linterlessRequest none) := by
    decide
  have hconf := configured_linterlessRequest none
  have hd : Dispatcher.make .builtin ⟨[], []⟩ .unset true = .ok linterlessDispatcher := rfl
  have hroot : findRoot missingPrograms (linterlessRequest none).settings bareSession =
      (.error (.rootResolution ("failed to run git: " ++ SystemError.notFound.message)),
        (bareSession.launch missingPrograms (gitLaunch none)).2) := rfl
  refine ⟨hq, hconf, hd, pairs_linterlessDispatcher, ?_⟩
  rw [carryOut_of_error hq rfl
    (Request.toReport_of_lost hconf rfl rfl rfl hd (List.cons_ne_nil _ _) hroot)]
  rfl

end CommandLine

end LintVerdict
