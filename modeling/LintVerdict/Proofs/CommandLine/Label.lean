import LintVerdict.Proofs.CommandLine.Fault

/-!
# The word before a failure

A failure is told behind a word for who has to act: on the configuration, or on the machine. The
word is taken from the dispatcher's errors. So a fault has its word where the dispatcher notices it,
and the same fault has none where the configuration is read, the linters are defined or the missing
ones are installed. The file tells how far a lint has to come for the word.

## Main definitions

* `Failure.kind?`: who has to act on a failure, wherever it is noticed.
* `Failure.told`: a failure behind a word, as it is printed.
* `Request.ReachesDispatcher`: the request is a lint, and comes as far as its dispatcher.

## Main results

* `Request.isDispatch_iff_reaches`: which failures are the dispatcher's.
* `failure_labelled`: when a failure is told behind the word for its kind.
-/

namespace LintVerdict

/-- The word for who has to act. -/
def ErrorKind.word : ErrorKind → String
  | configuration => "Configuration error"
  | environment => "Environment error"

namespace Failure

/-- Who has to act on a failure, by what is wrong and not by the step that notices it. A fault of
the configuration file or of linters is one of the configuration, and so is a template that does not
resolve. A program that cannot be had or run, and a root that cannot be used, is a fault of the
machine. An unknown format and files that cannot be listed are neither. -/
def kind? : Failure → Option ErrorKind
  | config _ => some .configuration
  | definitions _ => some .configuration
  | install (.registry _) => some .configuration
  | install _ => some .environment
  | dispatch (.registry _) => some .configuration
  | dispatch (.template _ (.target _ _)) => none
  | dispatch (.template _ _) => some .configuration
  | dispatch _ => some .environment
  | format _ => none
  | scope _ => none

/-- Whether a failure is an error of the dispatcher. -/
def isDispatch : Failure → Bool
  | dispatch _ => true
  | _ => false

/-- A word as it is printed before a failure. -/
def shownWord (colors : Bool) (word : String) : String :=
  (if colors then Style.bad.paint word else word) ++ ": "

/-- A failure behind a word, as it is printed. -/
def told (e : Failure) (colors : Bool) (word : String) : String :=
  shownWord colors word ++ Text.joinWith ": " e.causes ++ "\n"

variable {e : Failure} {kind : ErrorKind} {colors : Bool} {word : String}

theorem line_eq (e : Failure) (colors : Bool) : e.line colors ++ "\n" = e.told colors e.label := rfl

/-- The dispatcher's errors have the word for their kind. -/
theorem label_of_isDispatch (h : e.isDispatch = true) (hkind : e.kind? = some kind) :
    e.label = kind.word := by
  cases e with
  | dispatch fault =>
      cases fault with
      | template linter fault =>
          cases fault with
          | target => cases hkind
          | _ =>
              cases hkind
              rfl
      | _ =>
          cases hkind
          rfl
  | _ => cases h

/-- No other failure has a word. -/
theorem label_of_not_isDispatch (h : e.isDispatch = false) : e.label = "Error" := by
  cases e with
  | dispatch fault => cases h
  | _ => rfl

/-- What is told begins with its word. -/
theorem shownWord_prefix_told : (shownWord colors word).toList <+: (e.told colors word).toList := by
  rw [told, String.toList_append, String.toList_append, List.append_assoc]
  exact List.prefix_append _ _

/-- What is told without a kind does not begin with the word for one. -/
theorem not_shownWord_prefix_told :
    ¬ (shownWord colors kind.word).toList <+: (e.told colors "Error").toList := by
  intro h
  -- Two words before a failure are not the beginning of each other.
  obtain h | h := List.prefix_or_prefix_of_prefix h shownWord_prefix_told <;>
    revert h <;> cases colors <;> cases kind <;> decide

end Failure

namespace CommandLine

variable {programs : Programs} {args : List String} {q : Request} {s t u : Session} {c : Config}
  {r : Registry} {listing : Session → Except ScopeError (List String)} {paths : List String}
  {e : Failure} {kind : ErrorKind}

/-- The request is a lint, and comes as far as its dispatcher: the configuration is read, the
linters are defined, the files are told, the format is known, and what is missing is installed if
that is asked for. -/
def Request.ReachesDispatcher (q : Request) (programs : Programs) (s : Session) : Prop :=
  ∃ listing c r paths format, q.task.listing? = some listing ∧ q.Configured s c r ∧
    listing s = .ok paths ∧ OutputFormat.ofName? q.settings.outputFormat = some format ∧
    (q.settings.install = true → ∃ statuses,
      (checkDependencies programs r c.applicability.allIds .install s).1 = .ok statuses)

/-! ### Step by step -/

/-- Reading the configuration leaves the session as it is. -/
theorem configOf_cases (o : Settings) (s : Session) :
    (∃ c, configOf o s = .ok c s) ∨ ∃ fault, configOf o s = .error (.config fault) s := by
  have hget : (get : Action Session) s = .ok s s := rfl
  rw [configOf, Action.bind_of_ok hget]
  cases hload : Config.load s.files o.config s.files.here with
  | error fault => exact Or.inr ⟨fault, rfl⟩
  | ok loaded => exact Or.inl ⟨_, rfl⟩

/-- A lint knows what it works on if its configuration is read and its files are told. -/
theorem prepare_eq_ok_iff :
    q.prepare listing s = .ok (c, r, paths) t ↔
      s = t ∧ q.Configured s c r ∧ listing s = .ok paths := by
  constructor
  · intro h
    obtain ⟨c', s₁, hconfig, h⟩ := Action.exists_of_bind_eq_ok h
    obtain rfl : s = s₁ := by
      obtain ⟨_, hread⟩ | ⟨_, hread⟩ := configOf_cases q.settings s <;>
        cases hconfig.symm.trans hread
      rfl
    obtain ⟨r', s₂, hdefined, h⟩ := Action.exists_of_bind_eq_ok h
    obtain ⟨hregistry, rfl⟩ := Action.ofExcept_eq_ok_iff.mp hdefined
    obtain ⟨_, _, hget, h⟩ := Action.exists_of_bind_eq_ok h
    cases hget
    obtain ⟨paths', s₃, htold, h⟩ := Action.exists_of_bind_eq_ok h
    obtain ⟨hpaths, rfl⟩ := Action.ofExcept_eq_ok_iff.mp htold
    cases h
    exact ⟨rfl, ⟨hconfig, hregistry⟩, hpaths⟩
  · rintro ⟨rfl, hconf, hpaths⟩
    exact hconf.prepare_eq hpaths

/-- What is asked for is installed if all programs can be had. -/
theorem exists_installMissing_iff {o : Settings} :
    (∃ t, installMissing programs o c r s = .ok () t) ↔
      (o.install = true → ∃ statuses,
        (checkDependencies programs r c.applicability.allIds .install s).1 = .ok statuses) := by
  cases hinstall : o.install with
  | false => exact iff_of_true ⟨s, installMissing_of_not hinstall c r⟩ (by simp)
  | true =>
      rw [installMissing, if_pos hinstall]
      rcases hcheck : checkDependencies programs r c.applicability.allIds .install s with
        ⟨e | statuses, t⟩
      · refine iff_of_false ?_ (fun hdone => absurd (hdone rfl) (by simp))
        rintro ⟨_, hdone⟩
        obtain ⟨_, _, hstep, -⟩ := Action.exists_of_bind_eq_ok hdone
        cases hcheck.symm.trans (Action.ofStep_eq_ok_iff.mp hstep)
      · exact iff_of_true ⟨t, Action.bind_of_ok (Action.ofStep_eq_ok_iff.mpr hcheck)⟩
          fun _ => ⟨statuses, rfl⟩

/-! ### Whose error it is -/

section Ways

variable (programs listing)

theorem failsOnly_configOf (o : Settings) :
    (configOf o).FailsOnly fun e => e.isDispatch = false :=
  .bind .get fun _ => .bind (.ofExcept (by simp [Failure.isDispatch]) _) fun _ => .pure _

/-- Before the dispatcher is made no failure is its error. -/
theorem failsOnly_prepare (q : Request) :
    (q.prepare listing).FailsOnly fun e => e.isDispatch = false :=
  .bind (failsOnly_configOf _) fun _ => .bind (.ofExcept (by simp [Failure.isDispatch]) _) fun _ =>
    .bind .get fun _ => .bind (.ofExcept (by simp [Failure.isDispatch]) _) fun _ => .pure _

theorem failsOnly_formatOf (o : Settings) :
    (formatOf o).FailsOnly fun e => e.isDispatch = false := by
  rw [formatOf]
  split
  · exact .pure _
  · exact .throw rfl

theorem failsOnly_installMissing (o : Settings) (c : Config) (r : Registry) :
    (installMissing programs o c r).FailsOnly fun e => e.isDispatch = false := by
  rw [installMissing]
  split
  · exact .bind (.ofStep (by simp [Failure.isDispatch]) _) fun _ => .pure _
  · exact .pure _

/-- Afterwards every failure is. -/
theorem failsOnly_dispatchFiles (o : Settings) (c : Config) (r : Registry) (paths : List String) :
    (dispatchFiles programs o c r paths).FailsOnly fun e => e.isDispatch = true := by
  refine .bind (.ofExcept (by simp [Failure.isDispatch]) _) fun d => .bind ?_ fun scopes =>
    .ofStep (by simp [Failure.isDispatch]) _
  rw [scopesOf]
  split
  · exact .pure _
  · exact .bind (.ofStep (by simp [Failure.isDispatch]) _) fun _ => .bind .get fun _ => .pure _

/-- Other tasks have no dispatcher. -/
theorem failsOnly_perform (h : q.task.listing? = none) :
    (q.perform programs).FailsOnly fun e => e.isDispatch = false := by
  refine .bind (failsOnly_configOf _) fun c => .bind (.ofExcept (by simp [Failure.isDispatch]) _)
    fun r => .bind .get fun files => ?_
  split
  · exact .bind .get fun _ => .pure _
  · exact .bind (.ofStep (by simp [Failure.isDispatch]) _) fun _ => .pure _
  all_goals simp_all [Task.listing?]

end Ways

/-- **Which failures are the dispatcher's**: those of a lint that comes as far as that. -/
theorem Request.isDispatch_iff_reaches (h : q.perform programs s = .error e t) :
    e.isDispatch = true ↔ q.ReachesDispatcher programs s := by
  cases hlint : q.task.listing? with
  | none =>
      refine iff_of_false (by simp [failsOnly_perform programs hlint h]) ?_
      rintro ⟨listing, c, r, paths, format, hlisting, -⟩
      exact absurd (hlint.symm.trans hlisting) nofun
  | some listing =>
      have hreport : q.toReport programs listing s = .error e t := by
        rw [perform_eq hlint] at h
        obtain hreport | ⟨_, _, -, hprinted⟩ := Action.exists_of_bind_eq_error h
        · exact hreport
        · exact absurd hprinted nofun
      constructor
      · intro hdispatch
        have hnot : e.isDispatch ≠ false := by simp [hdispatch]
        obtain hfail | ⟨⟨c, r, paths⟩, s₁, hprepared, h⟩ := Action.exists_of_bind_eq_error hreport
        · exact absurd (failsOnly_prepare listing q hfail) hnot
        obtain hfail | ⟨format, s₂, hformat, h⟩ := Action.exists_of_bind_eq_error h
        · exact absurd (failsOnly_formatOf _ hfail) hnot
        obtain hfail | ⟨_, s₃, hinstalled, -⟩ := Action.exists_of_bind_eq_error h
        · exact absurd (failsOnly_installMissing programs _ c r hfail) hnot
        obtain ⟨rfl, hconf, hpaths⟩ := prepare_eq_ok_iff.mp hprepared
        obtain ⟨hname, rfl⟩ := formatOf_eq_ok_iff.mp hformat
        exact ⟨listing, c, r, paths, format, hlint, hconf, hpaths, hname,
          exists_installMissing_iff.mp ⟨s₃, hinstalled⟩⟩
      · rintro ⟨listing', c, r, paths, format, hlisting, hconf, hpaths, hname, hhad⟩
        obtain rfl := Option.some.inj (hlint.symm.trans hlisting)
        obtain ⟨u, hinstalled⟩ := exists_installMissing_iff.mpr hhad
        rw [hconf.toReport_eq hpaths hname, Action.bind_of_ok hinstalled] at hreport
        obtain hfail | ⟨_, _, -, hshown⟩ := Action.exists_of_bind_eq_error hreport
        · exact failsOnly_dispatchFiles programs _ c r paths hfail
        · exact absurd hshown nofun

/-! ### The printed word -/

/-- **When a failure is told behind the word for its kind**: exactly if it ends a lint that has come
as far as its dispatcher. Before that, and in every other task, the same fault is told as a mere
error. The exit code is two in any case. -/
theorem failure_labelled (hq : Request.ofArgs args = .ok q)
    (hfail : q.perform programs s = .error e t) (hkind : e.kind? = some kind) :
    (carryOut programs args s).1.exitCode = 2 ∧ (carryOut programs args s).1.stdout = "" ∧
      ((Failure.shownWord (colored t) kind.word).toList <+:
          (carryOut programs args s).1.stderr.toList ↔ q.ReachesDispatcher programs s) ∧
      (q.ReachesDispatcher programs s →
        (carryOut programs args s).1.stderr = e.told (colored t) kind.word) ∧
      (¬ q.ReachesDispatcher programs s →
        (carryOut programs args s).1.stderr = e.told (colored t) "Error") := by
  have hrun : carryOut programs args s =
      (⟨ExitStatus.toolError.code, "", e.told (colored t) e.label⟩, t) := by
    rw [carryOut, hq]
    dsimp only
    rw [hfail, ← Failure.line_eq]
  rw [hrun, ← Request.isDispatch_iff_reaches hfail]
  cases hdispatch : e.isDispatch with
  | true =>
      rw [Failure.label_of_isDispatch hdispatch hkind]
      exact ⟨rfl, rfl, iff_of_true Failure.shownWord_prefix_told rfl, fun _ => rfl, fun h =>
        absurd rfl h⟩
  | false =>
      rw [Failure.label_of_not_isDispatch hdispatch]
      exact ⟨rfl, rfl, iff_of_false Failure.not_shownWord_prefix_told (by simp),
        by simp, fun _ => rfl⟩

/-- A request to lint a file with the given linters, in which nothing is to be installed. -/
def plainRequest (packages directories : String) : Request where
  settings := { (installingRequest packages directories).settings with install := false }
  task := .lintFiles ["a.go"]

theorem configured_plainRequest (packages directories : String) :
    (plainRequest packages directories).Configured bareSession
      { Config.default with
        packageLinters := splitIds packages
        dirLinters := splitIds directories } .builtin :=
  .of_default rfl (Config.load_of_no_entry rfl rfl fun _ _ => rfl)

theorem lookup_foo : Registry.builtin.lookup "foo" = .error (.notFound "foo") := by
  rw [Registry.lookup, show Registry.builtin.get? "foo" = none by decide]

/-- An unknown linter is a fault of the configuration, and is told as one where the dispatcher
notices it. -/
theorem failure_labelled_foo :
    (plainRequest "foo" "vet").perform idlePrograms bareSession =
        .error (.dispatch (.registry (.notFound "foo"))) bareSession ∧
      (plainRequest "foo" "vet").ReachesDispatcher idlePrograms bareSession ∧
      (carryOut idlePrograms ["--package-linters", "foo", "--dir-linters", "vet", "lint",
        "--files", "a.go"] bareSession).1.stderr =
          "Configuration error: unknown linter 'foo'\n" := by
  have hq : Request.ofArgs ["--package-linters", "foo", "--dir-linters", "vet", "lint", "--files",
      "a.go"] = .ok (plainRequest "foo" "vet") := by
    decide
  have hconf : (plainRequest "foo" "vet").Configured bareSession
      { Config.default with packageLinters := ["foo"], dirLinters := ["vet"] } .builtin :=
    configured_plainRequest "foo" "vet"
  have hmake : Dispatcher.make .builtin ⟨["foo"], ["vet"]⟩ .unset true =
      .error (.registry (.notFound "foo")) := by
    rw [Dispatcher.make, show Applicability.validate _ _ = .error (.notFound "foo") by decide]
  have hfail : (plainRequest "foo" "vet").perform idlePrograms bareSession =
      .error (.dispatch (.registry (.notFound "foo"))) bareSession := by
    rw [Request.perform_eq rfl]
    refine Action.bind_of_error ?_
    rw [hconf.toReport_eq rfl rfl, Action.bind_of_ok (installMissing_of_not rfl _ _)]
    exact Action.bind_of_error (dispatchFiles_of_error hmake _ _)
  have hreaches : (plainRequest "foo" "vet").ReachesDispatcher idlePrograms bareSession :=
    ⟨_, _, _, _, _, rfl, hconf, rfl, rfl, fun h => absurd h (by decide)⟩
  obtain ⟨-, -, -, htold, -⟩ := failure_labelled hq hfail rfl
  exact ⟨hfail, hreaches, htold hreaches⟩

/-- The same linter is told as a mere error where missing linters are to be installed. -/
theorem unknown_linter_unlabelled :
    (carryOut idlePrograms ["--install", "--package-linters", "foo", "--dir-linters", "vet",
      "lint", "--files", "a.go"] bareSession).1 =
        ⟨2, "", "Error: unknown linter 'foo'\n"⟩ ∧
      (Failure.install (.registry (.notFound "foo"))).kind? = some .configuration := by
  have hq : Request.ofArgs ["--install", "--package-linters", "foo", "--dir-linters", "vet",
      "lint", "--files", "a.go"] = .ok (installingRequest "foo" "vet") := by
    decide
  have hconf : (installingRequest "foo" "vet").Configured bareSession
      { Config.default with packageLinters := ["foo"], dirLinters := ["vet"] } .builtin :=
    configured_installingRequest rfl rfl (fun _ _ => rfl) "foo" "vet"
  have hcheck : checkDependencies idlePrograms .builtin ["foo", "vet"] .install bareSession =
      (.error (.registry (.notFound "foo")), bareSession) := by
    rw [checkDependencies, dependencies, lookup_foo]
  have hreport : (installingRequest "foo" "vet").toReport idlePrograms (fun _ => .ok ["a.go"])
      bareSession = .error (.install (.registry (.notFound "foo"))) bareSession := by
    rw [hconf.toReport_eq rfl rfl]
    refine Action.bind_of_error (Action.bind_of_error ?_)
    change Action.ofStep _ (checkDependencies _ _ ["foo", "vet"] _) _ = _
    rw [Action.ofStep, hcheck]
  refine ⟨?_, rfl⟩
  rw [carryOut_of_error hq rfl hreport]
  rfl

end CommandLine

end LintVerdict
