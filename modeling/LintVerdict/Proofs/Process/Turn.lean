import LintVerdict.Proofs.Process.Plan

/-!
# The turn of a program

A program that linters need is looked up, and if it is missing the mode says what is done about it:
it is reported, it is planned, or it is installed. The file says what one program comes to, and when
the linter that needs it is refused instead.

## Main definitions

* `Ending.Succeeds`, `Ending.FailsFor`: what the ending of an installation says.
* `Turn`, `Turn.Taken`: the turn of a program, and what it comes to in a mode.
* `InstallFails`: an installation that fails.
* `Registry.Wants`: a linter whose program has had no turn yet and is missing.
* `Registry.Refuses`: a linter that is refused, and with which error.

## Main results

* `installAnswer_eq_ok_iff`: an installation is done exactly if it ends with code zero.
* `installProgram_eq_ok_iff`, `installProgram_eq_error_iff`: what comes of one installation.
* `dependency_eq_ok_iff`, `refuses_iff`: what comes of one linter.
-/

namespace LintVerdict

/-! ### The answer of an installation -/

/-- A program that was started has succeeded: it came to its end by itself, with code zero. -/
def Ending.Succeeds (answer : Except SystemError Ending) : Prop :=
  ∃ stdout stderr, answer = .ok (.finished stdout stderr (some 0))

/-- A program that was started has not succeeded, with the reason that is told: it could not start,
it did not come to its end, or it ended with another code or by a signal, and told why. -/
inductive Ending.FailsFor : Except SystemError Ending → String → Prop
  | unstarted (e : SystemError) : FailsFor (.error e) e.message
  | overran : FailsFor (.ok .overran) "it did not end"
  | lost (reason : String) : FailsFor (.ok (.lost reason)) reason
  | finished (stdout stderr : ByteArray) {code : Option Int} : code ≠ some 0 →
      FailsFor (.ok (.finished stdout stderr code)) (Text.trim (Text.lossy stderr))

/-- **An installation is done** exactly if it ends with code zero. -/
theorem installAnswer_eq_ok_iff {source : String} {answer : Except SystemError Ending} :
    installAnswer source answer = .ok () ↔ Ending.Succeeds answer := by
  rw [Ending.Succeeds]
  rcases answer with e | ⟨stdout, stderr, code⟩ | _ | reason <;> simp [installAnswer]

/-- Otherwise it fails, and the reason is told. -/
theorem installAnswer_eq_error_iff {source : String} {answer : Except SystemError Ending}
    {e : InstallError} :
    installAnswer source answer = .error e ↔
      ∃ reason, Ending.FailsFor answer reason ∧ e = .installFailed source reason := by
  constructor
  · intro h
    unfold installAnswer at h
    split at h
    · exact ⟨_, .unstarted _, (Except.error.inj h).symm⟩
    · exact ⟨_, .overran, (Except.error.inj h).symm⟩
    · exact ⟨_, .lost _, (Except.error.inj h).symm⟩
    · split at h
      · cases h
      · next hcode => exact ⟨_, .finished _ _ hcode, (Except.error.inj h).symm⟩
  · rintro ⟨reason, _ | _ | _ | ⟨_, _, hcode⟩, rfl⟩
    · rfl
    · rfl
    · rfl
    · rw [installAnswer, if_neg hcode]

/-! ### Turns -/

/-- The turn of a program. -/
structure Turn where
  /-- The program. -/
  program : String
  /-- The session in which it is looked up. -/
  before : Session
  /-- What becomes of it. -/
  status : DependencyStatus
  /-- What is started for it. -/
  started : List Launch
  /-- The session that its turn leaves. -/
  after : Session

/-- What a turn comes to in a mode. -/
structure Turn.Taken (programs : Programs) (mode : InstallMode) (source? : String → Option String)
    (x : Turn) : Prop where
  /-- A program that is found is there, and nothing is started for it. -/
  found : ∀ path, x.before.findProgram? x.program = some path →
    x.status = .present x.program path ∧ x.started = []
  /-- Where programs are only checked, it is found. -/
  check : mode = .check → x.before.findProgram? x.program ≠ none
  /-- Where the mode asks for a plan, a missing one would be installed from its source, and nothing
  is started. -/
  planned : mode = .dryRun → x.before.findProgram? x.program = none →
    ∃ source, source? x.program = some source ∧ x.status = .wouldInstall x.program source ∧
      x.started = []
  /-- Where programs are installed, the installation of a missing one from its source is all that is
  started, it succeeds, and the program is found after it. -/
  installed : mode = .install → x.before.findProgram? x.program = none →
    ∃ source go path, source? x.program = some source ∧ x.before.findProgram? "go" = some go ∧
      x.started = [installLaunch go source] ∧
      Ending.Succeeds (x.before.launch programs (installLaunch go source)).1 ∧
      x.after.findProgram? x.program = some path ∧ x.status = .installed x.program path
  /-- Nothing but what is started changes the session. -/
  after_eq : x.after = x.started.foldl (fun s l => (s.launch programs l).2) x.before

/-! ### Errors -/

/-- An installation that fails: the program that installs is missing, or it is started and does not
succeed, or the program is missing after it as before. -/
inductive InstallFails (programs : Programs) (program source : String) (s : Session) :
    InstallError → Session → Prop
  | goNotFound : s.findProgram? "go" = none →
      InstallFails programs program source s (.goNotFound source) s
  | failed {go : SystemText} {reason : String} : s.findProgram? "go" = some go →
      Ending.FailsFor (s.launch programs (installLaunch go source)).1 reason →
      InstallFails programs program source s (.installFailed source reason)
        (s.launch programs (installLaunch go source)).2
  | stillMissing {go : SystemText} : s.findProgram? "go" = some go →
      Ending.Succeeds (s.launch programs (installLaunch go source)).1 →
      (s.launch programs (installLaunch go source)).2.findProgram? program = none →
      InstallFails programs program source s (.stillMissing source program)
        (s.launch programs (installLaunch go source)).2

/-- A linter whose program has had no turn yet and is missing. -/
structure Registry.Wants (r : Registry) (handled : List String) (s : Session) (id : String)
    (spec : LinterSpec) : Prop where
  known : r.get? id = some spec
  fresh : spec.program ∉ handled
  missing : s.findProgram? spec.program = none

/-- A linter at which the work ends, with an error and a session: it is unknown, or its program is
missing and has no source, or it is missing where programs are only checked, or its installation
fails. -/
inductive Registry.Refuses (r : Registry) (programs : Programs) (mode : InstallMode)
    (handled : List String) (id : String) (s : Session) : InstallError → Session → Prop
  | unknown : r.get? id = none → Refuses r programs mode handled id s (.registry (.notFound id)) s
  | noSource {spec : LinterSpec} : r.Wants handled s id spec → spec.install = none →
      Refuses r programs mode handled id s (.noSource id spec.program) s
  | missing {spec : LinterSpec} {source : String} : mode = .check → r.Wants handled s id spec →
      spec.install = some source → Refuses r programs mode handled id s (.missing id spec.program) s
  | install {spec : LinterSpec} {source : String} {e : InstallError} {t : Session} :
      mode = .install → r.Wants handled s id spec → spec.install = some source →
      InstallFails programs spec.program source s e t → Refuses r programs mode handled id s e t

variable {programs : Programs} {r : Registry} {mode : InstallMode} {s t : Session}
  {spec : LinterSpec} {id program source : String} {path : SystemText} {seen : List String}
  {x : Turn} {source? source'? : String → Option String} {status : DependencyStatus}
  {e : InstallError}

/-! ### One installation -/

theorem installProgram_of_go {go : SystemText} (hgo : s.findProgram? "go" = some go) :
    installProgram programs program source s =
      match installAnswer source (s.launch programs (installLaunch go source)).1 with
      | .error e => (.error e, (s.launch programs (installLaunch go source)).2)
      | .ok _ =>
        match (s.launch programs (installLaunch go source)).2.findProgram? program with
        | some path => (.ok path, (s.launch programs (installLaunch go source)).2)
        | none => (.error (.stillMissing source program),
            (s.launch programs (installLaunch go source)).2) := by
  rcases hlaunch : s.launch programs (installLaunch go source) with ⟨ending, t⟩
  rw [installLaunch] at hlaunch
  cases hanswer : installAnswer source ending with
  | error e => simp only [installProgram, hgo, hlaunch, hanswer]
  | ok _ =>
      cases hfound : t.findProgram? program with
      | some path => simp only [installProgram, hgo, hlaunch, hanswer, hfound]
      | none => simp only [installProgram, hgo, hlaunch, hanswer, hfound]

/-- An installation succeeds if the program that installs is there and succeeds, and the program is
found after it. -/
theorem installProgram_eq_ok_iff :
    installProgram programs program source s = (.ok path, t) ↔
      ∃ go, s.findProgram? "go" = some go ∧
        Ending.Succeeds (s.launch programs (installLaunch go source)).1 ∧
        t = (s.launch programs (installLaunch go source)).2 ∧
        t.findProgram? program = some path := by
  cases hgo : s.findProgram? "go" with
  | none => simp [installProgram_of_no_go programs program source hgo]
  | some go =>
      rw [installProgram_of_go hgo]
      simp only [← @installAnswer_eq_ok_iff source]
      cases hanswer : installAnswer source (s.launch programs (installLaunch go source)).1 with
      | error e => simp [hanswer]
      | ok _ =>
          dsimp only
          cases hfind : (s.launch programs (installLaunch go source)).2.findProgram? program with
          | none => simp +contextual [hanswer, hfind]
          | some found =>
              simp only [Prod.mk.injEq, Except.ok.injEq, Option.some.injEq, exists_eq_left',
                hanswer, true_and]
              constructor
              · rintro ⟨rfl, rfl⟩
                exact ⟨rfl, hfind⟩
              · rintro ⟨rfl, hpath⟩
                exact ⟨Option.some.inj (hfind.symm.trans hpath), rfl⟩

/-- Otherwise it fails. -/
theorem installProgram_eq_error_iff :
    installProgram programs program source s = (.error e, t) ↔
      InstallFails programs program source s e t := by
  constructor
  · intro h
    cases hgo : s.findProgram? "go" with
    | none =>
        rw [installProgram_of_no_go programs program source hgo] at h
        obtain ⟨he, rfl⟩ := Prod.mk.inj h
        rw [← Except.error.inj he]
        exact .goNotFound hgo
    | some go =>
        rw [installProgram_of_go hgo] at h
        split at h
        · next hanswer =>
          obtain ⟨he, rfl⟩ := Prod.mk.inj h
          obtain ⟨reason, hreason, rfl⟩ := installAnswer_eq_error_iff.mp hanswer
          rw [← Except.error.inj he]
          exact .failed hgo hreason
        · next hanswer =>
          split at h
          · exact absurd (congrArg Prod.fst h) nofun
          · next hfind =>
            obtain ⟨he, rfl⟩ := Prod.mk.inj h
            rw [← Except.error.inj he]
            exact .stillMissing hgo (installAnswer_eq_ok_iff.mp hanswer) hfind
  · rintro (hgo | ⟨hgo, hreason⟩ | ⟨hgo, hanswer, hfind⟩)
    · exact installProgram_of_no_go programs program source hgo
    · rw [installProgram_of_go hgo, installAnswer_eq_error_iff.mpr ⟨_, hreason, rfl⟩]
    · rw [installProgram_of_go hgo, installAnswer_eq_ok_iff.mpr hanswer]
      dsimp only
      rw [hfind]

/-! ### One turn -/

/-- Requests that are made one after the other are what was started. -/
theorem Session.started_foldl_launch (ls : List Launch) (s : Session) :
    (ls.foldl (fun s l => (s.launch programs l).2) s).started = s.started ++ ls := by
  induction ls generalizing s with
  | nil => rw [List.foldl_nil, List.append_nil]
  | cons l ls ih =>
      rw [List.foldl_cons, ih, show (s.launch programs l).2.started = s.started ++ [l] from rfl,
        List.append_assoc, List.singleton_append]

namespace Turn

/-- A program that is found is there. -/
theorem taken_iff_of_found (h : x.before.findProgram? x.program = some path) :
    x.Taken programs mode source? ↔
      x.status = .present x.program path ∧ x.started = [] ∧ x.after = x.before := by
  constructor
  · intro hx
    obtain ⟨hstatus, hstarted⟩ := hx.found path h
    refine ⟨hstatus, hstarted, ?_⟩
    rw [hx.after_eq, hstarted]
    rfl
  · rintro ⟨hstatus, hstarted, hafter⟩
    refine ⟨fun path' hpath => ?_, fun _ hnone => ?_, fun _ hnone => ?_, fun _ hnone => ?_, ?_⟩
    · obtain rfl := Option.some.inj (h.symm.trans hpath)
      exact ⟨hstatus, hstarted⟩
    · cases h.symm.trans hnone
    · cases h.symm.trans hnone
    · cases h.symm.trans hnone
    · rw [hafter, hstarted]
      rfl

/-- A program that is missing is planned or installed. -/
theorem taken_iff_of_missing (h : x.before.findProgram? x.program = none) :
    x.Taken programs mode source? ↔
      ∃ source, source? x.program = some source ∧
        (mode = .dryRun ∧ x.status = .wouldInstall x.program source ∧ x.started = [] ∧
            x.after = x.before ∨
          mode = .install ∧ ∃ go path, x.before.findProgram? "go" = some go ∧
            x.started = [installLaunch go source] ∧
            installProgram programs x.program source x.before = (.ok path, x.after) ∧
            x.status = .installed x.program path) := by
  constructor
  · intro hx
    have hafter := hx.after_eq
    cases mode with
    | check => exact absurd h (hx.check rfl)
    | dryRun =>
        obtain ⟨source, hsource, hstatus, hstarted⟩ := hx.planned rfl h
        rw [hstarted] at hafter
        exact ⟨source, hsource, Or.inl ⟨rfl, hstatus, hstarted, hafter⟩⟩
    | install =>
        obtain ⟨source, go, path, hsource, hgo, hstarted, hanswer, hpath, hstatus⟩ :=
          hx.installed rfl h
        rw [hstarted] at hafter
        exact ⟨source, hsource, Or.inr ⟨rfl, go, path, hgo, hstarted,
          installProgram_eq_ok_iff.mpr ⟨go, hgo, hanswer, hafter, hpath⟩, hstatus⟩⟩
  · rintro ⟨source, hsource, ⟨rfl, hstatus, hstarted, hafter⟩ |
      ⟨rfl, go, path, hgo, hstarted, hdone, hstatus⟩⟩
    · refine ⟨fun _ hpath => ?_, nofun, fun _ _ => ⟨source, hsource, hstatus, hstarted⟩, nofun, ?_⟩
      · cases h.symm.trans hpath
      · rw [hafter, hstarted]
        rfl
    · obtain ⟨go', hgo', hanswer, hafter, hpath⟩ := installProgram_eq_ok_iff.mp hdone
      obtain rfl := Option.some.inj (hgo.symm.trans hgo')
      refine ⟨fun _ hpath => ?_, nofun, nofun,
        fun _ _ => ⟨source, go, path, hsource, hgo, hstarted, hanswer, hpath, hstatus⟩, ?_⟩
      · cases h.symm.trans hpath
      · rw [hafter, hstarted]
        rfl

/-- What becomes of a program tells the program. -/
theorem Taken.program_status (h : x.Taken programs mode source?) :
    x.status.program = x.program := by
  cases hfind : x.before.findProgram? x.program with
  | some path =>
      obtain ⟨hstatus, -⟩ := (taken_iff_of_found hfind).mp h
      rw [hstatus, DependencyStatus.program]
  | none =>
      obtain ⟨source, -, ⟨-, hstatus, -⟩ | ⟨-, go, path, -, -, -, hstatus⟩⟩ :=
        (taken_iff_of_missing hfind).mp h
      · rw [hstatus, DependencyStatus.program]
      · rw [hstatus, DependencyStatus.program]

/-- What is started in a turn is what was started. -/
theorem Taken.started_after (h : x.Taken programs mode source?) :
    x.after.started = x.before.started ++ x.started := by
  rw [h.after_eq, Session.started_foldl_launch]

/-- Unless programs are installed, a turn leaves the session as it is. -/
theorem Taken.after_eq_before (h : x.Taken programs mode source?) (hmode : mode ≠ .install) :
    x.after = x.before := by
  cases hfind : x.before.findProgram? x.program with
  | some path => exact ((taken_iff_of_found hfind).mp h).2.2
  | none =>
      obtain ⟨source, -, ⟨-, -, -, hafter⟩ | ⟨hinstall, -⟩⟩ := (taken_iff_of_missing hfind).mp h
      · exact hafter
      · exact absurd hinstall hmode

/-- Only the source of the program counts. -/
theorem taken_congr (h : source? x.program = source'? x.program) :
    x.Taken programs mode source? ↔ x.Taken programs mode source'? := by
  cases hfind : x.before.findProgram? x.program with
  | some path => rw [taken_iff_of_found hfind, taken_iff_of_found hfind]
  | none => rw [taken_iff_of_missing hfind, taken_iff_of_missing hfind, h]

end Turn

/-! ### One linter -/

/-- **What becomes of the program of a linter** is its turn, with the source that the linter
declares. -/
theorem dependency_eq_ok_iff :
    dependency programs mode spec s = (.ok status, t) ↔
      ∃ started, (⟨spec.program, s, status, started, t⟩ : Turn).Taken programs mode
        fun _ => spec.install := by
  delta dependency
  cases hfind : s.findProgram? spec.program with
  | some path =>
      simp only [Turn.taken_iff_of_found (x := ⟨spec.program, s, status, _, t⟩) hfind]
      simp [eq_comm]
  | none =>
      simp only [Turn.taken_iff_of_missing (x := ⟨spec.program, s, status, _, t⟩) hfind]
      cases hsource : spec.install with
      | none => simp
      | some source =>
          cases mode with
          | check => simp
          | dryRun => simp [eq_comm]
          | install =>
              dsimp only
              rcases hdone : installProgram programs spec.program source s with ⟨e | path, u⟩
              · simp [hdone]
              · obtain ⟨go, hgo, -⟩ := installProgram_eq_ok_iff.mp hdone
                simp [hdone, hgo, eq_comm, and_comm]

/-- **A known linter is refused** if its program, which has had no turn yet, cannot be had. -/
theorem refuses_iff (hspec : r.get? id = some spec) (hfresh : spec.program ∉ seen) :
    r.Refuses programs mode seen id s e t ↔ dependency programs mode spec s = (.error e, t) := by
  have hid : spec.id = id := Registry.id_of_get? hspec
  subst hid
  delta dependency
  constructor
  · rintro (hnone | ⟨hwants, hnone⟩ | ⟨rfl, hwants, hsource⟩ | ⟨rfl, hwants, hsource, hfails⟩)
    · cases hspec.symm.trans hnone
    all_goals
      obtain rfl := Option.some.inj (hspec.symm.trans hwants.known)
      rw [hwants.missing]
    · rw [hnone]
    · rw [hsource]
    · rw [hsource]
      dsimp only
      rw [installProgram_eq_error_iff.mpr hfails]
  · intro h
    cases hfind : s.findProgram? spec.program with
    | some path =>
        rw [hfind] at h
        cases h
    | none =>
        have hwants : r.Wants seen s spec.id spec := ⟨hspec, hfresh, hfind⟩
        rw [hfind] at h
        cases hsource : spec.install with
        | none =>
            rw [hsource] at h
            obtain ⟨he, rfl⟩ := Prod.mk.inj h
            rw [← Except.error.inj he]
            exact .noSource hwants hsource
        | some source =>
            rw [hsource] at h
            cases mode with
            | check =>
                obtain ⟨he, rfl⟩ := Prod.mk.inj h
                rw [← Except.error.inj he]
                exact .missing rfl hwants hsource
            | dryRun => cases h
            | install =>
                dsimp only at h
                split at h
                · next hfails =>
                  obtain ⟨he, rfl⟩ := Prod.mk.inj h
                  rw [← Except.error.inj he]
                  exact .install rfl hwants hsource (installProgram_eq_error_iff.mp hfails)
                · cases h

namespace Registry.Refuses

variable {handled handled' : List String}

/-- An unknown linter is refused as such. -/
theorem iff_of_get?_none (hnone : r.get? id = none) :
    r.Refuses programs mode handled id s e t ↔ e = .registry (.notFound id) ∧ t = s := by
  constructor
  · rintro (- | ⟨hwants, -⟩ | ⟨-, hwants, -⟩ | ⟨-, hwants, -, -⟩)
    · exact ⟨rfl, rfl⟩
    all_goals cases hnone.symm.trans hwants.known
  · rintro ⟨rfl, rfl⟩
    exact .unknown hnone

/-- A known linter is refused only if its program has had no turn. -/
theorem notMem (h : r.Refuses programs mode handled id s e t) (hspec : r.get? id = some spec) :
    spec.program ∉ handled := by
  rcases h with hnone | ⟨hwants, -⟩ | ⟨-, hwants, -⟩ | ⟨-, hwants, -, -⟩
  · cases hspec.symm.trans hnone
  all_goals
    obtain rfl := Option.some.inj (hspec.symm.trans hwants.known)
    exact hwants.fresh

/-- Unless programs are installed, a refusal leaves the session as it is. -/
theorem eq_of_ne_install (h : r.Refuses programs mode handled id s e t) (hmode : mode ≠ .install) :
    t = s := by
  cases h with
  | install hinstall => exact absurd hinstall hmode
  | _ => rfl

/-- Only which programs have had their turn counts. -/
theorem mono (h : r.Refuses programs mode handled id s e t) (hsub : handled' ⊆ handled) :
    r.Refuses programs mode handled' id s e t := by
  have hwants : ∀ {spec}, r.Wants handled s id spec → r.Wants handled' s id spec :=
    fun hw => ⟨hw.known, fun hmem => hw.fresh (hsub hmem), hw.missing⟩
  cases h with
  | unknown hnone => exact .unknown hnone
  | noSource hw hnone => exact .noSource (hwants hw) hnone
  | missing hmode hw hsource => exact .missing hmode (hwants hw) hsource
  | install hmode hw hsource hfails => exact .install hmode (hwants hw) hsource hfails

end Registry.Refuses

end LintVerdict
