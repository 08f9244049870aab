import LintVerdict.Process.Install
import LintVerdict.Proofs.Files.Location
import LintVerdict.Proofs.Linter

/-!
# What an installation starts

The linters are gone through in their order. One whose program is there asks for nothing, and one
whose program is missing is installed, or ends the work. The file follows the session through this
work: every program that is started installs a linter that is missing then, and the first one is
started for the first linter that is not at hand.

## Main definitions

* `DependencyStatus.place`: the program of a status, and where it is.
* `Session.installation?`: the request by which a linter is to be installed.
* `Session.Installs`: a session in which some linters were installed after another.
* `Registry.firstInstallation?`: the request with which the work on some linters begins.

## Main results

* `dependency_cases`: what can come of one linter.
* `installs_checkDependencies`: only installations are started, and which one is the first.
-/

namespace LintVerdict

/-- The request to install a program from its source. -/
def installLaunch (go : SystemText) (source : String) : Launch := ⟨go, ["install", source], none, 0⟩

/-- What a status says beside a source: the program, and where it is if it is somewhere. -/
def DependencyStatus.place : DependencyStatus → String × Option SystemText
  | present program path => (program, some path)
  | wouldInstall program _ => (program, none)
  | installed program path => (program, some path)

namespace Session

/-- The request by which a linter is to be installed. There is one if its program is missing, its
source is known and the program that installs is there. -/
def installation? (s : Session) (spec : LinterSpec) : Option Launch :=
  match s.findProgram? spec.program, spec.install, s.findProgram? "go" with
  | none, some source, some go => some (installLaunch go source)
  | _, _, _ => none

/-- From a session to another by installations alone. Each is to be made in the session that the
one before it left. -/
inductive Installs (programs : Programs) : Session → List Launch → Session → Prop
  | nil {s : Session} : Installs programs s [] s
  | cons {s t : Session} {spec : LinterSpec} {l : Launch} {ls : List Launch} :
      s.installation? spec = some l → Installs programs (s.launch programs l).2 ls t →
      Installs programs s (l :: ls) t

variable {programs : Programs} {s t : Session} {ls : List Launch} {spec : LinterSpec}

/-- The installations are what was started. -/
theorem Installs.started_eq (h : s.Installs programs ls t) : t.started = s.started ++ ls := by
  induction h with
  | nil => rw [List.append_nil]
  | @cons s t spec l ls _ _ ih =>
      rw [ih, show (s.launch programs l).2.started = s.started ++ [l] from rfl, List.append_assoc,
        List.singleton_append]

/-- A linter that is missing and whose source is known is to be installed. -/
theorem installation?_of_missing {go source : String}
    (hmissing : s.findProgram? spec.program = none) (hsource : spec.install = some source)
    (hgo : s.findProgram? "go" = some go) :
    s.installation? spec = some (installLaunch go source) := by
  delta installation?
  rw [hmissing, hsource, hgo]

/-- Without the program that installs no linter is to be installed. -/
theorem installation?_of_no_go (hgo : s.findProgram? "go" = none) (spec : LinterSpec) :
    s.installation? spec = none := by
  delta installation?
  rw [hgo]
  cases s.findProgram? spec.program <;> cases spec.install <;> rfl

end Session

/-- Whether a linter is not at hand: it is unknown or its program is missing. -/
def Registry.lacks (r : Registry) (s : Session) (id : String) : Bool :=
  (r.get? id).all fun spec => (s.findProgram? spec.program).isNone

/-- The request with which the work on some linters begins: that for the first one that is not at
hand, if it is to be installed. -/
def Registry.firstInstallation? (r : Registry) (s : Session) (ids : List String) : Option Launch :=
  ((ids.find? (r.lacks s)).bind r.get?).bind s.installation?

variable {programs : Programs} {r : Registry} {s t : Session} {spec : LinterSpec} {id : String}
  {ids seen : List String}

/-! ### The first linter that is not at hand -/

namespace Registry

/-- An unknown linter is not installed. -/
theorem firstInstallation?_of_unknown (h : r.get? id = none) :
    r.firstInstallation? s (id :: ids) = none := by
  have hlacks : r.lacks s id = true := by rw [lacks, h, Option.all_none]
  rw [firstInstallation?, List.find?_cons_of_pos hlacks, Option.bind_some, h, Option.bind_none]

/-- A linter whose program is there does not decide which installation is the first. -/
theorem firstInstallation?_of_found {path : String} (h : r.get? id = some spec)
    (hfound : s.findProgram? spec.program = some path) :
    r.firstInstallation? s (id :: ids) = r.firstInstallation? s ids := by
  have hlacks : ¬ r.lacks s id = true := by simp [lacks, h, hfound]
  rw [firstInstallation?, firstInstallation?, List.find?_cons_of_neg hlacks]

/-- A linter whose program is missing decides it. -/
theorem firstInstallation?_of_missing (h : r.get? id = some spec)
    (hmissing : s.findProgram? spec.program = none) :
    r.firstInstallation? s (id :: ids) = s.installation? spec := by
  have hlacks : r.lacks s id = true := by simp [lacks, h, hmissing]
  rw [firstInstallation?, List.find?_cons_of_pos hlacks, Option.bind_some, h, Option.bind_some]

end Registry

/-! ### One linter -/

/-- Without the program that installs nothing is started. -/
theorem installProgram_of_no_go (programs : Programs) (program source : String)
    (hgo : s.findProgram? "go" = none) :
    installProgram programs program source s = (.error (.goNotFound source), s) := by
  unfold installProgram
  rw [hgo]

/-- An installation starts the program that installs, and nothing else. -/
theorem exists_installProgram {go : String} (programs : Programs) (program source : String)
    (hgo : s.findProgram? "go" = some go) :
    ∃ result, installProgram programs program source s =
      (result, (s.launch programs (installLaunch go source)).2) := by
  unfold installProgram
  rw [hgo]
  dsimp only
  rw [show (⟨go, ["install", source], none, 0⟩ : Launch) = installLaunch go source from rfl]
  rcases s.launch programs (installLaunch go source) with ⟨ending, t⟩
  dsimp only
  split
  · exact ⟨_, rfl⟩
  · split <;> exact ⟨_, rfl⟩

/-- **What can come of one linter**: its program is there, or it cannot be installed and nothing is
started, or it is to be installed and just this is started. -/
theorem dependency_cases (programs : Programs) (spec : LinterSpec) (s : Session) :
    (∃ path, s.findProgram? spec.program = some path ∧
        dependency programs .install spec s = (.ok (.present spec.program path), s)) ∨
      (s.findProgram? spec.program = none ∧ s.installation? spec = none ∧
        ∃ e, dependency programs .install spec s = (.error e, s)) ∨
      (s.findProgram? spec.program = none ∧ ∃ l result, s.installation? spec = some l ∧
        dependency programs .install spec s = (result, (s.launch programs l).2)) := by
  delta dependency Session.installation?
  cases hfind : s.findProgram? spec.program with
  | some path => exact Or.inl ⟨path, rfl, rfl⟩
  | none =>
      refine Or.inr ?_
      cases spec.install with
      | none => exact Or.inl ⟨rfl, rfl, _, rfl⟩
      | some source =>
          dsimp only
          cases hgo : s.findProgram? "go" with
          | none =>
              rw [installProgram_of_no_go programs spec.program source hgo]
              exact Or.inl ⟨rfl, rfl, _, rfl⟩
          | some go =>
              obtain ⟨result, hresult⟩ :=
                exists_installProgram programs spec.program source hgo
              rw [hresult]
              refine Or.inr ⟨rfl, installLaunch go source, ?_⟩
              cases result with
              | error e => exact ⟨_, rfl, rfl⟩
              | ok path => exact ⟨_, rfl, rfl⟩

/-! ### All linters -/

section Rest

variable {mode : InstallMode}

/-- An unknown linter ends the work. -/
theorem dependencies_of_unknown (h : r.get? id = none) :
    (dependencies programs r mode (id :: ids) seen s).2 = s := by
  rw [dependencies, Registry.lookup, h]

/-- A program that was met before is passed over. -/
theorem dependencies_of_seen (h : r.get? id = some spec) (hseen : spec.program ∈ seen) :
    dependencies programs r mode (id :: ids) seen s =
      dependencies programs r mode ids seen s := by
  rw [dependencies, Registry.lookup_of_get? h]
  exact if_pos (by simpa using hseen)

/-- A program that cannot be had ends the work. -/
theorem dependencies_of_error {e : InstallError} (h : r.get? id = some spec)
    (hseen : spec.program ∉ seen) (hfail : dependency programs mode spec s = (.error e, t)) :
    (dependencies programs r mode (id :: ids) seen s).2 = t := by
  rw [dependencies, Registry.lookup_of_get? h]
  dsimp only
  rw [if_neg (by simpa using hseen), hfail]

/-- **The work comes to its end** for the first linter if its program was met before or can be had,
and then for the others. -/
theorem dependencies_cons_eq_ok_iff {statuses : List DependencyStatus}
    (h : r.get? id = some spec) :
    dependencies programs r mode (id :: ids) seen s = (.ok statuses, t) ↔
      spec.program ∈ seen ∧ dependencies programs r mode ids seen s = (.ok statuses, t) ∨
        spec.program ∉ seen ∧ ∃ status u rest,
          dependency programs mode spec s = (.ok status, u) ∧
          dependencies programs r mode ids (spec.program :: seen) u = (.ok rest, t) ∧
          statuses = status :: rest := by
  by_cases hseen : spec.program ∈ seen
  · rw [dependencies_of_seen h hseen]
    simp [hseen]
  · rw [dependencies, Registry.lookup_of_get? h]
    dsimp only
    rw [if_neg (by simpa using hseen)]
    rcases dependency programs mode spec s with ⟨e | status, u⟩
    · simp [hseen]
    · dsimp only
      rcases hrest : dependencies programs r mode ids (spec.program :: seen) u with ⟨e | rest, v⟩
      · simp [hseen, hrest]
      · simp [hseen, hrest, eq_comm, and_comm]

/-- After a program that can be had the work goes on. -/
theorem dependencies_of_ok {status : DependencyStatus} (h : r.get? id = some spec)
    (hseen : spec.program ∉ seen) (hdone : dependency programs mode spec s = (.ok status, t)) :
    (dependencies programs r mode (id :: ids) seen s).2 =
      (dependencies programs r mode ids (spec.program :: seen) t).2 := by
  rw [dependencies, Registry.lookup_of_get? h]
  dsimp only
  rw [if_neg (by simpa using hseen), hdone]
  dsimp only
  split
  · next h => rw [h]
  · next h => rw [h]

end Rest

/-- **Only installations are started.** If the programs met before are there, the first one is that
for the first linter that is not at hand. -/
theorem exists_installs (programs : Programs) (r : Registry) (ids seen : List String)
    (s : Session) :
    ∃ ls, s.Installs programs ls (dependencies programs r .install ids seen s).2 ∧
      ((∀ p ∈ seen, ∃ path, s.findProgram? p = some path) →
        ls.head? = r.firstInstallation? s ids) := by
  induction ids generalizing seen s with
  | nil => exact ⟨[], .nil, fun _ => rfl⟩
  | cons id ids ih =>
      cases hspec : r.get? id with
      | none =>
          rw [dependencies_of_unknown hspec, Registry.firstInstallation?_of_unknown hspec]
          exact ⟨[], .nil, fun _ => rfl⟩
      | some spec =>
          by_cases hmem : spec.program ∈ seen
          · rw [dependencies_of_seen hspec hmem]
            obtain ⟨ls, hls, hfirst⟩ := ih seen s
            refine ⟨ls, hls, fun hseen => ?_⟩
            obtain ⟨path, hpath⟩ := hseen _ hmem
            rw [hfirst hseen, Registry.firstInstallation?_of_found hspec hpath]
          rcases dependency_cases programs spec s with
            ⟨path, hpath, hpresent⟩ | ⟨hmissing, hnone, e, hfail⟩ |
              ⟨hmissing, l, result, hl, hresult⟩
          · rw [dependencies_of_ok hspec hmem hpresent,
              Registry.firstInstallation?_of_found hspec hpath]
            obtain ⟨ls, hls, hfirst⟩ := ih (spec.program :: seen) s
            exact ⟨ls, hls, fun hseen => hfirst (List.forall_mem_cons.mpr ⟨⟨path, hpath⟩, hseen⟩)⟩
          · rw [dependencies_of_error hspec hmem hfail,
              Registry.firstInstallation?_of_missing hspec hmissing, hnone]
            exact ⟨[], .nil, fun _ => rfl⟩
          · rw [Registry.firstInstallation?_of_missing hspec hmissing, hl]
            cases result with
            | error e =>
                rw [dependencies_of_error hspec hmem hresult]
                exact ⟨[l], .cons hl .nil, fun _ => rfl⟩
            | ok status =>
                rw [dependencies_of_ok hspec hmem hresult]
                -- An installation may leave any files, so of the later ones only the kind is known.
                obtain ⟨ls, hls, -⟩ := ih (spec.program :: seen) (s.launch programs l).2
                exact ⟨l :: ls, .cons hl hls, fun _ => rfl⟩

/-- **What an installation starts**: installations alone, of which the first one is that for the
first linter that is not at hand. -/
theorem installs_checkDependencies (programs : Programs) (r : Registry) (ids : List String)
    (s : Session) :
    ∃ ls, s.Installs programs ls (checkDependencies programs r ids .install s).2 ∧
      ls.head? = r.firstInstallation? s ids := by
  obtain ⟨ls, hls, hfirst⟩ := exists_installs programs r ids [] s
  exact ⟨ls, hls, hfirst fun _ hp => absurd hp List.not_mem_nil⟩

/-- A session with the program that installs, and with no linter. -/
def goSession : Session :=
  ⟨⟨.dir [("bin", .dir [("go", .file ⟨#[]⟩ true)])], []⟩, [("PATH", "/bin")], false, []⟩

theorem findProgram?_goSession_go : goSession.findProgram? "go" = some "/bin/go" := by
  have hcandidates : goSession.candidates "go" = ["/bin/go"] := by
    decide
  rw [Session.findProgram?, hcandidates]
  cbv

theorem findProgram?_goSession_errcheck : goSession.findProgram? "errcheck" = none := by
  have hplace : goSession.files.place "/bin/errcheck" true = .error .notFound := by
    rw [Files.place_of_walk (show _ = '/' :: "bin/errcheck".toList from rfl)
      (by decide) (by decide)]
    cbv
  have hcandidates : goSession.candidates "errcheck" = ["/bin/errcheck"] := by
    decide
  rw [Session.findProgram?, hcandidates, List.find?_singleton,
    Files.isProgram_of_place_error hplace]
  rfl

end LintVerdict
