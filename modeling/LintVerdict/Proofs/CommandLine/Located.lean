import LintVerdict.Proofs.CommandLine.Fault
import LintVerdict.Proofs.Dispatch.Walk
import LintVerdict.Proofs.Files.Growth
import LintVerdict.Proofs.Process.Executor
import LintVerdict.Proofs.Text

/-!
# Programs that are found after a check

A check of the programs looks each one up once, and installs what is missing if that is asked for.
A dispatcher looks them up again. Where the installations only add files, every program of the check
is found then: at the place that the check told, unless an installation has put one in front of it.

## Main definitions

* `Session.Grows`: the files only grow and the environment is the same.
* `OnlyAdds`: programs that only add files.
* `Session.FoundAt`: a status tells where its program was found.
* `Session.Shadowed`: a program that was put in front of another.
* `Told`: what the statuses of some linters tell.

## Main results

* `told_of_dependencies`: every linter has a status that tells where its program was found.
* `eq_told_iff`: when a program is found where it was told.
* `located_after_check`: after a check all programs are found, by an executor and by a dispatcher.
-/

namespace LintVerdict

namespace Session

/-- The files only grow, and the environment is the same. -/
structure Grows (s t : Session) : Prop where
  files : s.files.Grows t.files
  env : t.env = s.env

/-- A status tells where its program was found, in a session between two others. -/
def FoundAt (s t : Session) (status : DependencyStatus) (path : SystemText) : Prop :=
  ∃ u, s.Grows u ∧ u.Grows t ∧ status.place = (status.program, some path) ∧
    u.findProgram? status.program = some path

/-- In front of a path, one of the files where a program may be was no program and is one now. -/
def Shadowed (s t : Session) (name : String) (path : SystemText) : Prop :=
  ∃ c ∈ (s.candidates name).takeWhile fun c => c ≠ path,
    s.files.isProgram c = false ∧ t.files.isProgram c = true

end Session

/-- Programs that only add files when they are started with certain requests. -/
def OnlyAdds (programs : Programs) (P : Launch → Prop) : Prop :=
  ∀ (x : Surroundings) (l : Launch), P l → x.files.Grows (programs x l).2

/-- A request to install a program. -/
def Launch.Installs (l : Launch) : Prop := ∃ go source, l = installLaunch go source

variable {programs : Programs} {r : Registry} {s t u : Session} {spec : LinterSpec}
  {name : String} {path path' : SystemText} {ids seen : List String} {mode : InstallMode}
  {status : DependencyStatus} {statuses : List DependencyStatus} {P : Launch → Prop} {l : Launch}

/-! ### Lookups in a grown session -/

namespace Session.Grows

theorem refl (s : Session) : s.Grows s := ⟨.refl _, rfl⟩

theorem trans (h : s.Grows t) (h' : t.Grows u) : s.Grows u :=
  ⟨h.files.trans h'.files, h'.env.trans h.env⟩

/-- A program is looked for in the same files. -/
theorem candidates_eq (h : s.Grows t) (name : String) : t.candidates name = s.candidates name := by
  have hhere : t.files.here = s.files.here := congrArg Place.path h.files.cwd
  simp only [candidates, pathFromHere, searched, home?, setting?, hhere, h.env]

/-- **A program that was found is found still**, there or in front of it. -/
theorem exists_findProgram? (h : s.Grows t) (hfound : s.findProgram? name = some path) :
    ∃ path', t.findProgram? name = some path' := by
  rw [findProgram?] at hfound
  rw [findProgram?, ← Option.isSome_iff_exists, h.candidates_eq, List.find?_isSome]
  exact ⟨path, List.mem_of_find?_eq_some hfound, h.files.isProgram (List.find?_some hfound)⟩

/-- What is no program now was none before. -/
theorem isProgram_eq_false (h : s.Grows t) (hnone : t.files.isProgram path = false) :
    s.files.isProgram path = false := by
  cases hprogram : s.files.isProgram path with
  | false => rfl
  | true => exact absurd ((h.files.isProgram hprogram).symm.trans hnone) nofun

end Session.Grows

/-- **When a program is found where it was told**: exactly if none was put in front of it. -/
theorem eq_told_iff (hsu : s.Grows u) (hut : u.Grows t) (htold : u.findProgram? name = some path)
    (hfound : t.findProgram? name = some path') : path' = path ↔ ¬ s.Shadowed t name path := by
  rw [Session.findProgram?, hsu.candidates_eq] at htold
  rw [Session.findProgram?, (hsu.trans hut).candidates_eq] at hfound
  obtain ⟨hpath, front, back, hsplit, hfront⟩ := List.find?_eq_some_iff_append.mp htold
  have hfront : ∀ c ∈ front, u.files.isProgram c = false := by simpa using hfront
  have hnew : path ∉ front := by
    intro hmem
    rw [hfront path hmem] at hpath
    cases hpath
  rw [Session.Shadowed, hsplit, takeWhile_ne_append hnew]
  rw [hsplit, List.find?_append] at hfound
  cases hfind : front.find? t.files.isProgram with
  | none =>
      rw [hfind, Option.none_or, List.find?_cons_of_pos (hut.files.isProgram hpath)] at hfound
      refine iff_of_true (Option.some.inj hfound).symm ?_
      rintro ⟨c, hc, -, hprogram⟩
      exact List.find?_eq_none.mp hfind c hc hprogram
  | some c =>
      rw [hfind, Option.some_or] at hfound
      obtain rfl := Option.some.inj hfound
      have hc : c ∈ front := List.mem_of_find?_eq_some hfind
      refine iff_of_false (fun heq => hnew (heq ▸ hc)) (not_not.mpr ?_)
      exact ⟨c, hc, hsu.isProgram_eq_false (hfront c hc), List.find?_some hfind⟩

/-! ### What is started -/

theorem grows_launch (h : OnlyAdds programs P) (hl : P l) (s : Session) :
    s.Grows (s.launch programs l).2 :=
  ⟨h ⟨s.files, s.env⟩ l hl, rfl⟩

/-- An installation that succeeds has started the program that installs, and the installed program
is found then. -/
theorem launch_of_installProgram {source : String}
    (h : installProgram programs name source s = (.ok path, t)) :
    ∃ go, t = (s.launch programs (installLaunch go source)).2 ∧
      t.findProgram? name = some path := by
  unfold installProgram at h
  split at h
  · simp at h
  · next go _ =>
    rcases hlaunch : s.launch programs ⟨go, ["install", source], none, 0⟩ with ⟨ending, u⟩
    rw [hlaunch] at h
    dsimp only at h
    split at h
    · simp at h
    split at h
    · next hfound =>
      obtain ⟨hpath, rfl⟩ := Prod.mk.inj h
      obtain rfl := Except.ok.inj hpath
      exact ⟨go, (congrArg Prod.snd hlaunch).symm, hfound⟩
    · simp at h

/-! ### The check -/

/-- A check that starts nothing, or installations that only add files. -/
def InstallMode.OnlyAdds (mode : InstallMode) (programs : Programs) : Prop :=
  mode = .check ∨ mode = .install ∧ LintVerdict.OnlyAdds programs Launch.Installs

/-- The status of a linter tells where its program is found afterwards. -/
theorem told_of_dependency (hmode : mode.OnlyAdds programs)
    (h : dependency programs mode spec s = (.ok status, t)) :
    s.Grows t ∧ (mode = .check → s = t) ∧ status.program = spec.program ∧
      ∃ path, status.place = (spec.program, some path) ∧
        t.findProgram? spec.program = some path := by
  delta dependency at h
  cases hfind : s.findProgram? spec.program with
  | some path =>
      rw [hfind] at h
      obtain ⟨hstatus, rfl⟩ := Prod.mk.inj h
      obtain rfl := Except.ok.inj hstatus
      exact ⟨.refl s, fun _ => rfl, rfl, path, rfl, hfind⟩
  | none =>
      rw [hfind] at h
      cases hsource : spec.install with
      | none =>
          rw [hsource] at h
          simp at h
      | some source =>
          rw [hsource] at h
          obtain rfl | ⟨rfl, hadds⟩ := hmode
          · simp at h
          dsimp only at h
          rcases hinstall : installProgram programs spec.program source s with ⟨e | path, u⟩
          · rw [hinstall] at h
            simp at h
          · rw [hinstall] at h
            obtain ⟨hstatus, rfl⟩ := Prod.mk.inj h
            obtain rfl := Except.ok.inj hstatus
            obtain ⟨go, rfl, hfound⟩ := launch_of_installProgram hinstall
            exact ⟨grows_launch hadds ⟨go, source, rfl⟩ s, by simp, rfl, path, rfl, hfound⟩

/-- What the statuses of some linters tell, those left out whose programs were met before. -/
structure Told (r : Registry) (mode : InstallMode) (s t : Session) (ids seen : List String)
    (statuses : List DependencyStatus) : Prop where
  /-- The session only grows. -/
  grows : s.Grows t
  /-- A check that installs nothing leaves it as it is. -/
  unchanged : mode = .check → s = t
  /-- Each status tells where its program was found, and this was not met before. -/
  tells : ∀ status ∈ statuses, status.program ∉ seen ∧ ∃ path, s.FoundAt t status path
  /-- No two statuses are about the same program. -/
  nodup : (statuses.map DependencyStatus.program).Nodup
  /-- Each linter is known, and its program was met before or has a status. -/
  covers : ∀ id ∈ ids, ∃ spec, r.get? id = some spec ∧
    (spec.program ∈ seen ∨ ∃ status ∈ statuses, status.program = spec.program)

namespace Told

variable {id : String}

theorem nil (r : Registry) (mode : InstallMode) (s : Session) (seen : List String) :
    Told r mode s s [] seen [] :=
  ⟨.refl s, fun _ => rfl, by simp, .nil, by simp⟩

/-- A linter whose program was met before adds nothing. -/
theorem of_seen (h : Told r mode s t ids seen statuses) (hspec : r.get? id = some spec)
    (hseen : spec.program ∈ seen) : Told r mode s t (id :: ids) seen statuses :=
  { h with covers := List.forall_mem_cons.mpr ⟨⟨spec, hspec, Or.inl hseen⟩, h.covers⟩ }

/-- Any other linter adds its status. -/
theorem cons (h : Told r mode u t ids (spec.program :: seen) statuses)
    (hspec : r.get? id = some spec) (hseen : spec.program ∉ seen) (hmode : mode.OnlyAdds programs)
    (hone : dependency programs mode spec s = (.ok status, u)) :
    Told r mode s t (id :: ids) seen (status :: statuses) := by
  obtain ⟨hsu, hcheck, hprogram, path, hplace, hfound⟩ := told_of_dependency hmode hone
  refine ⟨hsu.trans h.grows, fun hmode => (hcheck hmode).trans (h.unchanged hmode), ?_, ?_, ?_⟩
  · refine List.forall_mem_cons.mpr ⟨⟨hprogram ▸ hseen, path, u, hsu, h.grows, ?_, ?_⟩, ?_⟩
    · rw [hprogram, hplace]
    · rw [hprogram, hfound]
    · intro status' hmem
      obtain ⟨hnew, path', v, huv, hvt, hstatus'⟩ := h.tells status' hmem
      exact ⟨fun hmem => hnew (List.mem_cons_of_mem _ hmem), path', v, hsu.trans huv, hvt, hstatus'⟩
  · refine List.nodup_cons.mpr ⟨fun hmem => ?_, h.nodup⟩
    obtain ⟨status', hmem, heq⟩ := List.mem_map.mp hmem
    exact (h.tells status' hmem).1 (heq ▸ hprogram ▸ List.mem_cons_self)
  · refine List.forall_mem_cons.mpr
      ⟨⟨spec, hspec, Or.inr ⟨status, List.mem_cons_self, hprogram⟩⟩, fun id hid => ?_⟩
    obtain ⟨spec', hspec', hmet | ⟨status', hmem, heq⟩⟩ := h.covers id hid
    · obtain heq | hmet := List.mem_cons.mp hmet
      · exact ⟨spec', hspec', Or.inr ⟨status, List.mem_cons_self, hprogram.trans heq.symm⟩⟩
      · exact ⟨spec', hspec', Or.inl hmet⟩
    · exact ⟨spec', hspec', Or.inr ⟨status', List.mem_cons_of_mem _ hmem, heq⟩⟩

end Told

/-- **Every linter has a status that tells where its program was found**, unless this was met
before. -/
theorem told_of_dependencies (hmode : mode.OnlyAdds programs)
    (h : dependencies programs r mode ids seen s = (.ok statuses, t)) :
    Told r mode s t ids seen statuses := by
  induction ids generalizing seen s statuses with
  | nil =>
      obtain ⟨hstatuses, rfl⟩ := Prod.mk.inj h
      obtain rfl := Except.ok.inj hstatuses
      exact .nil r mode s seen
  | cons id ids ih =>
      cases hspec : r.get? id with
      | none =>
          rw [dependencies, Registry.lookup, hspec] at h
          cases h
      | some spec =>
          obtain ⟨hseen, h⟩ | ⟨hseen, status, u, rest, hone, hrest, rfl⟩ :=
            (dependencies_cons_eq_ok_iff hspec).mp h
          · exact (ih h).of_seen hspec hseen
          · exact (ih hrest).cons hspec hseen hmode hone

/-! ### An executor -/

namespace Executor

variable {x x' : Executor} {c : Command} {dir : SystemText}
  {result : Except ExecutorError ProcessOutput}

/-- A fresh executor finds what a lookup finds. -/
theorem locate_new (timeout : Nat) (hfound : s.findProgram? name = some path) :
    ((new timeout).locate s name).1 = .ok path := by
  have hpath : (new timeout).path? s name = some path := Option.none_or.trans hfound
  obtain ⟨y, -, hlocate⟩ := exists_locate_of_path hpath
  rw [hlocate]

/-- A program that was started is installed. -/
theorem result_ne_notInstalled (x : Executor) (program : String)
    (ending : Except SystemError Ending) :
    x.result program ending ≠ .error (.notInstalled name) := by
  unfold Executor.result
  split <;> simp

/-- A command starts at most its program. -/
theorem grows_of_run (hadds : OnlyAdds programs fun _ => True)
    (h : x.run programs c dir s = (result, x', t)) : s.Grows t := by
  cases hpath : x.path? s c.program with
  | none =>
      cases (run_of_no_path programs dir hpath).symm.trans h
      exact .refl s
  | some path =>
      obtain ⟨y, -, hrun⟩ := exists_run_of_path programs dir hpath
      cases hrun.symm.trans h
      exact grows_launch hadds trivial s

/-- A command whose program is found does not fail for want of it. -/
theorem run_ne_notInstalled (hfound : s.findProgram? c.program = some path) :
    (x.run programs c dir s).1 ≠ .error (.notInstalled name) := by
  obtain ⟨known, hpath⟩ : ∃ known, x.path? s c.program = some known := by
    rw [path?, hfound]
    cases x.remembered? c.program with
    | none => exact ⟨path, rfl⟩
    | some known => exact ⟨known, rfl⟩
  obtain ⟨y, -, hrun⟩ := exists_run_of_path programs dir hpath
  rw [hrun]
  exact result_ne_notInstalled _ _ _

end Executor

/-! ### A dispatcher -/

section Dispatch

open CommandLine

variable {o : Settings} {d : Dispatcher} {scopes : Scopes} {root : SystemText}
  {y y' : Executor × Session} {pairs : List (Scope × String)} {xs : List LinterRun}
  {linter : String} {scope : Scope}

theorem grows_findRoot (hadds : OnlyAdds programs fun _ => True) (o : Settings) (s : Session) :
    s.Grows (findRoot programs o s).2 := by
  rw [findRoot]
  split
  · exact .refl s
  · exact grows_launch hadds trivial s

theorem findRoot_ne_executor {fault : ExecutorError} :
    (findRoot programs o s).1 ≠ .error (.executor linter scope fault) := by
  rw [findRoot]
  split
  · simp
  · rw [gitRoot]
    dsimp only
    unfold gitAnswer
    split
    · simp
    · simp
    · simp
    · split
      · dsimp only
        split <;> simp
      · simp

theorem workingRoot_ne_executor {files : Files} {fault : ExecutorError} :
    Dispatcher.workingRoot files root ≠ .error (.executor linter scope fault) := by
  unfold Dispatcher.workingRoot
  split
  · simp
  · split <;> simp

theorem grows_of_walked (hadds : OnlyAdds programs fun _ => True)
    (h : Dispatcher.Walked d (hostOf programs o) root pairs y xs y') : y.2.Grows y'.2 := by
  induction h with
  | nil => exact .refl _
  | cons _ hlaunch _ ih => exact (Executor.grows_of_run hadds hlaunch).trans ih

/-- **A dispatcher misses no program** if those of its linters are found when it starts. -/
theorem run_ne_notInstalled (hadds : OnlyAdds programs fun _ => True)
    (hfound : ∀ id ∈ d.applicability.listed, ∃ spec, d.registry.get? id = some spec ∧
      ∃ path, y.2.findProgram? spec.program = some path) :
    (d.run (hostOf programs o) scopes y).1 ≠
      .error (.executor linter scope (.notInstalled name)) := by
  intro h
  obtain hroot | ⟨_, _, hdir⟩ | ⟨_, y₁, _, _, p, _, _, y₂, hroot, hpairs, hwalked, hcheck⟩ :=
    Dispatcher.failing_of_run (Prod.ext h rfl)
  · exact findRoot_ne_executor hroot
  · exact workingRoot_ne_executor hdir
  · obtain ⟨spec, command, hcommand, hlaunch⟩ := Dispatcher.launch_of_check_eq_error hcheck
    obtain ⟨hspec, hprogram⟩ := Dispatcher.program_of_command hcommand
    have hscheduled : p ∈ scheduled d.applicability scopes := by
      rw [← Dispatcher.pairs_eq_scheduled, hpairs]
      simp
    obtain ⟨spec', hspec', path, hpath⟩ := hfound p.2 (listed_of_mem_scheduled hscheduled)
    obtain rfl := Option.some.inj (hspec.symm.trans hspec')
    have hasked : y₁.2 = (findRoot programs o y.2).2 :=
      congrArg (fun answer => answer.2.2) hroot.symm
    have hgrows : y.2.Grows y₂.2 :=
      (hasked ▸ grows_findRoot hadds o y.2).trans (grows_of_walked hadds hwalked)
    obtain ⟨path', hpath'⟩ := hgrows.exists_findProgram? hpath
    exact Executor.run_ne_notInstalled (hprogram ▸ hpath') (congrArg Prod.fst hlaunch)

/-- **After a check all programs are found.** Let a check that starts nothing, or installations that
only add files, come to statuses. Then every linter is known, and exactly one status is about its
program and tells a path. A fresh executor locates the program, at this path exactly if no
installation has put another one in front of it. And a dispatcher of these linters never misses a
program, as long as what it starts only adds files. -/
theorem located_after_check (hmode : mode.OnlyAdds programs)
    (h : checkDependencies programs r ids mode s = (.ok statuses, t)) :
    (mode = .check → s = t) ∧
      (∀ id ∈ ids, ∃ spec status reported path, r.get? id = some spec ∧ status ∈ statuses ∧
        (∀ status' ∈ statuses, status'.program = spec.program → status' = status) ∧
        status.place = (spec.program, some reported) ∧
        (∀ timeout, ((Executor.new timeout).locate t spec.program).1 = .ok path) ∧
        (path = reported ↔ ¬ s.Shadowed t spec.program reported)) ∧
      ∀ (programs' : Programs) (o : Settings) (d : Dispatcher) (scopes : Scopes) (timeout : Nat),
        OnlyAdds programs' (fun _ => True) → d.registry = r →
        (∀ id ∈ d.applicability.listed, id ∈ ids) → ∀ linter scope name,
        (d.run (hostOf programs' o) scopes (.new timeout, t)).1 ≠
          .error (.executor linter scope (.notInstalled name)) := by
  have htold : Told r mode s t ids [] statuses := told_of_dependencies hmode h
  have hall : ∀ id ∈ ids, ∃ spec status reported path, r.get? id = some spec ∧ status ∈ statuses ∧
      status.program = spec.program ∧ status.place = (spec.program, some reported) ∧
      t.findProgram? spec.program = some path ∧
      (path = reported ↔ ¬ s.Shadowed t spec.program reported) := by
    intro id hid
    obtain ⟨spec, hspec, hmet | ⟨status, hmem, hprogram⟩⟩ := htold.covers id hid
    · cases hmet
    obtain ⟨-, reported, u, hsu, hut, hplace, hreported⟩ := htold.tells status hmem
    rw [hprogram] at hplace hreported
    obtain ⟨path, hpath⟩ := hut.exists_findProgram? hreported
    exact ⟨spec, status, reported, path, hspec, hmem, hprogram, hplace, hpath,
      eq_told_iff hsu hut hreported hpath⟩
  refine ⟨htold.unchanged, fun id hid => ?_, ?_⟩
  · obtain ⟨spec, status, reported, path, hspec, hmem, hprogram, hplace, hpath, heq⟩ := hall id hid
    refine ⟨spec, status, reported, path, hspec, hmem, fun status' hmem' hprogram' => ?_, hplace,
      fun timeout => Executor.locate_new timeout hpath, heq⟩
    exact List.inj_on_of_nodup_map htold.nodup hmem' hmem (hprogram'.trans hprogram.symm)
  · rintro programs' o d scopes timeout hadds rfl hlisted linter scope name
    refine run_ne_notInstalled hadds fun id hid => ?_
    obtain ⟨spec, _, _, path, hspec, -, -, -, hpath, -⟩ := hall id (hlisted id hid)
    exact ⟨spec, hspec, path, hpath⟩

/-- Programs that leave a program where there is nothing. -/
def errcheckPrograms : Programs := fun x _ =>
  (.ok (.finished ⟨#[]⟩ ⟨#[]⟩ (some 0)),
    match x.files.root.get? ["bin", "errcheck"] with
    | none => x.files.replace ["bin", "errcheck"] (some (.file ⟨#[]⟩ true))
    | some _ => x.files)

theorem onlyAdds_errcheckPrograms (P : Launch → Prop) : OnlyAdds errcheckPrograms P := by
  intro x l _
  unfold errcheckPrograms
  dsimp only
  split
  · next hfree => exact ⟨Node.grows_replace hfree _, rfl⟩
  · exact .refl _

/-- The session in which they were started to install. -/
def errcheckSession : Session :=
  ⟨⟨.dir [("bin", .dir [("go", .file ⟨#[]⟩ true), ("errcheck", .file ⟨#[]⟩ true)])], []⟩,
    [("PATH", "/bin")], false, [installLaunch "/bin/go" "github.com/kisielk/errcheck@latest"]⟩

theorem findProgram?_errcheckSession :
    errcheckSession.findProgram? "errcheck" = some "/bin/errcheck" := by
  have hplace : errcheckSession.files.place "/bin/errcheck" true = .ok ["bin", "errcheck"] := by
    rw [Files.place_of_walk (show _ = '/' :: "bin/errcheck".toList from rfl)
      (by decide) (by decide)]
    cbv
  have hprogram : errcheckSession.files.isProgram "/bin/errcheck" = true :=
    Files.isProgram_iff.mpr ⟨_, Files.node_eq_ok_iff.mpr ⟨_, hplace, rfl⟩, rfl⟩
  have hcandidates : errcheckSession.candidates "errcheck" = ["/bin/errcheck"] := by
    decide
  rw [Session.findProgram?, hcandidates, List.find?_cons_of_pos hprogram]

theorem installProgram_errcheck :
    installProgram errcheckPrograms "errcheck" "github.com/kisielk/errcheck@latest" goSession =
      (.ok "/bin/errcheck", errcheckSession) := by
  have hlaunch : goSession.launch errcheckPrograms
      (installLaunch "/bin/go" "github.com/kisielk/errcheck@latest") =
        (.ok (.finished ⟨#[]⟩ ⟨#[]⟩ (some 0)), errcheckSession) := by
    cbv
  unfold installProgram
  rw [findProgram?_goSession_go]
  dsimp only
  rw [show (⟨"/bin/go", _, none, 0⟩ : Launch) = installLaunch "/bin/go" _ from rfl, hlaunch]
  dsimp only
  rw [installAnswer, if_pos rfl, findProgram?_errcheckSession]

/-- A linter that was missing is found where it was installed. -/
theorem located_after_check_errcheck :
    InstallMode.install.OnlyAdds errcheckPrograms ∧
      checkDependencies errcheckPrograms .builtin ["errcheck"] .install goSession =
        (.ok [.installed "errcheck" "/bin/errcheck"], errcheckSession) ∧
      (∀ timeout, ((Executor.new timeout).locate errcheckSession "errcheck").1 =
        .ok "/bin/errcheck") ∧
      ∀ linter scope name,
        (Dispatcher.run ⟨.builtin, ⟨["errcheck"], []⟩, .unset, true⟩
          (hostOf errcheckPrograms (installingRequest "errcheck" "").settings) ⟨["."], []⟩
          (.new 0, errcheckSession)).1 ≠ .error (.executor linter scope (.notInstalled name)) := by
  have hmode : InstallMode.install.OnlyAdds errcheckPrograms :=
    Or.inr ⟨rfl, onlyAdds_errcheckPrograms _⟩
  obtain ⟨spec, hspec, hprogram, hsource⟩ := exists_errcheck_spec
  have hcheck : checkDependencies errcheckPrograms .builtin ["errcheck"] .install goSession =
      (.ok [.installed "errcheck" "/bin/errcheck"], errcheckSession) := by
    have hone : dependency errcheckPrograms .install spec goSession =
        (.ok (.installed "errcheck" "/bin/errcheck"), errcheckSession) := by
      delta dependency
      rw [hprogram, findProgram?_goSession_errcheck, hsource]
      dsimp only
      rw [installProgram_errcheck]
    exact (dependencies_cons_eq_ok_iff hspec).mpr
      (Or.inr ⟨List.not_mem_nil, _, _, _, hone, rfl, rfl⟩)
  obtain ⟨-, hlocated, hrun⟩ := located_after_check hmode hcheck
  obtain ⟨spec', status, reported, path, hspec', hmem, -, hplace, hpath, heq⟩ :=
    hlocated "errcheck" List.mem_cons_self
  obtain rfl := Option.some.inj (hspec.symm.trans hspec')
  obtain rfl := List.mem_singleton.mp hmem
  rw [hprogram] at hplace hpath heq
  obtain rfl : "/bin/errcheck" = reported := Option.some.inj (Prod.mk.inj hplace).2
  have hunshadowed : ¬ goSession.Shadowed errcheckSession "errcheck" "/bin/errcheck" := by
    rintro ⟨c, hc, -⟩
    rw [show goSession.candidates "errcheck" = ["/bin/errcheck"] by decide] at hc
    simp at hc
  obtain rfl := heq.mpr hunshadowed
  exact ⟨hmode, hcheck, hpath, fun linter scope name =>
    hrun _ _ ⟨.builtin, ⟨["errcheck"], []⟩, .unset, true⟩ _ 0 (onlyAdds_errcheckPrograms _) rfl
      (fun _ hid => hid) linter scope name⟩

end Dispatch

end LintVerdict
