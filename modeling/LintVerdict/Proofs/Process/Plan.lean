import Mathlib.Data.List.Perm.Basic
import LintVerdict.Proofs.Dispatch.Run
import LintVerdict.Proofs.FirstError
import LintVerdict.Proofs.Process.Install
import LintVerdict.Proofs.Scope

/-!
# The plan of the installations

Without installing anything, the work on some linters tells what becomes of each program that they
need: where it is found, or from which source it would be installed. A program that several linters
need is handled once, for the first of them, and the source is the one that this linter declares. So
the plan depends on the order of the linters, but only by the sources of the missing programs.

## Main definitions

* `Registry.programs`, `Registry.source?`: the programs of linters, and the source of each.
* `Registry.Misses`, `Registry.Blocked`: a program that is needed and missing, and one that has no
  source either.
* `Registry.SourcesAgree`: no two linters tell different sources of a missing program.
* `SamePlan`: plans that differ in their order at most.

## Main results

* `dependencies_dryRun_eq_ok_iff`: the plan, program by program.
* `exists_plan_iff`: there is a plan exactly if every missing program has a source.
* `samePlan_iff`: when linters in two orders have the same plan.
* `plan_reordered`: what the order of the linters decides, and what it does not.
-/

namespace LintVerdict

namespace Registry

/-- The programs of some linters, in the order of the linters. -/
def programs (r : Registry) (ids : List String) : List String :=
  (ids.filterMap r.get?).map LinterSpec.program

/-- The source of a program: what the first linter that needs it declares. -/
def source? (r : Registry) (ids : List String) (program : String) : Option String :=
  ((ids.filterMap r.get?).find? fun spec => spec.program = program).bind LinterSpec.install

/-- A program that some linters need and that is missing. -/
def Misses (r : Registry) (s : Session) (ids : List String) (program : String) : Prop :=
  program ∈ r.programs ids ∧ s.findProgram? program = none

/-- A missing program has no source. -/
def Blocked (r : Registry) (s : Session) (ids : List String) : Prop :=
  ∃ program, r.Misses s ids program ∧ r.source? ids program = none

/-- Linters that share a missing program declare the same source, or none both of them. -/
def SourcesAgree (r : Registry) (s : Session) (ids : List String) : Prop :=
  ∀ spec ∈ ids.filterMap r.get?, ∀ spec' ∈ ids.filterMap r.get?,
    spec.program = spec'.program → s.findProgram? spec.program = none →
      spec.install = spec'.install

end Registry

/-- What becomes of a program according to a plan, if it can be had. -/
def Session.planned? (s : Session) (source? : String → Option String) (program : String) :
    Option DependencyStatus :=
  match s.findProgram? program with
  | some path => some (.present program path)
  | none => (source? program).map (.wouldInstall program)

/-- Plans that differ in their order at most, or no plans both of them. -/
inductive SamePlan : Except InstallError (List DependencyStatus) →
    Except InstallError (List DependencyStatus) → Prop
  | ok {xs ys : List DependencyStatus} : xs.Perm ys → SamePlan (.ok xs) (.ok ys)
  | error {e e' : InstallError} : SamePlan (.error e) (.error e')

variable {programs : Programs} {r : Registry} {s t : Session} {spec : LinterSpec}
  {id program : String} {ids ids' seen : List String} {status : DependencyStatus}
  {statuses : List DependencyStatus} {source? source'? : String → Option String}

/-! ### One program -/

/-- The plan for a linter is that for its program, with the source that it declares. -/
theorem dependency_dryRun_eq_ok_iff :
    dependency programs .dryRun spec s = (.ok status, t) ↔
      s = t ∧ s.planned? (fun _ => spec.install) spec.program = some status := by
  delta dependency Session.planned?
  cases s.findProgram? spec.program with
  | some path => simp [and_comm]
  | none => cases spec.install <;> simp [and_comm]

/-- Only the sources of missing programs count. -/
theorem Session.planned?_congr
    (h : s.findProgram? program = none → source? program = source'? program) :
    s.planned? source? program = s.planned? source'? program := by
  delta planned?
  cases hfind : s.findProgram? program with
  | some path => rfl
  | none =>
      dsimp only
      rw [h hfind]

namespace Registry

theorem programs_cons (h : r.get? id = some spec) :
    r.programs (id :: ids) = spec.program :: r.programs ids := by
  rw [programs, programs, List.filterMap_cons_some h, List.map_cons]

/-- The first linter decides about the source of its program. -/
theorem source?_cons_self (h : r.get? id = some spec) :
    r.source? (id :: ids) spec.program = spec.install := by
  rw [source?, List.filterMap_cons_some h, List.find?_cons_of_pos (by simp),
    Option.bind_some]

/-- It decides about no other source. -/
theorem source?_cons_of_ne (h : r.get? id = some spec) (hne : spec.program ≠ program) :
    r.source? (id :: ids) program = r.source? ids program := by
  rw [source?, source?, List.filterMap_cons_some h,
    List.find?_cons_of_neg (by simpa using hne)]

end Registry

/-! ### All programs -/

/-- **The plan, program by program**: each program is handled once, in the order in which the
programs are needed first, and has the source of the first linter that needs it. -/
theorem dependencies_dryRun_eq_ok_iff (hknown : ∀ id ∈ ids, ∃ spec, r.get? id = some spec) :
    dependencies programs r .dryRun ids seen s = (.ok statuses, t) ↔
      s = t ∧ List.Forall₂ (fun p status => s.planned? (r.source? ids) p = some status)
        ((r.programs ids).filter fun p => !seen.contains p).eraseDups statuses := by
  induction ids generalizing seen statuses with
  | nil => simp [dependencies, Registry.programs, and_comm, eq_comm]
  | cons id ids ih =>
      obtain ⟨⟨spec, hspec⟩, hids⟩ := List.forall_mem_cons.mp hknown
      -- Programs that are handled later are not that of the first linter.
      have hlater : ∀ before : List String, spec.program ∈ before →
          ∀ p ∈ ((r.programs ids).filter fun p => !before.contains p).eraseDups, ∀ status,
            s.planned? (r.source? (id :: ids)) p = some status ↔
              s.planned? (r.source? ids) p = some status := by
        intro before hbefore p hp status
        have hp : p ∉ before := by simpa using (List.mem_filter.mp (List.mem_eraseDups.mp hp)).2
        have hne : spec.program ≠ p := fun heq => hp (heq ▸ hbefore)
        rw [Session.planned?_congr fun _ => Registry.source?_cons_of_ne hspec hne]
      rw [dependencies_cons_eq_ok_iff hspec, Registry.programs_cons hspec]
      by_cases hseen : spec.program ∈ seen
      · rw [List.filter_cons_of_neg (by simpa using hseen), forall₂_congr_of_mem (hlater _ hseen),
          ← ih hids]
        simp [hseen]
      · have hself : s.planned? (r.source? (id :: ids)) spec.program =
            s.planned? (fun _ => spec.install) spec.program :=
          Session.planned?_congr fun _ => Registry.source?_cons_self hspec
        rw [eraseDups_filter_cons hseen, List.forall₂_cons_left_iff]
        simp only [forall₂_congr_of_mem (hlater _ List.mem_cons_self), hself, hseen, false_and,
          false_or, not_false_eq_true, true_and]
        constructor
        · rintro ⟨status, u, rest, hone, hothers, rfl⟩
          obtain ⟨rfl, hstatus⟩ := dependency_dryRun_eq_ok_iff.mp hone
          obtain ⟨rfl, hrest⟩ := (ih hids).mp hothers
          exact ⟨rfl, status, rest, hstatus, hrest, rfl⟩
        · rintro ⟨rfl, status, rest, hstatus, hrest, rfl⟩
          exact ⟨status, s, rest, dependency_dryRun_eq_ok_iff.mpr ⟨rfl, hstatus⟩,
            (ih hids).mpr ⟨rfl, hrest⟩, rfl⟩

/-- **The plan for all linters.** -/
theorem plan_eq_ok_iff (hknown : ∀ id ∈ ids, ∃ spec, r.get? id = some spec) :
    (checkDependencies programs r ids .dryRun s).1 = .ok statuses ↔
      List.Forall₂ (fun p status => s.planned? (r.source? ids) p = some status)
        (r.programs ids).eraseDups statuses := by
  have hfilter : ((r.programs ids).filter fun p => !([] : List String).contains p) =
      r.programs ids := by simp
  rw [← hfilter, checkDependencies]
  constructor
  · intro h
    exact ((dependencies_dryRun_eq_ok_iff hknown).mp (Prod.ext h rfl)).2
  · intro h
    rw [(dependencies_dryRun_eq_ok_iff hknown).mpr ⟨rfl, h⟩]

/-- A program can be had unless it is missing and has no source. -/
theorem Session.exists_planned?_iff :
    (∃ status, s.planned? source? program = some status) ↔
      (s.findProgram? program = none → source? program ≠ none) := by
  delta planned?
  cases s.findProgram? program with
  | some path => simp
  | none => cases source? program <;> simp

/-- **There is a plan** exactly if every missing program has a source. -/
theorem exists_plan_iff (programs : Programs)
    (hknown : ∀ id ∈ ids, ∃ spec, r.get? id = some spec) :
    (∃ statuses, (checkDependencies programs r ids .dryRun s).1 = .ok statuses) ↔
      ¬ r.Blocked s ids := by
  simp only [plan_eq_ok_iff hknown, exists_forall₂_iff, List.mem_eraseDups,
    Session.exists_planned?_iff, Registry.Blocked, Registry.Misses]
  push Not
  exact forall_congr' fun p => and_imp.symm

/-- There is none exactly if a missing program has no source. -/
theorem exists_plan_error_iff (programs : Programs)
    (hknown : ∀ id ∈ ids, ∃ spec, r.get? id = some spec) :
    (∃ e, (checkDependencies programs r ids .dryRun s).1 = .error e) ↔ r.Blocked s ids := by
  rw [← not_iff_not, ← exists_plan_iff programs hknown]
  cases (checkDependencies programs r ids .dryRun s).1 <;> simp

/-! ### Another order -/

/-- A status tells the program that it is about, and where this is. -/
theorem Session.place_of_planned? (h : s.planned? source? program = some status) :
    status.place = (program, s.findProgram? program) := by
  delta planned? at h
  cases hfind : s.findProgram? program with
  | some path =>
      rw [hfind] at h
      rw [← Option.some.inj h]
      rfl
  | none =>
      rw [hfind] at h
      obtain ⟨source, -, rfl⟩ := Option.map_eq_some_iff.mp h
      rfl

/-- For a missing program the source can be read off its status. -/
theorem Session.source?_eq_of_planned?_eq (hmissing : s.findProgram? program = none)
    (h : s.planned? source? program = s.planned? source'? program) :
    source? program = source'? program := by
  delta planned? at h
  rw [hmissing] at h
  exact Option.map_injective (fun _ _ heq => (DependencyStatus.wouldInstall.inj heq).2) h

/-- The programs do not depend on the order of the linters. -/
theorem Registry.programs_perm (hperm : ids.Perm ids') :
    (r.programs ids).eraseDups.Perm (r.programs ids').eraseDups := by
  have hprograms : (r.programs ids).Perm (r.programs ids') := (hperm.filterMap r.get?).map _
  refine (List.perm_ext_iff_of_nodup (nodup_eraseDups _) (nodup_eraseDups _)).mpr fun p => ?_
  rw [List.mem_eraseDups, List.mem_eraseDups, hprograms.mem_iff]

/-- Nor does what is missing. -/
theorem Registry.misses_perm (hperm : ids.Perm ids') :
    r.Misses s ids program ↔ r.Misses s ids' program := by
  rw [Misses, Misses, ← List.mem_eraseDups, (programs_perm hperm).mem_iff, List.mem_eraseDups]

/-- The source of a program is that of a linter that needs it. -/
theorem Registry.exists_source?_eq (hneeded : program ∈ r.programs ids) :
    ∃ spec ∈ ids.filterMap r.get?, spec.program = program ∧
      r.source? ids program = spec.install := by
  obtain ⟨spec, hspec, hprogram⟩ := List.mem_map.mp hneeded
  have hfind : ((ids.filterMap r.get?).find? fun spec => spec.program = program).isSome :=
    List.find?_isSome.mpr ⟨spec, hspec, by simpa using hprogram⟩
  obtain ⟨first, hfirst⟩ := Option.isSome_iff_exists.mp hfind
  refine ⟨first, List.mem_of_find?_eq_some hfirst, by simpa using List.find?_some hfirst, ?_⟩
  rw [source?, hfirst, Option.bind_some]

/-- Where the declarations agree, every order of the linters has the same sources. -/
theorem Registry.SourcesAgree.source?_eq (h : r.SourcesAgree s ids) (hperm : ids.Perm ids')
    (hmiss : r.Misses s ids program) : r.source? ids program = r.source? ids' program := by
  obtain ⟨spec, hspec, hprogram, hsource⟩ := Registry.exists_source?_eq hmiss.1
  obtain ⟨spec', hspec', hprogram', hsource'⟩ :=
    Registry.exists_source?_eq ((Registry.misses_perm hperm).mp hmiss).1
  rw [hsource, hsource']
  exact h spec hspec spec' ((hperm.filterMap r.get?).mem_iff.mpr hspec')
    (hprogram.trans hprogram'.symm) (hprogram ▸ hmiss.2)

/-- A plan tells of each program where it is. -/
theorem map_place_of_plan {ps : List String}
    (h : List.Forall₂ (fun p status => s.planned? source? p = some status) ps statuses) :
    statuses.map DependencyStatus.place = ps.map fun p => (p, s.findProgram? p) := by
  induction h with
  | nil => rfl
  | cons hone _ ih => rw [List.map_cons, List.map_cons, Session.place_of_planned? hone, ih]

section Plans

variable {statuses' : List DependencyStatus}
  (h : List.Forall₂ (fun p status => s.planned? (r.source? ids) p = some status)
    (r.programs ids).eraseDups statuses)
  (h' : List.Forall₂ (fun p status => s.planned? (r.source? ids') p = some status)
    (r.programs ids').eraseDups statuses')

include h h'

/-- Two plans for linters in two orders tell the same programs at the same places. -/
theorem perm_place_of_plan (hperm : ids.Perm ids') :
    (statuses.map DependencyStatus.place).Perm (statuses'.map DependencyStatus.place) := by
  rw [map_place_of_plan h, map_place_of_plan h']
  exact (Registry.programs_perm hperm).map _

/-- Plans that differ in their order at most have the same sources. -/
theorem source?_eq_of_perm (hstatuses : statuses.Perm statuses') (hmiss : r.Misses s ids program) :
    r.source? ids program = r.source? ids' program := by
  obtain ⟨status, hmem, hstatus⟩ := exists_of_forall₂_left h (List.mem_eraseDups.mpr hmiss.1)
  obtain ⟨p, -, hp⟩ := exists_of_forall₂_right h' (hstatuses.mem_iff.mp hmem)
  obtain rfl : program = p := congrArg Prod.fst
    ((Session.place_of_planned? hstatus).symm.trans (Session.place_of_planned? hp))
  exact Session.source?_eq_of_planned?_eq hmiss.2 (hstatus.trans hp.symm)

/-- Plans with the same sources differ in their order at most. -/
theorem perm_of_source?_eq (hperm : ids.Perm ids')
    (heq : ∀ p, r.Misses s ids p → r.source? ids p = r.source? ids' p) :
    statuses.Perm statuses' := by
  have hsame : ∀ p ∈ (r.programs ids').eraseDups, ∀ status,
      s.planned? (r.source? ids') p = some status ↔ s.planned? (r.source? ids) p = some status := by
    intro p hp status
    have hneeded : p ∈ r.programs ids :=
      List.mem_eraseDups.mp ((Registry.programs_perm hperm).mem_iff.mpr hp)
    rw [Session.planned?_congr fun hmissing => heq p ⟨hneeded, hmissing⟩]
  have hunique : Relator.RightUnique fun p status =>
      s.planned? (r.source? ids) p = some status := fun _ _ _ hx hy =>
    Option.some.inj (hx.symm.trans hy)
  exact List.rel_perm_imp hunique h ((forall₂_congr_of_mem hsame).mp h')
    (Registry.programs_perm hperm)

end Plans

/-- **When linters in two orders have the same plan**: if a missing program has no source in either
order, or if every missing program has the same one in both. -/
theorem samePlan_iff (hknown : ∀ id ∈ ids, ∃ spec, r.get? id = some spec)
    (hperm : ids.Perm ids') :
    SamePlan (checkDependencies programs r ids .dryRun s).1
        (checkDependencies programs r ids' .dryRun s).1 ↔
      r.Blocked s ids ∧ r.Blocked s ids' ∨
        ∀ p, r.Misses s ids p → r.source? ids p = r.source? ids' p := by
  have hknown' : ∀ id ∈ ids', ∃ spec, r.get? id = some spec :=
    fun id hid => hknown id (hperm.mem_iff.mpr hid)
  constructor
  · intro hsame
    rcases hplan : (checkDependencies programs r ids .dryRun s).1 with e | statuses <;>
      rcases hplan' : (checkDependencies programs r ids' .dryRun s).1 with e' | statuses' <;>
      rw [hplan, hplan'] at hsame <;> cases hsame
    · exact Or.inl ⟨(exists_plan_error_iff programs hknown).mp ⟨e, hplan⟩,
        (exists_plan_error_iff programs hknown').mp ⟨e', hplan'⟩⟩
    · next hstatuses =>
      exact Or.inr fun p hmiss => source?_eq_of_perm ((plan_eq_ok_iff hknown).mp hplan)
        ((plan_eq_ok_iff hknown').mp hplan') hstatuses hmiss
  · intro h
    by_cases hblocked : r.Blocked s ids
    · have hblocked' : r.Blocked s ids' := by
        obtain ⟨-, hblocked'⟩ | heq := h
        · exact hblocked'
        · obtain ⟨p, hmiss, hnone⟩ := hblocked
          exact ⟨p, (Registry.misses_perm hperm).mp hmiss, (heq p hmiss).symm.trans hnone⟩
      obtain ⟨e, he⟩ := (exists_plan_error_iff programs hknown).mpr hblocked
      obtain ⟨e', he'⟩ := (exists_plan_error_iff programs hknown').mpr hblocked'
      rw [he, he']
      exact .error
    · have heq : ∀ p, r.Misses s ids p → r.source? ids p = r.source? ids' p :=
        h.resolve_left fun hboth => hblocked hboth.1
      have hblocked' : ¬ r.Blocked s ids' := by
        rintro ⟨p, hmiss, hnone⟩
        have hmiss := (Registry.misses_perm hperm).mpr hmiss
        exact hblocked ⟨p, hmiss, (heq p hmiss).trans hnone⟩
      obtain ⟨statuses, hplan⟩ := (exists_plan_iff programs hknown).mpr hblocked
      obtain ⟨statuses', hplan'⟩ := (exists_plan_iff programs hknown').mpr hblocked'
      rw [hplan, hplan']
      exact .ok (perm_of_source?_eq ((plan_eq_ok_iff hknown).mp hplan)
        ((plan_eq_ok_iff hknown').mp hplan') hperm heq)

/-- **What the order of the linters decides**: which source a missing program has. There is a plan
exactly if each has one, and two orders have the same plan exactly if these are the same or one is
lacking in either order. So the order decides nothing if linters that share a missing program
declare the same source, and never what the programs are and where they are found. -/
theorem plan_reordered (programs : Programs) (r : Registry) (s : Session) {ids ids' : List String}
    (hknown : ∀ id ∈ ids, ∃ spec, r.get? id = some spec) (hperm : ids.Perm ids') :
    ((∃ statuses, (checkDependencies programs r ids .dryRun s).1 = .ok statuses) ↔
        ∀ p, r.Misses s ids p → ∃ source, r.source? ids p = some source) ∧
      (SamePlan (checkDependencies programs r ids .dryRun s).1
          (checkDependencies programs r ids' .dryRun s).1 ↔
        r.Blocked s ids ∧ r.Blocked s ids' ∨
          ∀ p, r.Misses s ids p → r.source? ids p = r.source? ids' p) ∧
      (r.SourcesAgree s ids →
        SamePlan (checkDependencies programs r ids .dryRun s).1
          (checkDependencies programs r ids' .dryRun s).1) ∧
      ∀ statuses statuses', (checkDependencies programs r ids .dryRun s).1 = .ok statuses →
        (checkDependencies programs r ids' .dryRun s).1 = .ok statuses' →
        (statuses.map DependencyStatus.place).Perm (statuses'.map DependencyStatus.place) := by
  have hknown' : ∀ id ∈ ids', ∃ spec, r.get? id = some spec :=
    fun id hid => hknown id (hperm.mem_iff.mpr hid)
  refine ⟨?_, samePlan_iff hknown hperm, fun hagree => ?_, fun _ _ hplan hplan' => ?_⟩
  · rw [exists_plan_iff programs hknown, Registry.Blocked]
    push Not
    simp only [Option.ne_none_iff_exists', eq_comm]
  · exact (samePlan_iff hknown hperm).mpr (Or.inr fun _ hmiss => hagree.source?_eq hperm hmiss)
  · exact perm_place_of_plan ((plan_eq_ok_iff hknown).mp hplan)
      ((plan_eq_ok_iff hknown').mp hplan') hperm

/-- Two linters that need the same program, of which only the second declares a source. -/
def sharingRegistry : Registry :=
  ⟨[{ bareLinter with id := "a" },
    { bareLinter with id := "b", install := some "example.com/vet@latest" }]⟩

/-- A machine without any program. -/
def vacantSession : Session := ⟨⟨.dir [], []⟩, [], false, []⟩

/-- Two orders of these linters, one of which has a plan. -/
theorem plan_reordered_sharing :
    (∀ id ∈ ["b", "a"], ∃ spec, sharingRegistry.get? id = some spec) ∧
      ["b", "a"].Perm ["a", "b"] ∧ ∀ programs : Programs,
        (checkDependencies programs sharingRegistry ["b", "a"] .dryRun vacantSession).1 =
            .ok [.wouldInstall "vet" "example.com/vet@latest"] ∧
          ¬ SamePlan (checkDependencies programs sharingRegistry ["b", "a"] .dryRun vacantSession).1
            (checkDependencies programs sharingRegistry ["a", "b"] .dryRun vacantSession).1 := by
  have hknown : ∀ id ∈ ["b", "a"], ∃ spec, sharingRegistry.get? id = some spec := by
    simp only [List.forall_mem_cons, List.not_mem_nil, false_implies, implies_true, and_true]
    exact ⟨⟨_, rfl⟩, ⟨_, rfl⟩⟩
  refine ⟨hknown, .swap _ _ _, fun programs => ⟨rfl, fun hsame => ?_⟩⟩
  obtain ⟨hplan, hiff, -⟩ :=
    plan_reordered programs sharingRegistry vacantSession hknown (.swap _ _ _)
  have hmiss : sharingRegistry.Misses vacantSession ["b", "a"] "vet" := ⟨by decide, rfl⟩
  obtain ⟨⟨p, hp, hnone⟩, -⟩ | heq := hiff.mp hsame
  · obtain ⟨source, hsource⟩ := hplan.mp ⟨_, rfl⟩ p hp
    exact absurd (hnone.symm.trans hsource) nofun
  · exact absurd (heq "vet" hmiss) (by decide)

/-- A missing program cannot be installed although a linter that needs it declares a source, since
the one that stands first declares none. In the other order it can be. -/
theorem plan_depends_on_order :
    ["a", "b"].Perm ["b", "a"] ∧ ∀ programs : Programs,
      (checkDependencies programs sharingRegistry ["a", "b"] .dryRun vacantSession).1 =
          .error (.noSource "a" "vet") ∧
        (checkDependencies programs sharingRegistry ["b", "a"] .dryRun vacantSession).1 =
          .ok [.wouldInstall "vet" "example.com/vet@latest"] :=
  ⟨.swap _ _ _, fun _ => ⟨rfl, rfl⟩⟩

end LintVerdict
