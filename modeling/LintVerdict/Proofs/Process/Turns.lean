import LintVerdict.Proofs.Process.Turn

/-!
# The work on some linters, turn by turn

The work goes through the linters and gives each of their programs one turn, when the first linter
comes that needs it. Each turn is taken in the session that the turns before it have left. So the
work is described by its turns, whichever the mode is, and where it breaks off, by the turns before
that and by the linter at which it does.

## Main definitions

* `Turns`: turns one after the other, each in the session that the one before it left.
* `BreaksOff`: work that ends at a linter that is refused.

## Main results

* `dependencies_eq_ok_iff`: the work that comes to its end is one turn for each program.
* `dependencies_eq_error_iff`: otherwise it breaks off at the first linter that is refused.
* `programs_in_turn`: both, and that nothing is started unless programs are to be installed.
-/

namespace LintVerdict

/-! ### Turns one after the other -/

/-- Turns one after the other, from a session to another. -/
inductive Turns (programs : Programs) (mode : InstallMode) (source? : String → Option String) :
    Session → List Turn → Session → Prop
  | nil {s : Session} : Turns programs mode source? s [] s
  | cons {t : Session} {x : Turn} {xs : List Turn} :
      x.Taken programs mode source? → Turns programs mode source? x.after xs t →
      Turns programs mode source? x.before (x :: xs) t

variable {programs : Programs} {r : Registry} {mode : InstallMode} {s t : Session}
  {spec : LinterSpec} {id : String} {ids seen : List String} {xs : List Turn}
  {source? source'? : String → Option String} {statuses : List DependencyStatus} {e : InstallError}

namespace Turns

/-- Only the sources of the programs count. -/
theorem congr (h : Turns programs mode source? s xs t)
    (hsource : ∀ x ∈ xs, source? x.program = source'? x.program) :
    Turns programs mode source'? s xs t := by
  induction h with
  | nil => exact .nil
  | cons hx _ ih =>
      rw [List.forall_mem_cons] at hsource
      exact .cons ((Turn.taken_congr hsource.1).mp hx) (ih hsource.2)

/-- Programs that have their turn behind the one of a linter do not get their source from it. -/
theorem source?_cons_iff (hspec : r.get? id = some spec) (hseen : spec.program ∈ seen)
    (hprograms : xs.map Turn.program =
      ((r.programs ids).filter fun p => !seen.contains p).eraseDups) :
    Turns programs mode (r.source? (id :: ids)) s xs t ↔
      Turns programs mode (r.source? ids) s xs t := by
  have hsource : ∀ x ∈ xs, r.source? (id :: ids) x.program = r.source? ids x.program := by
    intro x hx
    have hmem := List.mem_eraseDups.mp (hprograms ▸ List.mem_map_of_mem hx)
    have hp : x.program ∉ seen := by simpa using (List.mem_filter.mp hmem).2
    exact Registry.source?_cons_of_ne hspec fun heq => hp (heq ▸ hseen)
  exact ⟨fun h => h.congr hsource, fun h => h.congr fun x hx => (hsource x hx).symm⟩

/-- What is started in the turns is what was started. -/
theorem started_eq (h : Turns programs mode source? s xs t) :
    t.started = s.started ++ xs.flatMap Turn.started := by
  induction h with
  | nil => simp
  | @cons t x xs hx _ ih =>
      rw [ih, hx.started_after, List.flatMap_cons, List.append_assoc]

theorem map_program_status (h : Turns programs mode source? s xs t) :
    (xs.map Turn.status).map DependencyStatus.program = xs.map Turn.program := by
  induction h with
  | nil => rfl
  | cons hx _ ih => simp only [List.map_cons, hx.program_status, ih]

/-- Unless programs are installed, all turns leave the session as it is. -/
theorem eq_of_ne_install (h : Turns programs mode source? s xs t) (hmode : mode ≠ .install) :
    t = s := by
  induction h with
  | nil => rfl
  | cons hx _ ih => rw [ih, hx.after_eq_before hmode]

end Turns

/-! ### The work -/

theorem dependencies_of_get?_none (h : r.get? id = none) :
    dependencies programs r mode (id :: ids) seen s = (.error (.registry (.notFound id)), s) := by
  rw [dependencies, Registry.lookup, h]

/-- **The work that comes to its end** is one turn for each program that was not handled before, in
the order in which the programs are needed first. -/
theorem dependencies_eq_ok_iff :
    dependencies programs r mode ids seen s = (.ok statuses, t) ↔
      (∀ id ∈ ids, ∃ spec, r.get? id = some spec) ∧
        ∃ xs, Turns programs mode (r.source? ids) s xs t ∧
          xs.map Turn.program = ((r.programs ids).filter fun p => !seen.contains p).eraseDups ∧
          xs.map Turn.status = statuses := by
  induction ids generalizing seen s statuses with
  | nil =>
      constructor
      · intro h
        obtain ⟨hstatuses, rfl⟩ := Prod.mk.inj h
        exact ⟨nofun, [], .nil, rfl, Except.ok.inj hstatuses⟩
      · rintro ⟨-, xs, hturns, hprograms, rfl⟩
        obtain rfl : xs = [] := List.map_eq_nil_iff.mp hprograms
        cases hturns
        rfl
  | cons id ids ih =>
      cases hspec : r.get? id with
      | none =>
          rw [dependencies_of_get?_none hspec]
          refine iff_of_false nofun ?_
          rintro ⟨hknown, -⟩
          obtain ⟨spec, h⟩ := hknown id List.mem_cons_self
          cases hspec.symm.trans h
      | some spec =>
          have hknown : (∀ id' ∈ id :: ids, ∃ spec, r.get? id' = some spec) ↔
              ∀ id' ∈ ids, ∃ spec, r.get? id' = some spec := by
            rw [List.forall_mem_cons]
            exact and_iff_right ⟨spec, hspec⟩
          rw [hknown, Registry.programs_cons hspec]
          by_cases hseen : spec.program ∈ seen
          · rw [dependencies_of_seen hspec hseen, ih,
              List.filter_cons_of_neg (by simpa using hseen)]
            refine and_congr_right fun _ => exists_congr fun xs => ?_
            exact and_congr_left fun ⟨hprograms, _⟩ =>
              (Turns.source?_cons_iff hspec hseen hprograms).symm
          · rw [dependencies_cons_eq_ok_iff hspec, or_iff_right fun h => hseen h.1,
              and_iff_right hseen, eraseDups_filter_cons hseen]
            constructor
            · rintro ⟨status, u, rest, hone, hothers, rfl⟩
              obtain ⟨started, htaken⟩ := dependency_eq_ok_iff.mp hone
              obtain ⟨hids, xs, hturns, hprograms, rfl⟩ := ih.mp hothers
              have hturn : (⟨spec.program, s, status, started, u⟩ : Turn).Taken programs mode
                  (r.source? (id :: ids)) :=
                (Turn.taken_congr (Registry.source?_cons_self hspec)).mpr htaken
              have hrest : Turns programs mode (r.source? (id :: ids)) u xs t :=
                (Turns.source?_cons_iff hspec List.mem_cons_self hprograms).mpr hturns
              exact ⟨hids, _ :: xs, .cons hturn hrest, congrArg (_ :: ·) hprograms, rfl⟩
            · rintro ⟨hids, xs, hturns, hprograms, rfl⟩
              obtain ⟨x, xs, rfl, hprogram, hprograms⟩ := List.map_eq_cons_iff.mp hprograms
              cases hturns with
              | cons htaken hturns =>
                  have hsource : r.source? (id :: ids) x.program = spec.install :=
                    hprogram ▸ Registry.source?_cons_self hspec
                  have hown : x.Taken programs mode fun _ => spec.install :=
                    (Turn.taken_congr hsource).mp htaken
                  have hone : dependency programs mode spec x.before = (.ok x.status, x.after) :=
                    dependency_eq_ok_iff.mpr ⟨x.started, hprogram ▸ hown⟩
                  have hrest : Turns programs mode (r.source? ids) x.after xs t :=
                    (Turns.source?_cons_iff hspec List.mem_cons_self hprograms).mp hturns
                  have hothers := ih.mpr ⟨hids, xs, hrest, hprograms, rfl⟩
                  exact ⟨_, _, _, hone, hothers, rfl⟩

/-- The work breaks off at the first linter if its program cannot be had, or later on. -/
theorem dependencies_cons_eq_error_iff (h : r.get? id = some spec) (hseen : spec.program ∉ seen) :
    dependencies programs r mode (id :: ids) seen s = (.error e, t) ↔
      dependency programs mode spec s = (.error e, t) ∨
        ∃ status u, dependency programs mode spec s = (.ok status, u) ∧
          dependencies programs r mode ids (spec.program :: seen) u = (.error e, t) := by
  rw [dependencies, Registry.lookup_of_get? h]
  dsimp only
  rw [if_neg (by simpa using hseen)]
  rcases dependency programs mode spec s with ⟨e' | status, u⟩
  · simp
  · dsimp only
    rcases hrest : dependencies programs r mode ids (spec.program :: seen) u with ⟨e' | rest, v⟩
    · simp [hrest]
    · simp [hrest]

theorem exists_split_cons_iff {α : Type} {P : List α → α → Prop} {x : α} {xs : List α} :
    (∃ front y back, x :: xs = front ++ y :: back ∧ P front y) ↔
      P [] x ∨ ∃ front y back, xs = front ++ y :: back ∧ P (x :: front) y := by
  constructor
  · rintro ⟨front, y, back, hsplit, h⟩
    cases front with
    | nil =>
        obtain ⟨rfl, rfl⟩ := List.cons.inj hsplit
        exact Or.inl h
    | cons z front =>
        obtain ⟨rfl, rfl⟩ := List.cons.inj hsplit
        exact Or.inr ⟨front, y, back, rfl, h⟩
  · rintro (h | ⟨front, y, back, rfl, h⟩)
    · exact ⟨[], x, xs, rfl, h⟩
    · exact ⟨x :: front, y, back, rfl, h⟩

/-! ### Work that breaks off -/

/-- The work breaks off at a linter: it is refused, and those before it are handled. -/
def BreaksOff (programs : Programs) (r : Registry) (mode : InstallMode) (ids seen : List String)
    (s : Session) (e : InstallError) (t : Session) : Prop :=
  ∃ front id back, ids = front ++ id :: back ∧
    ∃ statuses u, dependencies programs r mode front seen s = (.ok statuses, u) ∧
      r.Refuses programs mode (seen ++ r.programs front) id u e t

/-- At an unknown linter the work breaks off. -/
theorem breaksOff_cons_of_none (h : r.get? id = none) :
    BreaksOff programs r mode (id :: ids) seen s e t ↔
      e = .registry (.notFound id) ∧ t = s := by
  rw [BreaksOff, exists_split_cons_iff]
  constructor
  · rintro (⟨statuses, u, hnil, hrefused⟩ | ⟨front, id', back, -, statuses, u, hfront, -⟩)
    · obtain ⟨-, rfl⟩ := Prod.mk.inj hnil
      exact (Registry.Refuses.iff_of_get?_none h).mp hrefused
    · rw [dependencies_of_get?_none h] at hfront
      cases hfront
  · rintro ⟨rfl, rfl⟩
    exact Or.inl ⟨[], t, rfl, .unknown h⟩

/-- At a linter whose program was handled before, it does not. -/
theorem breaksOff_cons_of_seen (h : r.get? id = some spec) (hseen : spec.program ∈ seen) :
    BreaksOff programs r mode (id :: ids) seen s e t ↔
      BreaksOff programs r mode ids seen s e t := by
  rw [BreaksOff, exists_split_cons_iff, or_iff_right]
  · refine exists₃_congr fun front id' back => and_congr_right fun _ => ?_
    refine exists₂_congr fun statuses u => ?_
    rw [dependencies_of_seen h hseen, Registry.programs_cons h]
    refine and_congr_right fun _ => ⟨fun hr => hr.mono ?_, fun hr => hr.mono ?_⟩
    · exact ((List.sublist_cons_self _ _).append_left seen).subset
    · rw [List.append_subset, List.cons_subset]
      exact ⟨List.subset_append_left _ _, List.mem_append_left _ hseen,
        List.subset_append_right _ _⟩
  · rintro ⟨_, _, -, hrefused⟩
    exact hrefused.notMem h (List.mem_append_left _ hseen)

/-- At any other linter it breaks off if the program cannot be had, or later on. -/
theorem breaksOff_cons_of_fresh (h : r.get? id = some spec) (hfresh : spec.program ∉ seen) :
    BreaksOff programs r mode (id :: ids) seen s e t ↔
      dependency programs mode spec s = (.error e, t) ∨
        ∃ status u, dependency programs mode spec s = (.ok status, u) ∧
          BreaksOff programs r mode ids (spec.program :: seen) u e t := by
  have hnone : seen ++ r.programs [] = seen := List.append_nil seen
  have hmiddle (front : List String) : (seen ++ r.programs (id :: front)).Perm
      (spec.program :: (seen ++ r.programs front)) := by
    rw [Registry.programs_cons h]
    exact List.perm_middle
  rw [BreaksOff, exists_split_cons_iff, hnone]
  refine or_congr ?_ ?_
  · rw [← refuses_iff h hfresh]
    constructor
    · rintro ⟨statuses, u, hnil, hrefused⟩
      obtain ⟨-, rfl⟩ := Prod.mk.inj hnil
      exact hrefused
    · exact fun hrefused => ⟨[], s, rfl, hrefused⟩
  · constructor
    · rintro ⟨front, id', back, rfl, statuses, v, hstep, hrefused⟩
      obtain ⟨hmem, -⟩ | ⟨-, status, u, rest, hone, hfront, -⟩ :=
        (dependencies_cons_eq_ok_iff h).mp hstep
      · exact absurd hmem hfresh
      · exact ⟨status, u, hone, front, id', back, rfl, rest, v, hfront,
          hrefused.mono (hmiddle front).symm.subset⟩
    · rintro ⟨status, u, hone, front, id', back, rfl, rest, v, hfront, hrefused⟩
      have hstep := (dependencies_cons_eq_ok_iff h).mpr
        (Or.inr ⟨hfresh, status, u, rest, hone, hfront, rfl⟩)
      exact ⟨front, id', back, rfl, _, v, hstep, hrefused.mono (hmiddle front).subset⟩

/-- **The work that does not come to its end** breaks off at a linter. -/
theorem dependencies_eq_error_iff :
    dependencies programs r mode ids seen s = (.error e, t) ↔
      BreaksOff programs r mode ids seen s e t := by
  induction ids generalizing seen s with
  | nil =>
      refine iff_of_false nofun ?_
      rintro ⟨front, id, back, hsplit, -⟩
      simp at hsplit
  | cons id ids ih =>
      cases hspec : r.get? id with
      | none =>
          rw [dependencies_of_get?_none hspec, breaksOff_cons_of_none hspec]
          simp [eq_comm]
      | some spec =>
          by_cases hseen : spec.program ∈ seen
          · rw [dependencies_of_seen hspec hseen, ih, breaksOff_cons_of_seen hspec hseen]
          · simp only [dependencies_cons_eq_error_iff hspec hseen, ih,
              breaksOff_cons_of_fresh hspec hseen]

/-- **Each program is handled once, in order, as the mode says.** The work on some linters comes to
its end exactly if all of them are known and each of their programs, in the order in which they are
needed first, has a turn that the mode allows, with the source that the first linter declares that
needs it; what is started is what the turns start. Otherwise it ends at a linter that is refused,
with the linters before it handled and those behind it untouched. Unless programs are to be
installed, the session stays as it is. -/
theorem programs_in_turn (programs : Programs) (r : Registry) (ids : List String)
    (mode : InstallMode) (s : Session) :
    (∀ statuses t, checkDependencies programs r ids mode s = (.ok statuses, t) ↔
        (∀ id ∈ ids, ∃ spec, r.get? id = some spec) ∧
          ∃ xs, Turns programs mode (r.source? ids) s xs t ∧
            xs.map Turn.program = (r.programs ids).eraseDups ∧ xs.map Turn.status = statuses ∧
            statuses.map DependencyStatus.program = (r.programs ids).eraseDups ∧
            t.started = s.started ++ xs.flatMap Turn.started) ∧
      (∀ e t, checkDependencies programs r ids mode s = (.error e, t) ↔
        ∃ front id back, ids = front ++ id :: back ∧
          ∃ statuses u, checkDependencies programs r front mode s = (.ok statuses, u) ∧
            r.Refuses programs mode (r.programs front) id u e t) ∧
      (mode = .install ∨ (checkDependencies programs r ids mode s).2 = s) := by
  have hok : ∀ ids statuses t, checkDependencies programs r ids mode s = (.ok statuses, t) ↔
      (∀ id ∈ ids, ∃ spec, r.get? id = some spec) ∧
        ∃ xs, Turns programs mode (r.source? ids) s xs t ∧
          xs.map Turn.program = (r.programs ids).eraseDups ∧ xs.map Turn.status = statuses := by
    intro ids statuses t
    have hall : ((r.programs ids).filter fun p => !([] : List String).contains p) =
        r.programs ids := by simp
    rw [checkDependencies, dependencies_eq_ok_iff, hall]
  have herror : ∀ e t, checkDependencies programs r ids mode s = (.error e, t) ↔
      ∃ front id back, ids = front ++ id :: back ∧
        ∃ statuses u, checkDependencies programs r front mode s = (.ok statuses, u) ∧
          r.Refuses programs mode (r.programs front) id u e t := fun e t => by
    simp only [checkDependencies, dependencies_eq_error_iff, BreaksOff, List.nil_append]
  refine ⟨fun statuses t => ?_, herror, or_iff_not_imp_left.mpr fun hmode => ?_⟩
  · rw [hok]
    refine and_congr_right fun _ => exists_congr fun xs => and_congr_right fun hturns => ?_
    refine and_congr_right fun hprograms => (and_iff_left_of_imp ?_).symm
    rintro rfl
    exact ⟨hturns.map_program_status.trans hprograms, hturns.started_eq⟩
  · rcases hwork : checkDependencies programs r ids mode s with ⟨e | statuses, t⟩
    · obtain ⟨front, id, back, -, statuses, u, hfront, hrefused⟩ := (herror e t).mp hwork
      obtain ⟨-, xs, hturns, -⟩ := (hok front statuses u).mp hfront
      exact (hrefused.eq_of_ne_install hmode).trans (hturns.eq_of_ne_install hmode)
    · obtain ⟨-, xs, hturns, -⟩ := (hok ids statuses t).mp hwork
      exact hturns.eq_of_ne_install hmode

/-- A linter that can be installed. -/
def errcheckLinter : LinterSpec :=
  { bareLinter with
    id := "errcheck"
    template := ⟨"errcheck", []⟩
    install := some "example.com/errcheck@latest" }

/-- Programs that complain and end with code one. -/
def offlinePrograms : Programs := fun x _ =>
  (.ok (.finished ⟨#[]⟩ "no network\n".toUTF8 (some 1)), x.files)

/-- At an installation that fails the work breaks off, and the linter behind it is not installed. -/
theorem programs_in_turn_offline :
    checkDependencies offlinePrograms ⟨[errcheckLinter]⟩ ["errcheck", "revive"] .install goSession =
      (.error (.installFailed "example.com/errcheck@latest" "no network"),
        { goSession with
          started := [installLaunch "/bin/go" "example.com/errcheck@latest"] }) := by
  have hwants : Registry.Wants ⟨[errcheckLinter]⟩ [] goSession "errcheck" errcheckLinter :=
    ⟨rfl, List.not_mem_nil, findProgram?_goSession_errcheck⟩
  have hreason : Text.trim (Text.lossy "no network\n".toUTF8) = "no network" := by
    rw [Text.lossy_toUTF8]
    decide
  have hfails : InstallFails offlinePrograms "errcheck" "example.com/errcheck@latest" goSession
      (.installFailed "example.com/errcheck@latest" "no network")
      { goSession with
        started := [installLaunch "/bin/go" "example.com/errcheck@latest"] } :=
    .failed findProgram?_goSession_go (hreason ▸ .finished _ _ (by decide))
  obtain ⟨-, herror, -⟩ := programs_in_turn offlinePrograms ⟨[errcheckLinter]⟩
    ["errcheck", "revive"] .install goSession
  exact (herror _ _).mpr ⟨[], "errcheck", ["revive"], rfl, [], goSession, rfl,
    .install rfl hwants rfl hfails⟩

end LintVerdict
