import LintVerdict.Dispatch
import LintVerdict.Proofs.FirstError
import LintVerdict.Proofs.Linter
import LintVerdict.Proofs.Report

/-!
# Walking the pairs

A run asks its surroundings for the root, and then builds and launches the command of one pair
after the other. The surroundings may answer differently each time. The file follows a run
through their states: which linters ran, what their commands left, and how a run ends.

## Main definitions

* `LinterRun`: a linter that ran, and what its command left.
* `Dispatcher.Walked`: the linters of some pairs run one after the other.
* `Dispatcher.Ran`: the linters that a whole run ran.

## Main results

* `Dispatcher.check_eq_ok_iff`, `Dispatcher.error_of_check`: what comes of one pair.
* `Dispatcher.walk_cases`: how the loop ends.
* `Dispatcher.ran_of_run_eq_ok`: a report is that on the linters that ran.
* `Dispatcher.failing_of_run`: how far a run with an error has come.
* `Dispatcher.error_of_run`: where the error of a run comes from.
* `Dispatcher.checked_eq_zero_iff`: a report counts no check exactly if there is no pair.
-/

namespace LintVerdict

/-- A linter that ran on a scope, and what its command left. -/
structure LinterRun where
  /-- What was checked. -/
  scope : Scope
  /-- The linter. -/
  spec : LinterSpec
  /-- What its command left. -/
  output : ProcessOutput

/-- The result of the linter. -/
def LinterRun.result (x : LinterRun) : RunResult := evaluate x.scope x.spec x.output

namespace Dispatcher

variable {σ : Type} {d : Dispatcher} {host : Host σ} {root : String} {scope : Scope}
  {linter : String} {s s' : σ} {scopes : Scopes} {pairs : List (Scope × String)}
  {p : Scope × String} {report report' : Report}

/-- The linters of some pairs run in turn, each in the state that the one before left. The
command of each is built from the files as they are then. -/
inductive Walked (d : Dispatcher) (host : Host σ) (root : String) :
    List (Scope × String) → σ → List LinterRun → σ → Prop
  | nil {s : σ} : Walked d host root [] s [] s
  | cons {scope : Scope} {linter : String} {spec : LinterSpec} {command : Command}
      {output : ProcessOutput} {pairs : List (Scope × String)} {xs : List LinterRun}
      {s s₁ s₂ : σ} :
      d.command (host.files s) root scope linter = .ok (spec, command) →
      host.launch command root s = (.ok output, s₁) →
      Walked d host root pairs s₁ xs s₂ →
      Walked d host root ((scope, linter) :: pairs) s (⟨scope, spec, output⟩ :: xs) s₂

/-- The linters that a run from one state to another ran. Without a pair the run asks for
nothing. With one it asks for the root first, and then runs the linters of the first pairs. -/
inductive Ran (d : Dispatcher) (host : Host σ) (scopes : Scopes) (s : σ) :
    List LinterRun → σ → Prop
  | nothing : d.pairs scopes = [] → Ran d host scopes s [] s
  | walked {root dir : String} {done : List (Scope × String)} {xs : List LinterRun} {s₁ s₂ : σ} :
      host.root s = (.ok root, s₁) → workingRoot (host.files s₁) root = .ok dir →
      done <+: d.pairs scopes → Walked d host dir done s₁ xs s₂ → Ran d host scopes s xs s₂

/-! ### One pair -/

/-- A pair has a result when its command can be built and launched. -/
theorem check_eq_ok_iff {result : RunResult} :
    d.check host root scope linter s = (.ok result, s') ↔
      ∃ spec command output, d.command (host.files s) root scope linter = .ok (spec, command) ∧
        host.launch command root s = (.ok output, s') ∧ result = evaluate scope spec output := by
  rw [check]
  cases hc : d.command (host.files s) root scope linter with
  | error e => simp
  | ok built =>
      obtain ⟨spec, command⟩ := built
      dsimp only
      constructor
      · intro h
        split at h
        · simp at h
        · next output s₁ hl =>
          obtain ⟨hresult, rfl⟩ := Prod.mk.inj h
          exact ⟨spec, command, output, rfl, hl, (Except.ok.inj hresult).symm⟩
      · rintro ⟨spec', command', output, hcommand, hl, rfl⟩
        obtain ⟨rfl, rfl⟩ := Prod.mk.inj (Except.ok.inj hcommand)
        rw [hl]

/-- A command starts the program of the linter that the registry knows. -/
theorem program_of_command {files : Files} {spec : LinterSpec} {command : Command}
    (h : d.command files root scope linter = .ok (spec, command)) :
    d.registry.get? linter = some spec ∧ command.program = spec.program := by
  rw [Dispatcher.command] at h
  obtain ⟨spec', hlookup, h⟩ := bind_eq_ok_iff.mp h
  obtain ⟨target, -, h⟩ := bind_eq_ok_iff.mp h
  obtain ⟨built, hbuilt, h⟩ := bind_eq_ok_iff.mp h
  obtain ⟨rfl, rfl⟩ := Prod.mk.inj (Except.ok.inj h)
  rw [mapError_eq_ok_iff] at hlookup hbuilt
  constructor
  · rw [Registry.lookup] at hlookup
    split at hlookup
    · next hget => rw [hget, Except.ok.inj hlookup]
    · cases hlookup
  · rw [CommandTemplate.build] at hbuilt
    obtain ⟨args, -, hbuilt⟩ := bind_eq_ok_iff.mp hbuilt
    rw [← Except.ok.inj hbuilt]
    rfl

/-- A command that cannot be built has an unknown linter, a target that cannot be listed, or a
template that does not resolve. -/
theorem error_of_command {files : Files} {e : DispatchError}
    (h : d.command files root scope linter = .error e) :
    (∃ fault, e = .registry fault) ∨ ∃ fault, e = .template linter fault := by
  rw [Dispatcher.command] at h
  obtain h | ⟨_, -, h⟩ := bind_eq_error_iff.mp h
  · obtain ⟨fault, -, rfl⟩ := mapError_eq_error_iff.mp h
    exact Or.inl ⟨fault, rfl⟩
  obtain h | ⟨_, -, h⟩ := bind_eq_error_iff.mp h
  · obtain ⟨fault, -, rfl⟩ := mapError_eq_error_iff.mp h
    exact Or.inr ⟨fault, rfl⟩
  obtain h | ⟨_, -, h⟩ := bind_eq_error_iff.mp h
  · obtain ⟨fault, -, rfl⟩ := mapError_eq_error_iff.mp h
    exact Or.inr ⟨fault, rfl⟩
  · cases h

/-- A command that is built and cannot be run to its end was launched. -/
theorem launch_of_check_eq_error {linter' : String} {scope' : Scope} {fault : ExecutorError}
    (h : d.check host root scope linter s = (.error (.executor linter' scope' fault), s')) :
    ∃ spec command, d.command (host.files s) root scope linter = .ok (spec, command) ∧
      host.launch command root s = (.error fault, s') := by
  rw [check] at h
  split at h
  · next hc =>
    obtain ⟨hfault, -⟩ := Prod.mk.inj h
    obtain rfl := Except.error.inj hfault
    obtain ⟨_, hne⟩ | ⟨_, hne⟩ := error_of_command hc <;> cases hne
  · next spec command hc =>
    split at h
    · next hlaunch =>
      obtain ⟨hfault, rfl⟩ := Prod.mk.inj h
      cases hfault
      exact ⟨spec, command, hc, hlaunch⟩
    · simp at h

/-- A pair has an error when its command cannot be built, or cannot be run to its end. -/
theorem error_of_check {e : DispatchError} (h : d.check host root scope linter s = (.error e, s')) :
    d.command (host.files s) root scope linter = .error e ∨
      ∃ fault, e = .executor linter scope fault := by
  rw [check] at h
  split at h
  · next fault hc =>
    obtain ⟨hfault, -⟩ := Prod.mk.inj h
    obtain rfl := Except.error.inj hfault
    exact Or.inl hc
  · split at h
    · next fault _ _ =>
      obtain ⟨hfault, -⟩ := Prod.mk.inj h
      exact Or.inr ⟨fault, (Except.error.inj hfault).symm⟩
    · simp at h

/-! ### The loop -/

/-- **How the loop ends**: with the report on the linters of the first pairs, or with the error
of the pair behind them. -/
theorem walk_cases (d : Dispatcher) (host : Host σ) (root : String)
    (pairs : List (Scope × String)) (report : Report) (s : σ) :
    ∃ done xs s₁, Walked d host root done s xs s₁ ∧
      ((done <+: pairs ∧ d.walk host root pairs report s =
          (.ok ((xs.map LinterRun.result).foldl Report.record report), s₁)) ∨
        ∃ p back e s₂, pairs = done ++ p :: back ∧
          d.check host root p.1 p.2 s₁ = (.error e, s₂) ∧
          d.walk host root pairs report s = (.error e, s₂)) := by
  induction pairs generalizing report s with
  | nil => exact ⟨[], [], s, .nil, Or.inl ⟨List.prefix_rfl, rfl⟩⟩
  | cons p pairs ih =>
      obtain ⟨scope, linter⟩ := p
      rw [walk]
      rcases hcheck : d.check host root scope linter s with ⟨e | result, s₁⟩
      · exact ⟨[], [], s, .nil, Or.inr ⟨_, pairs, e, s₁, rfl, hcheck, rfl⟩⟩
      · obtain ⟨spec, command, output, hcommand, hlaunch, rfl⟩ := check_eq_ok_iff.mp hcheck
        dsimp only
        split
        · exact ⟨[(scope, linter)], [⟨scope, spec, output⟩], s₁, .cons hcommand hlaunch .nil,
            Or.inl ⟨List.prefix_append [_] pairs, rfl⟩⟩
        · obtain ⟨done, xs, s₂, hwalked, hend⟩ :=
            ih (report.record (evaluate scope spec output)) s₁
          refine ⟨(scope, linter) :: done, ⟨scope, spec, output⟩ :: xs, s₂,
            .cons hcommand hlaunch hwalked, ?_⟩
          obtain ⟨hdone, hwalk⟩ | ⟨q, back, e, s₃, rfl, hq, hwalk⟩ := hend
          · exact Or.inl ⟨List.cons_prefix_cons.mpr ⟨rfl, hdone⟩, hwalk⟩
          · exact Or.inr ⟨q, back, e, s₃, rfl, hq, hwalk⟩

/-- A loop counts on. -/
theorem checked_le_of_walk (h : d.walk host root pairs report s = (.ok report', s')) :
    report.checked ≤ report'.checked := by
  obtain ⟨done, xs, s₁, -, ⟨-, hwalk⟩ | ⟨_, _, _, _, _, _, hwalk⟩⟩ :=
    walk_cases d host root pairs report s
  · obtain ⟨hreport, -⟩ := Prod.mk.inj (hwalk.symm.trans h)
    rw [← Except.ok.inj hreport, Report.foldl_record]
    exact Nat.le_add_right ..
  · exact absurd (hwalk.symm.trans h) (by simp)

/-- A loop over a pair counts at least this one. -/
theorem checked_lt_of_walk (h : d.walk host root (p :: pairs) report s = (.ok report', s')) :
    report.checked < report'.checked := by
  rw [walk] at h
  rcases hcheck : d.check host root p.1 p.2 s with ⟨e | result, s₁⟩
  · rw [hcheck] at h
    simp at h
  · rw [hcheck] at h
    dsimp only at h
    have hcount : (report.record result).checked = report.checked + 1 := by
      rw [Report.record_eq]
    split at h
    · obtain ⟨hreport, -⟩ := Prod.mk.inj h
      rw [← Except.ok.inj hreport]
      omega
    · have hrest := checked_le_of_walk h
      omega

/-! ### The run -/

/-- **A report is that on the linters that ran.** -/
theorem ran_of_run_eq_ok (h : d.run host scopes s = (.ok report, s')) :
    ∃ xs, Ran d host scopes s xs s' ∧ report = Report.ofResults (xs.map LinterRun.result) := by
  rw [run] at h
  split at h
  · next hpairs =>
    obtain ⟨hreport, rfl⟩ := Prod.mk.inj h
    exact ⟨[], .nothing hpairs, (Except.ok.inj hreport).symm⟩
  · split at h
    · simp at h
    · next root s₁ hroot =>
      split at h
      · simp at h
      · next dir hdir =>
        obtain ⟨done, xs, s₂, hwalked, ⟨hdone, hwalk⟩ | ⟨_, _, _, _, _, _, hwalk⟩⟩ :=
          walk_cases d host dir (d.pairs scopes) .clean s₁
        · rw [hwalk] at h
          obtain ⟨hreport, rfl⟩ := Prod.mk.inj h
          exact ⟨xs, .walked hroot hdir hdone hwalked, (Except.ok.inj hreport).symm⟩
        · rw [hwalk] at h
          simp at h

/-- A run that ends with an error has no root, or none to work in, or it has walked up to a pair
that fails. -/
theorem failing_of_run {e : DispatchError} (h : d.run host scopes s = (.error e, s')) :
    (host.root s).1 = .error e ∨ (∃ files root, workingRoot files root = .error e) ∨
      ∃ root s₁ dir done p back xs s₂, host.root s = (.ok root, s₁) ∧
        d.pairs scopes = done ++ p :: back ∧ Walked d host dir done s₁ xs s₂ ∧
        d.check host dir p.1 p.2 s₂ = (.error e, s') := by
  rw [run] at h
  split at h
  · simp at h
  · split at h
    · next hroot =>
      obtain ⟨he, -⟩ := Prod.mk.inj h
      obtain rfl := Except.error.inj he
      exact Or.inl (congrArg Prod.fst hroot)
    · next root s₁ hroot =>
      split at h
      · next hdir =>
        obtain ⟨he, -⟩ := Prod.mk.inj h
        obtain rfl := Except.error.inj he
        exact Or.inr (Or.inl ⟨_, _, hdir⟩)
      · next dir hdir =>
        obtain ⟨done, xs, s₂, hwalked, ⟨_, hwalk⟩ | ⟨p, back, _, _, hpairs, hp, hwalk⟩⟩ :=
          walk_cases d host dir (d.pairs scopes) .clean s₁
        · rw [hwalk] at h
          simp at h
        · rw [hwalk] at h
          obtain ⟨he, rfl⟩ := Prod.mk.inj h
          obtain rfl := Except.error.inj he
          exact Or.inr (Or.inr ⟨root, s₁, dir, done, p, back, xs, s₂, hroot, hpairs, hwalked, hp⟩)

/-- **Where the error of a run comes from**: the root is unknown or unusable, or a pair's command
cannot be built or run to its end. -/
theorem error_of_run {e : DispatchError} (h : d.run host scopes s = (.error e, s')) :
    (host.root s).1 = .error e ∨ (∃ files root, workingRoot files root = .error e) ∨
      ∃ p ∈ d.pairs scopes, (∃ files root, d.command files root p.1 p.2 = .error e) ∨
        ∃ fault, e = .executor p.2 p.1 fault := by
  obtain hroot | hdir | ⟨_, _, _, _, p, _, _, _, -, hpairs, -, hp⟩ := failing_of_run h
  · exact Or.inl hroot
  · exact Or.inr (Or.inl hdir)
  · exact Or.inr (Or.inr ⟨p, by simp [hpairs], (error_of_check hp).imp_left fun hc => ⟨_, _, hc⟩⟩)

/-- **Without a pair a run is clean**, and asks for nothing. -/
theorem run_of_no_pair (h : d.pairs scopes = []) (host : Host σ) (s : σ) :
    d.run host scopes s = (.ok .clean, s) := by
  rw [run, h]

/-- **A report counts no check** exactly if there is no pair. -/
theorem checked_eq_zero_iff (h : d.run host scopes s = (.ok report, s')) :
    report.checked = 0 ↔ d.pairs scopes = [] := by
  constructor
  · intro hzero
    by_contra hpairs
    obtain ⟨p, pairs, hcons⟩ := List.exists_cons_of_ne_nil hpairs
    rw [run, hcons] at h
    dsimp only at h
    split at h
    · simp at h
    · split at h
      · simp at h
      · have hlt := checked_lt_of_walk h
        omega
  · intro hpairs
    obtain ⟨hreport, -⟩ := Prod.mk.inj ((run_of_no_pair hpairs host s).symm.trans h)
    rw [← Except.ok.inj hreport]
    rfl

/-- Which runs come to the clean report of no check. -/
theorem run_eq_clean_iff :
    d.run host scopes s = (.ok .clean, s') ↔ d.pairs scopes = [] ∧ s = s' := by
  constructor
  · intro h
    have hpairs := (checked_eq_zero_iff h).mp rfl
    exact ⟨hpairs, (Prod.mk.inj ((run_of_no_pair hpairs host s).symm.trans h)).2⟩
  · rintro ⟨hpairs, rfl⟩
    exact run_of_no_pair hpairs host s

end Dispatcher

end LintVerdict
