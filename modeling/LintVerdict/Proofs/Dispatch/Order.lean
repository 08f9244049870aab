import Mathlib.Data.List.Perm.Basic
import LintVerdict.Proofs.Dispatch.Configuration

/-!
# The order of scopes and linters

The same packages, directories and linters can be listed in many orders. A run that stops at the
first failure may then run entirely different linters. The file shows that the verdict is the
same in every order, and that a run that goes on reports the same, in another order.

A host may change its state and its files from one command to the next. As long as it answers
commands by what they say, and lists the same targets, its state does not show in the report.

## Main definitions

* `Applicability.Reorders`, `Scopes.Reorders`: the same lists in another order.
* `Host.Steady`: a host that answers like a setting, whatever its state.

## Main results

* `Host.Steady.run_eq`: the report of a steady host is that of the setting.
* `outcome_walked`: the walk up to the first failure has the outcome of the full one.
* `verdict_reordered`: the verdict in another order.
-/

namespace LintVerdict

/-- The same linters in another order. -/
structure Applicability.Reorders (a a' : Applicability) : Prop where
  package : a'.package.Perm a.package
  directory : a'.directory.Perm a.directory

/-- The same packages and directories in another order. -/
structure Scopes.Reorders (s s' : Scopes) : Prop where
  packages : s'.packages.Perm s.packages
  directories : s'.directories.Perm s.directories

/-- A host that answers like a setting, whatever its state: with the same root, with the same
targets of the pairs, and with an answer to every command that depends on the command only. -/
structure Host.Steady {σ : Type} (host : Host σ) (w : Setting) (registry : Registry)
    (pairs : List (Scope × String)) : Prop where
  root : ∀ s, (host.root s).1 = w.root
  workingRoot : ∀ s root,
    Dispatcher.workingRoot (host.files s) root = Dispatcher.workingRoot w.files root
  target : ∀ s root, ∀ p ∈ pairs, ∀ spec, registry.get? p.2 = some spec →
    spec.target.args (host.files s) root p.1 = spec.target.args w.files root p.1
  answer : ∀ c root s, (host.launch c root s).1 = w.answer c root

/-- The host in a setting is steady. -/
theorem Setting.steady (w : Setting) (registry : Registry) (pairs : List (Scope × String)) :
    w.host.Steady w registry pairs where
  root _ := rfl
  workingRoot _ _ := rfl
  target _ _ _ _ _ _ := rfl
  answer _ _ _ := rfl

/-! ### Steady hosts -/

namespace Host.Steady

open Dispatcher

variable {σ : Type} {host : Host σ} {w : Setting} {d : Dispatcher} {root : String}
  {pairs : List (Scope × String)}

/-- The command of a pair does not depend on the state. -/
theorem command_eq (h : host.Steady w d.registry pairs) {p : Scope × String} (hp : p ∈ pairs)
    (s : σ) : d.command (host.files s) root p.1 p.2 = d.command w.files root p.1 p.2 := by
  cases hspec : d.registry.get? p.2 with
  | none => simp [command, Registry.lookup, hspec, Except.mapError, bind, Except.bind]
  | some spec =>
      have htarget := h.target s root p hp spec hspec
      simp only [command, Registry.lookup_of_get? hspec, Except.mapError, bind, Except.bind,
        htarget]

/-- The result of a pair does not depend on the state. -/
theorem check_eq (h : host.Steady w d.registry pairs) {p : Scope × String} (hp : p ∈ pairs)
    (s : σ) (log : List Command) :
    (d.check host root p.1 p.2 s).1 = (d.check w.host root p.1 p.2 log).1 := by
  rw [check, check, h.command_eq hp, Setting.host_files]
  cases d.command w.files root p.1 p.2 with
  | error e => rfl
  | ok built =>
      obtain ⟨spec, c⟩ := built
      have hanswer := h.answer c root s
      rcases hlaunch : host.launch c root s with ⟨answer, s'⟩
      rw [hlaunch] at hanswer
      obtain rfl : answer = w.answer c root := hanswer
      dsimp only
      rw [hlaunch, Setting.host_launch]
      cases w.answer c root <;> rfl

/-- The report on the first pairs does not depend on the state. -/
theorem walk_eq (h : host.Steady w d.registry pairs) {todo : List (Scope × String)}
    (htodo : ∀ p ∈ todo, p ∈ pairs) (report : Report) (s : σ) (log : List Command) :
    (d.walk host root todo report s).1 = (d.walk w.host root todo report log).1 := by
  induction todo generalizing report s log with
  | nil => rfl
  | cons p todo ih =>
      obtain ⟨scope, linter⟩ := p
      rw [List.forall_mem_cons] at htodo
      have hcheck : (d.check host root scope linter s).1 =
          (d.check w.host root scope linter log).1 := h.check_eq htodo.1 s log
      rw [walk, walk]
      rcases hhost : d.check host root scope linter s with ⟨result, s'⟩
      rcases hw : d.check w.host root scope linter log with ⟨result', log'⟩
      rw [hhost, hw] at hcheck
      obtain rfl : result = result' := hcheck
      cases result with
      | error e => rfl
      | ok result =>
          dsimp only
          split
          · rfl
          · exact ih htodo.2 _ s' log'

/-- **The report of a steady host is that of the setting**, whatever state it begins in. -/
theorem run_eq {scopes : Scopes} (h : host.Steady w d.registry (d.pairs scopes)) (s : σ) :
    (d.run host scopes s).1 = (d.run w.host scopes []).1 := by
  have hroot := h.root s
  rw [run, run]
  cases hpairs : d.pairs scopes with
  | nil => rfl
  | cons p rest =>
      dsimp only
      rcases hask : host.root s with ⟨answer, s'⟩
      rw [hask] at hroot
      obtain rfl : answer = w.root := hroot
      rw [Setting.host_root]
      cases w.root with
      | error e => rfl
      | ok root =>
          dsimp only
          rw [h.workingRoot, Setting.host_files]
          cases Dispatcher.workingRoot w.files root with
          | error e => rfl
          | ok dir =>
              rw [hpairs] at h
              exact h.walk_eq (fun _ hp => hp) .clean s' []

end Host.Steady

/-! ### The schedule and its fates in another order -/

section Reordered

variable {registry : Registry} {a a' : Applicability} {options : Options} {failFast : Bool}
  {scopes scopes' : Scopes} {w : Setting} {root : String} {as as' : List Attempt}

/-- The same linters are listed. -/
theorem Applicability.Reorders.mem_listed_iff (h : a.Reorders a') {id : String} :
    id ∈ a'.listed ↔ id ∈ a.listed := by
  rw [listed, listed, List.mem_append, List.mem_append, h.package.mem_iff, h.directory.mem_iff]

/-- **A configuration without a fault has none in another order.** -/
theorem Applicability.Settled.reorder (hsettled : a.Settled registry options)
    (h : a.Reorders a') : a'.Settled registry options where
  known id hid := hsettled.known id (h.mem_listed_iff.mp hid)
  disjoint id hpackage hdirectory :=
    hsettled.disjoint id (h.package.mem_iff.mp hpackage) (h.directory.mem_iff.mp hdirectory)
  rendered id hid := hsettled.rendered id (h.mem_listed_iff.mp hid)

/-- The same pairs are scheduled. -/
theorem scheduled_perm (ha : a.Reorders a') (hscopes : scopes.Reorders scopes') :
    (scheduled a' scopes').Perm (scheduled a scopes) :=
  ((hscopes.packages.product ha.package).map _).append
    ((hscopes.directories.product ha.directory).map _)

/-- A fate is that of a scheduled pair. -/
theorem exists_mem_of_attempted {pairs : List (Scope × String)}
    (h : List.Forall₂ (Attempted registry options w root) pairs as) {x : Attempt}
    (hx : x ∈ as) : ∃ p ∈ pairs, Attempted registry options w root p x :=
  exists_of_forall₂_right h hx

/-! ### Reports without errors -/

/-- A walk on that meets no error takes all fates. -/
theorem walked_of_no_error (h : ∀ x ∈ as, x.error? = none) : walked false as = as := by
  induction as with
  | nil => rfl
  | cons x as ih =>
      rw [List.forall_mem_cons] at h
      have hends : x.ends false = false := by
        rw [Attempt.ends, h.1]
        rfl
      rw [walked_cons, hends, ih h.2]
      rfl

/-- A walk takes the first fates. -/
theorem mem_of_mem_walked {x : Attempt} (h : x ∈ walked failFast as) : x ∈ as :=
  List.mem_of_mem_take h

/-- Without an error there is a report. -/
theorem verdict_of_no_error (h : ∀ x ∈ as, x.error? = none) : verdict as = .ok (reportOn as) := by
  rw [verdict, List.findSome?_eq_none_iff.mpr h]

/-- **The walk up to the first failure has the outcome of the full one.** -/
theorem outcome_walked (h : ∀ x ∈ as, x.error? = none) (failFast : Bool) :
    (reportOn (walked failFast as)).outcome = (reportOn as).outcome := by
  cases failFast with
  | false => rw [walked_of_no_error h]
  | true =>
      obtain ⟨hsame, -⟩ | ⟨front, x, more, -, -, hfails, htrue, hfalse⟩ := walked_cases as
      · rw [hsame, walked_of_no_error h]
      · rw [walked_of_no_error h] at hfalse
        rw [htrue, hfalse, reportOn, reportOn]
        simp [hfails]

/-- **The report in another order** has the same outcome and the same number of runs, and the
same failing runs and findings in another order. -/
theorem reportOn_perm (h : as'.Perm as) :
    (reportOn as').outcome = (reportOn as).outcome ∧
      (reportOn as').checked = (reportOn as).checked ∧
      (reportOn as').failed.Perm (reportOn as).failed ∧
      (reportOn as').findings.Perm (reportOn as).findings := by
  have hany : as'.any Attempt.fails = as.any Attempt.fails := by
    rw [Bool.eq_iff_iff, List.any_eq_true, List.any_eq_true]
    exact exists_congr fun x => and_congr_left fun _ => h.mem_iff
  refine ⟨?_, h.length_eq, (h.filter _).map _, h.flatMap_right _⟩
  rw [reportOn, reportOn, hany]

/-- **The verdict does not depend on the order.** -/
theorem verdict_reordered {d : Dispatcher}
    (hd : Dispatcher.make registry a options failFast = .ok d) (ha : a.Reorders a')
    (hscopes : scopes.Reorders scopes') {σ : Type} {host : Host σ}
    (hhost : host.Steady w registry (scheduled a scopes)) (hroot : w.workingRoot = .ok root)
    (hfree : ∀ p ∈ scheduled a scopes, ∀ x, Attempted registry options w root p x →
      x.error? = none) (s s' : σ) :
    ∃ d' r r', Dispatcher.make registry a' options failFast = .ok d' ∧
      (d.run host scopes s).1 = .ok r ∧ (d'.run host scopes' s').1 = .ok r' ∧
      r'.outcome = r.outcome ∧
      (failFast = false →
        r'.checked = r.checked ∧ r'.failed.Perm r.failed ∧ r'.findings.Perm r.findings) := by
  obtain ⟨hsettled, rfl⟩ := Dispatcher.make_eq_ok_iff.mp hd
  have hperm := scheduled_perm ha hscopes
  have hhost' : host.Steady w registry (scheduled a' scopes') :=
    { hhost with target := fun s root p hp => hhost.target s root p (hperm.mem_iff.mp hp) }
  obtain ⟨as, has⟩ := exists_attempts w root hd scopes
  obtain ⟨as', has', has_perm⟩ := List.perm_comp_forall₂ hperm has
  have hnone : ∀ x ∈ as, x.error? = none := by
    intro x hx
    obtain ⟨p, hp, hpx⟩ := exists_mem_of_attempted has hx
    exact hfree p hp x hpx
  have hnone' : ∀ x ∈ as', x.error? = none := fun x hx => hnone x (has_perm.mem_iff.mp hx)
  obtain ⟨houtcome, hreport⟩ := reportOn_perm has_perm
  refine ⟨⟨registry, a', options, failFast⟩, reportOn (walked failFast as),
    reportOn (walked failFast as'), Dispatcher.make_eq_ok_iff.mpr ⟨hsettled.reorder ha, rfl⟩,
    ?_, ?_, ?_, ?_⟩
  · rw [Host.Steady.run_eq (by rwa [Dispatcher.pairs_eq_scheduled]), run_of_root hroot has]
    exact verdict_of_no_error fun x hx => hnone x (mem_of_mem_walked hx)
  · rw [Host.Steady.run_eq (by rwa [Dispatcher.pairs_eq_scheduled]), run_of_root hroot has']
    exact verdict_of_no_error fun x hx => hnone' x (mem_of_mem_walked hx)
  · rw [outcome_walked hnone, outcome_walked hnone', houtcome]
  · rintro rfl
    rwa [walked_of_no_error hnone, walked_of_no_error hnone']

end Reordered

/-- Two linters that run the same command. -/
def twinRegistry : Registry := ⟨[bareLinter, { bareLinter with id := "lint" }]⟩

/-- An empty tree in which the command on one package fails. -/
def mixedSetting : Setting :=
  ⟨⟨.dir [], []⟩, .ok "/", fun c _ => .ok ⟨"", some (if c.args = ["./b"] then 1 else 0)⟩⟩

/-- Two linters on two packages, one of which is faulty. In the one order the third pair is the
first to fail, in the other the first pair. -/
theorem verdict_reordered_mixed :
    Applicability.Reorders ⟨["vet", "lint"], []⟩ ⟨["lint", "vet"], []⟩ ∧
      Scopes.Reorders ⟨["a", "b"], []⟩ ⟨["b", "a"], []⟩ ∧ mixedSetting.workingRoot = .ok "/" ∧
      ∃ d d' r r',
        Dispatcher.make twinRegistry ⟨["vet", "lint"], []⟩ .unset true = .ok d ∧
        Dispatcher.make twinRegistry ⟨["lint", "vet"], []⟩ .unset true = .ok d' ∧
        (d.run mixedSetting.host ⟨["a", "b"], []⟩ []).1 = .ok r ∧
        (d'.run mixedSetting.host ⟨["b", "a"], []⟩ []).1 = .ok r' ∧ r'.outcome = r.outcome := by
  have ha : Applicability.Reorders ⟨["vet", "lint"], []⟩ ⟨["lint", "vet"], []⟩ :=
    ⟨.swap _ _ _, .nil⟩
  have hscopes : Scopes.Reorders ⟨["a", "b"], []⟩ ⟨["b", "a"], []⟩ := ⟨.swap _ _ _, .nil⟩
  have hroot : mixedSetting.workingRoot = .ok "/" := workingRoot_root rfl
  have hd : Dispatcher.make twinRegistry ⟨["vet", "lint"], []⟩ .unset true =
      .ok ⟨twinRegistry, ⟨["vet", "lint"], []⟩, .unset, true⟩ := rfl
  have hfree : ∀ p ∈ scheduled ⟨["vet", "lint"], []⟩ ⟨["a", "b"], []⟩, ∀ x,
      Attempted twinRegistry .unset mixedSetting "/" p x → x.error? = none := by
    intro p hp x hx
    have hlisted : p.2 = "vet" ∨ p.2 = "lint" := by
      simpa [Applicability.listed] using listed_of_mem_scheduled hp
    cases hx with
    | answered => rfl
    | @unlisted scope linter spec fault hspec htarget =>
        -- both linters name the scope itself, which needs no listing
        have hpath : spec.target = .path := by
          obtain rfl | rfl : linter = "vet" ∨ linter = "lint" := hlisted
          · exact congrArg LinterSpec.target (Option.some.inj hspec).symm
          · exact congrArg LinterSpec.target (Option.some.inj hspec).symm
        rw [hpath, TargetStyle.args] at htarget
        cases htarget
  obtain ⟨d', r, r', hd', hr, hr', houtcome, -⟩ := verdict_reordered hd ha hscopes
    (mixedSetting.steady twinRegistry _) hroot hfree [] []
  exact ⟨ha, hscopes, hroot, _, d', r, r', hd, hd', hr, hr', houtcome⟩

end LintVerdict
