import LintVerdict.Proofs.Dispatch.Run
import LintVerdict.Proofs.Dispatch.Walk
import LintVerdict.Proofs.Linter.Applicability

/-!
# Configuration errors are settled beforehand

`Dispatcher.make` refuses a faulty configuration. A run looks its linters up and renders their
templates again, pair by pair, but the registry, the lists and the options are those that were
checked. So nothing in a run is the configuration's fault.

## Main definitions

* `Applicability.Settled`: a configuration without a fault.
* `DispatchError.OfEnvironment`: the errors with which a run may still end.

## Main results

* `Dispatcher.make_eq_ok_iff`: exactly the configurations without a fault are accepted.
* `Dispatcher.ofEnvironment_of_command`: a settled command fails by the environment only.
* `configuration_settled`: a run of an accepted configuration fails by the environment only.
-/

namespace LintVerdict

/-- A configuration without a fault. -/
structure Applicability.Settled (a : Applicability) (registry : Registry) (options : Options) :
    Prop where
  /-- Every listed id is known. -/
  known : ∀ id ∈ a.listed, ∃ spec, registry.get? id = some spec
  /-- No id is in both lists. -/
  disjoint : ∀ id ∈ a.package, id ∉ a.directory
  /-- The template of every listed id has all its values. -/
  rendered : ∀ id ∈ a.listed, ∀ spec, registry.get? id = some spec →
    ∃ args, spec.template.render id options = .ok args

/-- The errors that are left to a run: the root is not told or is no directory to work in, the
files of a target cannot be listed, or a command is not run to its end. -/
inductive DispatchError.OfEnvironment : DispatchError → Prop
  | rootResolution (reason : String) : OfEnvironment (.rootResolution reason)
  | workDir (path reason : String) : OfEnvironment (.workDir path reason)
  | target (linter path reason : String) : OfEnvironment (.template linter (.target path reason))
  | executor (linter : String) (scope : Scope) (fault : ExecutorError) :
      OfEnvironment (.executor linter scope fault)

/-- They are of the kind that the machine has to answer for. -/
theorem DispatchError.OfEnvironment.kind {e : DispatchError} (h : e.OfEnvironment) :
    e.kind = .environment := by
  cases h <;> rfl

/-! ### The check -/

namespace Dispatcher

variable {registry : Registry} {a : Applicability} {options : Options} {failFast : Bool}
  {d : Dispatcher}

/-- **Exactly the configurations without a fault are accepted**, and they are kept as they are
given. -/
theorem make_eq_ok_iff :
    make registry a options failFast = .ok d ↔
      a.Settled registry options ∧ d = ⟨registry, a, options, failFast⟩ := by
  constructor
  · intro h
    have hvalid : a.validate registry = .ok () := by
      unfold make at h
      split at h
      · simp at h
      · assumption
    obtain ⟨hknown, hdisjoint⟩ := Applicability.validate_eq_ok_iff.mp hvalid
    refine ⟨⟨hknown, hdisjoint, fun id hid spec hspec => ?_⟩, eq_of_make h⟩
    obtain ⟨spec', args, hspec', hargs⟩ := rendered_of_make h hid
    obtain rfl : spec' = spec := Option.some.inj (hspec'.symm.trans hspec)
    exact ⟨args, hargs⟩
  · rintro ⟨hsettled, rfl⟩
    have hall : a.allIds.forM (checkLinter registry options) = .ok () := by
      refine forM_eq_ok_iff.mpr fun id hid => ?_
      have hlisted := Applicability.mem_allIds.mp hid
      obtain ⟨spec, hspec⟩ := hsettled.known id hlisted
      obtain ⟨args, hargs⟩ := hsettled.rendered id hlisted spec hspec
      exact checkLinter_eq_ok_iff.mpr ⟨spec, args, hspec, hargs⟩
    rw [make, Applicability.validate_eq_ok_iff.mpr ⟨hsettled.known, hsettled.disjoint⟩]
    dsimp only
    rw [hall]

/-! ### What can go wrong in a run -/

theorem ofEnvironment_of_workingRoot {files : Files} {root : SystemText} {e : DispatchError}
    (h : workingRoot files root = .error e) : e.OfEnvironment := by
  unfold workingRoot at h
  split at h
  · rw [← Except.error.inj h]
    exact .workDir _ _
  · split at h
    · simp at h
    · rw [← Except.error.inj h]
      exact .workDir _ _

/-- A target only fails to be listed. -/
theorem target_of_args {style : TargetStyle} {files : Files} {root : SystemText} {scope : Scope}
    {fault : TemplateError} (h : style.args files root scope = .error fault) :
    ∃ path reason, fault = .target path reason := by
  unfold TargetStyle.args at h
  split at h
  · simp at h
  · split at h
    · exact ⟨_, _, (Except.error.inj h).symm⟩
    · simp at h
    · simp at h

/-- **The command of a settled linter** can only fail to be built since its target cannot be
listed, which is the environment's fault. -/
theorem ofEnvironment_of_command {linter : String} {spec : LinterSpec} {args : List String}
    {files : Files} {root : SystemText} {scope : Scope} {e : DispatchError}
    (hspec : d.registry.get? linter = some spec)
    (hargs : spec.template.render linter d.options = .ok args)
    (h : d.command files root scope linter = .error e) : e.OfEnvironment := by
  have hlookup : (d.registry.lookup linter).mapError DispatchError.registry = .ok spec := by
    rw [Registry.lookup_of_get? hspec]
    rfl
  have hbuild : ∀ target, (spec.template.build linter target d.options).mapError
      (DispatchError.template linter) = .ok ⟨spec.template.program, args ++ target⟩ := by
    intro target
    rw [CommandTemplate.build, hargs]
    rfl
  rw [command, hlookup] at h
  obtain h | ⟨spec', hspec', h⟩ := bind_eq_error_iff.mp h
  · cases h
  obtain rfl := Except.ok.inj hspec'
  obtain h | ⟨target, -, h⟩ := bind_eq_error_iff.mp h
  · obtain ⟨fault, hfault, rfl⟩ := mapError_eq_error_iff.mp h
    obtain ⟨path, reason, rfl⟩ := target_of_args hfault
    exact .target linter path reason
  · rw [hbuild] at h
    cases h

/-- **A settled configuration fails by the environment only.** -/
theorem ofEnvironment_of_run {σ : Type} {host : Host σ} {scopes : Scopes} {s : σ}
    {e : DispatchError}
    (hd : d.applicability.Settled d.registry d.options)
    (hroot : ∀ s e, (host.root s).1 = .error e → ∃ reason, e = .rootResolution reason)
    (h : (d.run host scopes s).1 = .error e) : e.OfEnvironment := by
  obtain hr | ⟨files, root, hdir⟩ | ⟨p, hp, ⟨files, root, hcommand⟩ | ⟨fault, rfl⟩⟩ :=
    error_of_run (Prod.ext h rfl)
  · obtain ⟨reason, rfl⟩ := hroot s e hr
    exact .rootResolution reason
  · exact ofEnvironment_of_workingRoot hdir
  · rw [pairs_eq_scheduled] at hp
    have hlisted := listed_of_mem_scheduled hp
    obtain ⟨spec, hspec⟩ := hd.known p.2 hlisted
    obtain ⟨args, hargs⟩ := hd.rendered p.2 hlisted spec hspec
    exact ofEnvironment_of_command hspec hargs hcommand
  · exact .executor _ _ fault

end Dispatcher

/-- **Configuration errors are settled beforehand.** Exactly the configurations without a fault
are accepted: every listed id is known, the two lists share none, and every template has all its
values. A run of an accepted one, on whatever scopes and host, fails by the environment only: no
unknown or shared id and no missing value is left to be met. -/
theorem configuration_settled (registry : Registry) (a : Applicability) (options : Options)
    (failFast : Bool) :
    ((∃ d, Dispatcher.make registry a options failFast = .ok d) ↔ a.Settled registry options) ∧
      ∀ d, Dispatcher.make registry a options failFast = .ok d →
        ∀ {σ : Type} (host : Host σ),
          (∀ s e, (host.root s).1 = .error e → ∃ reason, e = .rootResolution reason) →
          ∀ scopes s e, (d.run host scopes s).1 = .error e →
            e.OfEnvironment ∧ e.kind = .environment := by
  refine ⟨⟨?_, ?_⟩, ?_⟩
  · rintro ⟨d, hd⟩
    exact (Dispatcher.make_eq_ok_iff.mp hd).1
  · exact fun hsettled => ⟨_, Dispatcher.make_eq_ok_iff.mpr ⟨hsettled, rfl⟩⟩
  · intro d hd σ host hroot scopes s e h
    obtain ⟨hsettled, rfl⟩ := Dispatcher.make_eq_ok_iff.mp hd
    have hof := Dispatcher.ofEnvironment_of_run hsettled hroot h
    exact ⟨hof, hof.kind⟩

/-- A tree whose root is unknown. -/
def rootlessSetting : Setting :=
  ⟨⟨.dir [], []⟩, .error (.rootResolution "no repository"), fun _ _ => .ok ⟨"", some 0⟩⟩

/-- The bare linter is settled, and without a root it fails by the environment. -/
theorem configuration_settled_rootless :
    Applicability.Settled ⟨["vet"], []⟩ ⟨[bareLinter]⟩ .unset ∧
      Dispatcher.make ⟨[bareLinter]⟩ ⟨["vet"], []⟩ .unset true = .ok (bareDispatcher true) ∧
      ((bareDispatcher true).run rootlessSetting.host ⟨["a"], []⟩ []).1 =
        .error (.rootResolution "no repository") ∧
      (DispatchError.rootResolution "no repository").OfEnvironment ∧
      (DispatchError.rootResolution "no repository").kind = .environment := by
  have hroot : ∀ s e, (rootlessSetting.host.root s).1 = .error e →
      ∃ reason, e = .rootResolution reason :=
    fun _ e h => ⟨_, (Except.error.inj h).symm⟩
  have hrun : ((bareDispatcher true).run rootlessSetting.host ⟨["a"], []⟩ []).1 =
      .error (.rootResolution "no repository") := rfl
  have hsettled := configuration_settled ⟨[bareLinter]⟩ ⟨["vet"], []⟩ .unset true
  exact ⟨hsettled.1.mp ⟨_, make_bareDispatcher true⟩, make_bareDispatcher true, hrun,
    hsettled.2 _ (make_bareDispatcher true) rootlessSetting.host hroot ⟨["a"], []⟩ [] _ hrun⟩

end LintVerdict
