import Mathlib.Data.List.Find
import LintVerdict.Proofs.Dispatch.Run

/-!
# Linters that are not selected

A registry may hold any number of linters, and the options may hold any values. Of all these a run
reads the linters that are listed, and of the options the placeholders in the templates of those.
The file compares two configurations that list the same ids and agree on what is read: the check
accepts both or finds the same fault, and whatever a run asks its surroundings, it asks in both.

## Main definitions

* `CommandTemplate.placeholders`: the placeholders that a template holds.
* `Applicability.SameSelection`: two configurations that agree on the listed linters.

## Main results

* `CommandTemplate.render_congr`: a template reads no other option than its placeholders'.
* `Applicability.SameSelection.command_eq`: a listed linter has the same command in both.
* `unselected_immaterial`: the same verdict on both configurations, and the same runs.
-/

namespace LintVerdict

/-- The placeholder that a segment is, if it is one. -/
def Segment.placeholder? : Segment → Option Placeholder
  | literal _ => none
  | placeholder p _ => some p

/-- The placeholders that a template holds. -/
def CommandTemplate.placeholders (t : CommandTemplate) : List Placeholder :=
  t.args.flatMap fun a => a.segments.filterMap Segment.placeholder?

/-- Two configurations that agree on the listed linters: every listed id has the same linter in both
registries, or none in both, and the options say the same about every placeholder in the templates
of the listed linters. -/
structure Applicability.SameSelection (a : Applicability) (registry registry' : Registry)
    (options options' : Options) : Prop where
  linters : ∀ id ∈ a.listed, registry.get? id = registry'.get? id
  options : ∀ id ∈ a.listed, ∀ spec, registry.get? id = some spec →
    ∀ p ∈ spec.template.placeholders, options.value? p = options'.value? p

/-! ### Templates -/

section Render

variable {options options' : Options} {linter : String} {ss : List Segment}

/-- Segments read no other option than their placeholders'. -/
theorem renderSegments_congr
    (h : ∀ p ∈ ss.filterMap Segment.placeholder?, options.value? p = options'.value? p)
    (out : List Char) :
    renderSegments linter options ss out = renderSegments linter options' ss out := by
  induction ss generalizing out with
  | nil => rfl
  | cons s ss ih =>
      cases s with
      | literal text =>
          rw [List.filterMap_cons_none rfl] at h
          exact ih h _
      | placeholder p default =>
          have hp : Segment.placeholder? (.placeholder p default) = some p := rfl
          rw [List.filterMap_cons_some hp, List.forall_mem_cons] at h
          obtain ⟨hp, hss⟩ := h
          simp only [renderSegments, hp, ih hss]

/-- **A template reads no other option than its placeholders'.** -/
theorem CommandTemplate.render_congr {t : CommandTemplate}
    (h : ∀ p ∈ t.placeholders, options.value? p = options'.value? p) :
    t.render linter options = t.render linter options' := by
  have htokens : ∀ a ∈ t.args, a.render linter options = a.render linter options' := by
    intro a ha
    have hsegments : ∀ p ∈ a.segments.filterMap Segment.placeholder?,
        options.value? p = options'.value? p :=
      fun p hp => h p (List.mem_flatMap.mpr ⟨a, ha, hp⟩)
    rw [Token.render, Token.render, renderSegments_congr hsegments]
  rw [render, render, mapM_congr htokens]

end Render

/-! ### Configurations -/

namespace Applicability.SameSelection

open Dispatcher

variable {a : Applicability} {registry registry' : Registry} {options options' : Options}
  {failFast : Bool} {id : String}

/-- The lists have the same fault in both. -/
theorem validate_eq (h : a.SameSelection registry registry' options options') :
    a.validate registry = a.validate registry' := by
  have hfind : (a.listed.find? fun id => (registry.get? id).isNone) =
      a.listed.find? fun id => (registry'.get? id).isNone :=
    List.find?_congr fun id hid => by rw [h.linters id hid]
  rw [validate, validate, hfind]

theorem lookup_eq (h : a.SameSelection registry registry' options options')
    (hid : id ∈ a.listed) : registry.lookup id = registry'.lookup id := by
  rw [Registry.lookup, Registry.lookup, h.linters id hid]

/-- A listed linter passes the check of both, or has the same fault in both. -/
theorem checkLinter_eq (h : a.SameSelection registry registry' options options')
    (hid : id ∈ a.listed) :
    checkLinter registry options id = checkLinter registry' options' id := by
  rw [checkLinter, checkLinter, ← h.lookup_eq hid, Registry.lookup]
  cases hspec : registry.get? id with
  | none => rfl
  | some spec =>
      dsimp only
      rw [CommandTemplate.render_congr (h.options id hid spec hspec)]

/-- **Both are accepted, or have the same fault.** -/
theorem make_eq (h : a.SameSelection registry registry' options options') :
    (make registry a options failFast).map (fun _ => ()) =
      (make registry' a options' failFast).map fun _ => () := by
  have hall : a.allIds.forM (checkLinter registry options) =
      a.allIds.forM (checkLinter registry' options') :=
    forM_congr fun id hid => h.checkLinter_eq (mem_allIds.mp hid)
  rw [make, make, h.validate_eq, hall]
  cases a.validate registry' with
  | error e => rfl
  | ok _ => cases a.allIds.forM (checkLinter registry' options') <;> rfl

/-! ### Runs -/

variable {σ : Type} {host : Host σ} {root : String} {pairs : List (Scope × String)}

/-- **A listed linter has the same command in both**, or the same error. -/
theorem command_eq (h : a.SameSelection registry registry' options options')
    (hid : id ∈ a.listed) (files : Files) (root : String) (scope : Scope) :
    command ⟨registry, a, options, failFast⟩ files root scope id =
      command ⟨registry', a, options', failFast⟩ files root scope id := by
  rw [command, command]
  dsimp only
  rw [← h.lookup_eq hid, Registry.lookup]
  cases hspec : registry.get? id with
  | none => rfl
  | some spec =>
      have hbuild : ∀ target,
          spec.template.build id target options = spec.template.build id target options' := by
        intro target
        rw [CommandTemplate.build, CommandTemplate.build,
          CommandTemplate.render_congr (h.options id hid spec hspec)]
      simp only [Except.mapError, bind, Except.bind, hbuild]

theorem check_eq (h : a.SameSelection registry registry' options options')
    (hid : id ∈ a.listed) (scope : Scope) (s : σ) :
    check ⟨registry, a, options, failFast⟩ host root scope id s =
      check ⟨registry', a, options', failFast⟩ host root scope id s := by
  rw [check, check, h.command_eq hid]

/-- The loop over listed linters comes to the same end, by the same states. -/
theorem walk_eq (h : a.SameSelection registry registry' options options')
    (hpairs : ∀ p ∈ pairs, p.2 ∈ a.listed) (report : Report) (s : σ) :
    walk ⟨registry, a, options, failFast⟩ host root pairs report s =
      walk ⟨registry', a, options', failFast⟩ host root pairs report s := by
  induction pairs generalizing report s with
  | nil => rfl
  | cons p pairs ih =>
      obtain ⟨scope, linter⟩ := p
      obtain ⟨hlinter, hpairs⟩ := List.forall_mem_cons.mp hpairs
      rw [walk, walk, h.check_eq hlinter]
      rcases check ⟨registry', a, options', failFast⟩ host root scope linter s with
        ⟨e | result, s'⟩
      · rfl
      · dsimp only
        rw [ih hpairs]

/-- **A run comes to the same end in both.** -/
theorem run_eq (h : a.SameSelection registry registry' options options') (host : Host σ)
    (scopes : Scopes) (s : σ) :
    run ⟨registry, a, options, failFast⟩ host scopes s =
      run ⟨registry', a, options', failFast⟩ host scopes s := by
  have hlisted : ∀ p ∈ scheduled a scopes, p.2 ∈ a.listed := fun _ => listed_of_mem_scheduled
  rw [run, run, pairs_eq_scheduled, pairs_eq_scheduled]
  cases hpairs : scheduled a scopes with
  | nil => rfl
  | cons p pairs =>
      rw [hpairs] at hlisted
      simp only [h.walk_eq hlisted]

end Applicability.SameSelection

/-- **Linters that are not selected do not matter**, nor do options that no selected template
holds. Two configurations that agree on the listed linters are both accepted, or are refused with
the same error. If they are accepted, two runs on whatever scopes and host have the same report or
the same error, and leave the host in the same state, in which it may have noted every command that
it was given. -/
theorem unselected_immaterial {a : Applicability} {registry registry' : Registry}
    {options options' : Options} (h : a.SameSelection registry registry' options options')
    (failFast : Bool) :
    (Dispatcher.make registry a options failFast).map (fun _ => ()) =
        (Dispatcher.make registry' a options' failFast).map (fun _ => ()) ∧
      ∀ d d', Dispatcher.make registry a options failFast = .ok d →
        Dispatcher.make registry' a options' failFast = .ok d' →
        ∀ {σ : Type} (host : Host σ) (scopes : Scopes) (s : σ),
          d.run host scopes s = d'.run host scopes s := by
  refine ⟨h.make_eq, fun d d' hd hd' σ host scopes s => ?_⟩
  obtain rfl := Dispatcher.eq_of_make hd
  obtain rfl := Dispatcher.eq_of_make hd'
  exact h.run_eq host scopes s

/-- A linter whose command holds a placeholder. -/
def gaugeLinter : LinterSpec :=
  { bareLinter with
    id := "gauge"
    template := ⟨"gauge", [⟨"\x7bthreshold\x7d".toList, [.placeholder .threshold none]⟩]⟩ }

/-- Options that give the placeholder its value. -/
def gaugeOptions : Options := { Options.unset with threshold := some 3 }

/-- Another linter is declared and another option is set, and the run is the same. -/
theorem unselected_immaterial_gauge :
    Applicability.SameSelection ⟨["gauge"], []⟩ ⟨[gaugeLinter]⟩ ⟨[bareLinter, gaugeLinter]⟩
        gaugeOptions { gaugeOptions with tests := some true } ∧
      Dispatcher.run ⟨⟨[gaugeLinter]⟩, ⟨["gauge"], []⟩, gaugeOptions, true⟩
          failingSetting.host ⟨["a"], []⟩ [] =
        Dispatcher.run ⟨⟨[bareLinter, gaugeLinter]⟩, ⟨["gauge"], []⟩,
          { gaugeOptions with tests := some true }, true⟩ failingSetting.host ⟨["a"], []⟩ [] := by
  have hsame : Applicability.SameSelection ⟨["gauge"], []⟩ ⟨[gaugeLinter]⟩
      ⟨[bareLinter, gaugeLinter]⟩ gaugeOptions { gaugeOptions with tests := some true } := by
    refine ⟨fun id hid => ?_, fun id hid spec hspec p hp => ?_⟩
    · obtain rfl := List.mem_singleton.mp hid
      rfl
    · obtain rfl := List.mem_singleton.mp hid
      obtain rfl := Option.some.inj hspec
      obtain rfl := List.mem_singleton.mp hp
      rfl
  exact ⟨hsame, (unselected_immaterial hsame true).2 _ _ rfl rfl failingSetting.host _ _⟩

end LintVerdict
