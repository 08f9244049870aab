import LintVerdict.Proofs.Linter
import LintVerdict.Proofs.Scope

/-!
# The check of the listed linters

The ids of two lists are checked in two passes. The first one goes through both lists and looks
every id up, the second one goes through the packages' list and looks for ids of the directories'
list. So an unknown id is told before a shared one, whichever list it stands in, and each pass tells
the first id that it finds. What is checked further on is the list of the distinct ids, in which no
listed id is lost.

## Main definitions

* `Applicability.FirstFault`: the fault that two lists are refused for.

## Main results

* `pairwise_idxOf_eraseDups`: without repeats, elements stand in the order in which they are first
  seen.
* `Applicability.validate_eq_ok_iff`, `Applicability.validate_eq_error_iff`: which lists pass the
  check, and for which id they are refused.
* `listed_linters_checked`: both, and the list of the distinct ids.
-/

namespace LintVerdict

/-! ### Elements in the order in which they are first seen -/

section FirstSeen

variable {α : Type} [BEq α] [LawfulBEq α]

/-- Elements that are put in one by one are those of the list without repeats. -/
theorem foldl_insertNew (xs : List α) : xs.foldl insertNew [] = xs.eraseDups := by
  induction xs using List.reverseRecOn with
  | nil => rfl
  | append_singleton xs x ih =>
      rw [List.foldl_append, ih, eraseDups_concat]
      rfl

/-- **Without repeats, elements stand in the order in which they are first seen.** -/
theorem pairwise_idxOf_eraseDups (xs : List α) :
    xs.eraseDups.Pairwise fun x y => xs.idxOf x < xs.idxOf y := by
  induction xs using List.reverseRecOn with
  | nil => exact .nil
  | append_singleton xs x ih =>
      have hfirst : ∀ y ∈ xs.eraseDups, (xs ++ [x]).idxOf y = xs.idxOf y := fun y hy => by
        rw [List.idxOf_append, if_pos (List.mem_eraseDups.mp hy)]
      have hold : xs.eraseDups.Pairwise fun y z =>
          (xs ++ [x]).idxOf y < (xs ++ [x]).idxOf z := by
        refine ih.imp_of_mem fun hy hz hlt => ?_
        rwa [hfirst _ hy, hfirst _ hz]
      rw [eraseDups_concat, insertNew]
      split
      · exact hold
      · next hnew =>
        have hx : x ∉ xs := by simpa using hnew
        refine List.pairwise_append.mpr ⟨hold, List.pairwise_singleton _ _, fun y hy z hz => ?_⟩
        obtain rfl := List.mem_singleton.mp hz
        rw [hfirst y hy, List.idxOf_append, if_neg hx]
        exact Nat.lt_add_left _ (List.idxOf_lt_length_of_mem (List.mem_eraseDups.mp hy))

end FirstSeen

namespace Applicability

variable {a : Applicability} {registry : Registry} {e : RegistryError}

/-! ### The check -/

/-- The fault of two lists: the first unknown id of the packages' list and then the directories',
or, if every id is known, the first id of the packages' list that is in the directories' too. -/
inductive FirstFault (a : Applicability) (registry : Registry) : RegistryError → Prop
  | unknown {front back : List String} {id : String} :
      a.package ++ a.directory = front ++ id :: back →
      (∀ x ∈ front, ∃ spec, registry.get? x = some spec) → registry.get? id = none →
      FirstFault a registry (.notFound id)
  | shared {front back : List String} {id : String} :
      (∀ x ∈ a.package ++ a.directory, ∃ spec, registry.get? x = some spec) →
      a.package = front ++ id :: back → (∀ x ∈ front, x ∉ a.directory) → id ∈ a.directory →
      FirstFault a registry (.overlap id)

theorem find?_unknown_eq_none_iff :
    (a.listed.find? fun id => (registry.get? id).isNone) = none ↔
      ∀ id ∈ a.listed, ∃ spec, registry.get? id = some spec := by
  simp [List.find?_eq_none, Option.ne_none_iff_exists']

/-- **Exactly the lists of known ids that share none pass the check.** -/
theorem validate_eq_ok_iff :
    a.validate registry = .ok () ↔
      (∀ id ∈ a.listed, ∃ spec, registry.get? id = some spec) ∧
        ∀ id ∈ a.package, id ∉ a.directory := by
  have hdisjoint : (a.package.find? fun id => a.directory.contains id) = none ↔
      ∀ id ∈ a.package, id ∉ a.directory := by
    simp [List.find?_eq_none]
  rw [validate, ← find?_unknown_eq_none_iff, ← hdisjoint]
  cases a.listed.find? fun id => (registry.get? id).isNone with
  | some id => simp
  | none => cases a.package.find? fun id => a.directory.contains id <;> simp

/-- A refusal tells the fault. -/
theorem firstFault_of_validate (h : a.validate registry = .error e) : a.FirstFault registry e := by
  unfold validate at h
  split at h
  · next id hfind =>
    obtain ⟨hid, front, back, hsplit, hfront⟩ := List.find?_eq_some_iff_append.mp hfind
    rw [← Except.error.inj h]
    exact .unknown hsplit (fun x hx => Option.isSome_iff_exists.mp (by simpa using hfront x hx))
      (Option.isNone_iff_eq_none.mp hid)
  · next hknown =>
    split at h
    · next id hfind =>
      obtain ⟨hid, front, back, hsplit, hfront⟩ := List.find?_eq_some_iff_append.mp hfind
      rw [← Except.error.inj h]
      exact .shared (find?_unknown_eq_none_iff.mp hknown) hsplit
        (fun x hx => by simpa using hfront x hx) (List.contains_iff_mem.mp hid)
    · exact absurd h nofun

/-- Lists with a fault are refused for it. -/
theorem FirstFault.validate_eq (h : a.FirstFault registry e) : a.validate registry = .error e := by
  cases h with
  | @unknown front back id hsplit hfront hnone =>
      have hfind : (a.listed.find? fun id => (registry.get? id).isNone) = some id :=
        List.find?_eq_some_iff_append.mpr ⟨Option.isNone_iff_eq_none.mpr hnone, front, back, hsplit,
          fun x hx => by simpa using Option.isSome_iff_exists.mpr (hfront x hx)⟩
      rw [validate, hfind]
  | @shared front back id hknown hsplit hfront hmem =>
      have hfind : (a.package.find? fun id => a.directory.contains id) = some id :=
        List.find?_eq_some_iff_append.mpr ⟨List.contains_iff_mem.mpr hmem, front, back, hsplit,
          fun x hx => by simpa using hfront x hx⟩
      rw [validate, find?_unknown_eq_none_iff.mpr hknown, hfind]

/-- **Lists are refused for their first fault.** -/
theorem validate_eq_error_iff : a.validate registry = .error e ↔ a.FirstFault registry e :=
  ⟨firstFault_of_validate, FirstFault.validate_eq⟩

end Applicability

/-- **The check of the listed linters.** Two lists pass it exactly if every id of both is known and
none is in both. Otherwise they are refused for the first unknown id of the packages' list and then
the directories', and only where all are known for the first id of the packages' list that is in the
other one too. The distinct ids are those of both lists, each of them once, in the order in which
they are first seen. -/
theorem listed_linters_checked (a : Applicability) (registry : Registry) :
    (a.validate registry = .ok () ↔
        (∀ id, id ∈ a.package ∨ id ∈ a.directory → ∃ spec, registry.get? id = some spec) ∧
          ∀ id ∈ a.package, id ∉ a.directory) ∧
      (∀ e, a.validate registry = .error e ↔ a.FirstFault registry e) ∧
      a.allIds.Nodup ∧ (∀ id, id ∈ a.allIds ↔ id ∈ a.package ∨ id ∈ a.directory) ∧
      a.allIds.Pairwise fun x y =>
        (a.package ++ a.directory).idxOf x < (a.package ++ a.directory).idxOf y := by
  have hids : a.allIds = (a.package ++ a.directory).eraseDups := foldl_insertNew _
  refine ⟨?_, fun e => Applicability.validate_eq_error_iff, ?_, fun id => ?_, ?_⟩
  · simp only [← List.mem_append]
    exact Applicability.validate_eq_ok_iff
  · rw [hids]
    exact nodup_eraseDups _
  · rw [hids, List.mem_eraseDups, List.mem_append]
  · rw [hids]
    exact pairwise_idxOf_eraseDups _

end LintVerdict
