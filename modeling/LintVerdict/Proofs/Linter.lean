import LintVerdict.Linter.Applicability
import LintVerdict.Proofs.FirstError

/-!
# The registry and the listed linters

What the registry answers, and which ids a configuration lists.

## Main results

* `LinterSpec.compile_eq_ok_iff`: which declarations are usable.
* `Registry.id_of_get?`: the linter of an id has that id.
* `Applicability.mem_allIds`: leaving out repeats loses no id.
-/

namespace LintVerdict

/-! ### Looking up -/

/-- **A declaration is usable** if its template and its pattern are, and it keeps the rest as it
is given. -/
theorem LinterSpec.compile_eq_ok_iff {id : String} {d : LinterDefinition} {s : LinterSpec} :
    LinterSpec.compile id d = .ok s ↔
      ∃ t p, CommandTemplate.parse d.command = .ok t ∧ OutputPattern.parse d.pattern = .ok p ∧
        s = ⟨id, t, d.target, p, d.message, d.install⟩ := by
  simp only [compile, bind_eq_ok_iff, mapError_eq_ok_iff]
  constructor
  · rintro ⟨t, ht, p, hp, hs⟩
    exact ⟨t, p, ht, hp, (Except.ok.inj hs).symm⟩
  · rintro ⟨t, p, ht, hp, rfl⟩
    exact ⟨t, ht, p, hp, rfl⟩

/-- A declaration is compiled under the id it was given. -/
theorem LinterSpec.id_of_compile {id : String} {d : LinterDefinition} {s : LinterSpec}
    (h : LinterSpec.compile id d = .ok s) : s.id = id := by
  obtain ⟨t, p, -, -, rfl⟩ := compile_eq_ok_iff.mp h
  rfl

/-- A built-in linter has the id it is found under. -/
theorem id_of_builtinSpec? {id : String} {s : LinterSpec} (h : builtinSpec? id = some s) :
    s.id = id := by
  obtain ⟨b, hb, hs⟩ := Option.bind_eq_some_iff.mp h
  have hid : b.1 = id := by simpa using List.find?_some hb
  cases hc : LinterSpec.compile b.1 b.2 with
  | error e => simp [hc, Except.toOption] at hs
  | ok t =>
      obtain rfl : t = s := by simpa [hc, Except.toOption] using hs
      rw [LinterSpec.id_of_compile hc, hid]

/-- The linter of an id has that id. -/
theorem Registry.id_of_get? {r : Registry} {id : String} {s : LinterSpec}
    (h : r.get? id = some s) : s.id = id := by
  unfold Registry.get? at h
  cases hu : r.user.find? (fun s => s.id = id) with
  | none =>
      rw [hu] at h
      exact id_of_builtinSpec? h
  | some t =>
      rw [hu] at h
      obtain rfl : t = s := Option.some.inj h
      simpa using List.find?_some hu

/-- Looking up succeeds with the linter that the registry knows. -/
theorem Registry.lookup_of_get? {r : Registry} {id : String} {s : LinterSpec}
    (h : r.get? id = some s) : r.lookup id = .ok s := by
  rw [Registry.lookup, h]

/-! ### The listed ids -/

theorem mem_insertNew {α : Type} [BEq α] [LawfulBEq α] {xs : List α} {x y : α} :
    y ∈ insertNew xs x ↔ y ∈ xs ∨ y = x := by
  unfold insertNew
  split
  case isTrue h =>
    have hx : x ∈ xs := by simpa using h
    exact ⟨Or.inl, fun h => h.elim id fun hy => hy ▸ hx⟩
  case isFalse => simp

/-- Inserting a list of elements adds exactly those. -/
theorem mem_foldl_insertNew {α : Type} [BEq α] [LawfulBEq α] {ys xs : List α} {y : α} :
    y ∈ ys.foldl insertNew xs ↔ y ∈ xs ∨ y ∈ ys := by
  induction ys generalizing xs with
  | nil => simp
  | cons z ys ih => rw [List.foldl_cons, ih, mem_insertNew, List.mem_cons, or_assoc]

namespace Applicability

/-- Leaving out repeats loses no id. -/
theorem mem_allIds {a : Applicability} {id : String} : id ∈ a.allIds ↔ id ∈ a.listed := by
  rw [allIds, mem_foldl_insertNew]
  simp

end Applicability

end LintVerdict
