import Mathlib.Data.List.Perm.Basic
import LintVerdict.Proofs.Scope.Distinct

/-!
# The scopes of two lists

The scopes of a list are two sets that are kept in first-seen order. The sets of two lists one after
the other are those of the first list, and behind them what is new in those of the second. So a list
that is repeated adds nothing, and the order of a list decides on the order of its scopes only. The
two sets are filled in one pass, but each of them obeys these laws by itself: the packages need not
come in the order of the directories.

## Main definitions

* `Scopes.union`: the scopes of two lists put together.
* `Scopes.Gathered`: the scopes are those of the entries.

## Main results

* `Scopes.ofFiles_append`: the scopes of two lists one after the other.
* `Scopes.gathered_ofFiles`: the scopes of a list are those of its entries.
* `scopes_ordered_union`: both, and what follows for repeated and permuted lists.
-/

namespace LintVerdict

open FilePath

/-! ### Elements in first-seen order -/

section EraseDups

variable {α : Type} [BEq α] [LawfulBEq α]

/-- To leave out elements and to leave out repetitions can be done in either order. -/
theorem eraseDups_filter (p : α → Bool) (xs : List α) :
    (xs.filter p).eraseDups = xs.eraseDups.filter p := by
  induction xs using List.reverseRecOn with
  | nil => rfl
  | append_singleton xs x ih =>
      rw [List.filter_append, eraseDups_concat, insertNew]
      cases hx : p x with
      | false =>
          rw [List.filter_singleton, hx, cond_false, List.append_nil, ih]
          split
          · rfl
          · rw [List.filter_append, List.filter_singleton, hx, cond_false, List.append_nil]
      | true =>
          have hcontains : (xs.filter p).eraseDups.contains x = xs.eraseDups.contains x := by
            rw [Bool.eq_iff_iff, List.contains_iff_mem, List.contains_iff_mem,
              List.mem_eraseDups, List.mem_eraseDups, List.mem_filter]
            exact and_iff_left hx
          rw [List.filter_singleton, hx, cond_true, eraseDups_concat, insertNew, hcontains, ih]
          split
          · rfl
          · rw [List.filter_append, List.filter_singleton, hx, cond_true]

/-- Of two lists one after the other, the second one adds what is new in it. -/
theorem eraseDups_append_new (xs ys : List α) :
    (xs ++ ys).eraseDups =
      xs.eraseDups ++ ys.eraseDups.filter fun y => !xs.eraseDups.contains y := by
  have hnew : ys.removeAll xs = ys.filter fun y => !xs.eraseDups.contains y := by
    refine List.filter_congr ?_
    intro y _
    rw [Bool.not_inj_iff, List.elem_eq_contains, Bool.eq_iff_iff, List.contains_iff_mem,
      List.contains_iff_mem, List.mem_eraseDups]
  rw [List.eraseDups_append, hnew, eraseDups_filter]

end EraseDups

/-! ### Scopes -/

namespace Scopes

/-- The scopes of two lists put together: those of the first one, and behind them what is new in
those of the second one, in its order. -/
def union (s t : Scopes) : Scopes where
  packages := s.packages ++ t.packages.filter fun d => !s.packages.contains d
  directories := s.directories ++ t.directories.filter fun d => !s.directories.contains d

/-- The scopes are those of the entries of a file list: each one once, by a text that names it. -/
structure Gathered (files : List String) (s : Scopes) : Prop where
  /-- No package is there twice. -/
  nodup_packages : s.packages.Nodup
  /-- No directory is there twice. -/
  nodup_directories : s.directories.Nodup
  /-- Packages are directories. -/
  packages_subset : s.packages ⊆ s.directories
  /-- No scope is the empty text. -/
  empty_notMem : "" ∉ s.packages ∧ "" ∉ s.directories
  /-- The directories are those in which the entries lie. -/
  mem_directories : ∀ dir, dir ∈ s.directories ↔ ∃ file ∈ files, ListedIn file dir
  /-- The packages are those in which the entries lie that end as a Go file does in their normal
  form. -/
  mem_packages : ∀ dir, dir ∈ s.packages ↔
    ∃ file ∈ files, ListedIn file dir ∧
      ∃ path, normalize file.toList = some path ∧ ['.', 'g', 'o'] <:+ path

variable {files xs ys : List String} {dir file : String}

theorem union_self (s : Scopes) : s.union s = s := by
  have hnone : ∀ dirs : List String, dirs.filter (fun d => !dirs.contains d) = [] := by
    simp
  rw [union, hnone, hnone, List.append_nil, List.append_nil]

theorem normalized_append (xs ys : List String) :
    normalized (xs ++ ys) = normalized xs ++ normalized ys :=
  List.filterMap_append

/-- **The scopes of two lists one after the other.** -/
theorem ofFiles_append (xs ys : List String) :
    ofFiles (xs ++ ys) = (ofFiles xs).union (ofFiles ys) := by
  simp only [union, ofFiles_eq, normalized_append, List.filter_append, List.map_append,
    eraseDups_append_new]

theorem ne_empty_of_listedIn (h : ListedIn file dir) : dir ≠ "" := by
  rcases h with ⟨-, -, -, -⟩
  intro hempty
  rw [← String.ofList_nil, String.ofList_inj] at hempty
  split at hempty
  · exact absurd hempty (List.cons_ne_nil _ _)
  · next hdir => exact hdir hempty

/-- **The scopes of a list are those of its entries.** -/
theorem gathered_ofFiles (files : List String) : Gathered files (ofFiles files) where
  nodup_packages := nodup_packages files
  nodup_directories := nodup_directories files
  packages_subset := by
    intro dir hdir
    obtain ⟨file, hfile, -, hlisted⟩ := mem_packages_iff.mp hdir
    exact mem_directories_iff.mpr ⟨file, hfile, hlisted⟩
  empty_notMem := by
    constructor
    · intro h
      obtain ⟨file, -, -, hlisted⟩ := mem_packages_iff.mp h
      exact ne_empty_of_listedIn hlisted rfl
    · intro h
      obtain ⟨file, -, hlisted⟩ := mem_directories_iff.mp h
      exact ne_empty_of_listedIn hlisted rfl
  mem_directories _ := mem_directories_iff
  mem_packages dir := by
    rw [mem_packages_iff]
    constructor
    · rintro ⟨file, hfile, hgo, hlisted⟩
      obtain ⟨path, hpath, -⟩ := listedIn_iff.mp hlisted
      refine ⟨file, hfile, hlisted, path, hpath, ?_⟩
      rw [← List.isSuffixOf_iff_suffix]
      exact (isGo_iff hpath).mpr hgo
    · rintro ⟨file, hfile, hlisted, path, hpath, hgo⟩
      rw [← List.isSuffixOf_iff_suffix] at hgo
      exact ⟨file, hfile, (isGo_iff hpath).mp hgo, hlisted⟩

theorem perm_directories (h : xs.Perm ys) :
    (ofFiles xs).directories.Perm (ofFiles ys).directories := by
  refine (List.perm_ext_iff_of_nodup (nodup_directories xs) (nodup_directories ys)).mpr ?_
  intro dir
  simp only [mem_directories_iff, h.mem_iff]

theorem perm_packages (h : xs.Perm ys) : (ofFiles xs).packages.Perm (ofFiles ys).packages := by
  refine (List.perm_ext_iff_of_nodup (nodup_packages xs) (nodup_packages ys)).mpr ?_
  intro dir
  simp only [mem_packages_iff, h.mem_iff]

end Scopes

/-- **The scopes of a list are its entries' in first-seen order.** Each scope of a list is there
once and is named, packages are directories, and the scopes are those of the entries with none
missing. The scopes of two lists one after the other are those of the first list, and behind them
what is new in those of the second one in its order. A repeated list adds nothing, and another order
of a list gives the same scopes in another order. -/
theorem scopes_ordered_union (xs ys : List String) :
    Scopes.Gathered xs (Scopes.ofFiles xs) ∧
      Scopes.ofFiles (xs ++ ys) = (Scopes.ofFiles xs).union (Scopes.ofFiles ys) ∧
      Scopes.ofFiles (xs ++ xs) = Scopes.ofFiles xs ∧
      (xs.Perm ys →
        (Scopes.ofFiles xs).packages.Perm (Scopes.ofFiles ys).packages ∧
          (Scopes.ofFiles xs).directories.Perm (Scopes.ofFiles ys).directories) := by
  refine ⟨Scopes.gathered_ofFiles xs, Scopes.ofFiles_append xs ys, ?_, ?_⟩
  · rw [Scopes.ofFiles_append, Scopes.union_self]
  · intro hperm
    exact ⟨Scopes.perm_packages hperm, Scopes.perm_directories hperm⟩

/-- A directory that is first seen with a text file, so that it comes first among the directories
and last among the packages. -/
theorem scopes_ordered_union_reordered :
    ["a/x.md", "b/y.go", "a/z.go"].Perm ["a/z.go", "a/x.md", "b/y.go"] ∧
      (Scopes.ofFiles ["a/x.md", "b/y.go", "a/z.go"]).directories = ["a", "b"] ∧
      (Scopes.ofFiles ["a/x.md", "b/y.go", "a/z.go"]).packages = ["b", "a"] ∧
      ["b", "a"].Perm (Scopes.ofFiles ["a/z.go", "a/x.md", "b/y.go"]).packages := by
  have hperm : ["a/x.md", "b/y.go", "a/z.go"].Perm ["a/z.go", "a/x.md", "b/y.go"] := by
    decide
  have hpackages : (Scopes.ofFiles ["a/x.md", "b/y.go", "a/z.go"]).packages = ["b", "a"] := by
    decide
  exact ⟨hperm, by decide, hpackages,
    hpackages ▸ ((scopes_ordered_union _ _).2.2.2 hperm).1⟩

end LintVerdict
