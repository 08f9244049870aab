import Mathlib.Data.List.Induction
import Mathlib.Data.List.Nodup
import LintVerdict.Proofs.Files.Spelling
import LintVerdict.Proofs.Text
import LintVerdict.Scope

/-!
# Directories in first-seen order

Scopes are gathered file by file, and a directory that is there already is not put in again. So a
list of files gives the distinct directories of its files, in the order in which they are first
seen. A file that is written as a row of names keeps its form, and its directory is the row
without the last name.

## Main definitions

* `Scopes.normalized`, `Scopes.dirOf`: the files of a list in their normal form, and the directory
  of such a file.
* `FilePath.IsRow`: pieces that are names.

## Main results

* `Scopes.ofFiles_eq`: the scopes of a list of files.
* `IsRow.normalize_eq`: a row of names keeps its form.
* `IsRow.parent_eq`: the directory of a row of names.
-/

namespace LintVerdict

/-! ### Gathering -/

/-- An element put in behind distinct ones. -/
theorem eraseDups_concat {α : Type} [BEq α] [LawfulBEq α] (xs : List α) (x : α) :
    (xs ++ [x]).eraseDups = insertNew xs.eraseDups x := by
  rw [List.eraseDups_append, insertNew]
  by_cases hx : x ∈ xs
  · have hcontains : xs.eraseDups.contains x = true := by simpa using hx
    have hnone : [x].removeAll xs = [] := by simp [List.removeAll, hx]
    rw [if_pos hcontains, hnone, List.eraseDups_nil, List.append_nil]
  · have hcontains : ¬ xs.eraseDups.contains x = true := by simpa using hx
    have hone : [x].removeAll xs = [x] := by simp [List.removeAll, hx]
    rw [if_neg hcontains, hone]
    rfl

theorem eraseDups_eq_nil_iff {α : Type} [BEq α] [LawfulBEq α] {xs : List α} :
    xs.eraseDups = [] ↔ xs = [] := by
  simp [List.eq_nil_iff_forall_not_mem, List.mem_eraseDups]

theorem nodup_eraseDups {α : Type} [BEq α] [LawfulBEq α] (xs : List α) : xs.eraseDups.Nodup := by
  induction xs using List.reverseRecOn with
  | nil => exact List.nodup_nil
  | append_singleton xs x ih =>
      rw [eraseDups_concat, insertNew]
      split
      · exact ih
      · next hnew =>
        have hx : x ∉ xs.eraseDups := by simpa using hnew
        rw [← List.concat_eq_append]
        exact ih.concat hx

/-- Among the elements that were not seen before, the first one is left out from then on. -/
theorem eraseDups_filter_cons {α : Type} [BEq α] [LawfulBEq α] {x : α} {xs seen : List α}
    (hx : x ∉ seen) :
    ((x :: xs).filter fun y => !seen.contains y).eraseDups =
      x :: (xs.filter fun y => !(x :: seen).contains y).eraseDups := by
  rw [List.filter_cons_of_pos (by simpa using hx), List.eraseDups_cons, List.filter_filter]
  congr 3
  funext y
  rw [List.contains_cons, Bool.not_or]

namespace Scopes

/-- The directory of a normalized file. -/
def dirOf (cs : List Char) : String := String.ofList (FilePath.parent cs)

/-- The files of a list in their normal form, blank entries left out. -/
def normalized (files : List String) : List (List Char) :=
  files.filterMap fun file => FilePath.normalize file.toList

/-- **The scopes of a list of files** are the distinct directories of its files in first-seen
order, and for packages the same with Go files only. -/
theorem ofFiles_eq (files : List String) :
    ofFiles files =
      { packages := (((normalized files).filter FilePath.isGo).map dirOf).eraseDups
        directories := ((normalized files).map dirOf).eraseDups } := by
  induction files using List.reverseRecOn with
  | nil => rfl
  | append_singleton files file ih =>
      have hgather : ofFiles (files ++ [file]) = (ofFiles files).addFile file :=
        List.foldl_append ..
      rw [hgather, ih, addFile, normalized, normalized, List.filterMap_append]
      cases hfile : FilePath.normalize file.toList with
      | none => simp [hfile]
      | some cs =>
          cases hgo : FilePath.isGo cs with
          | true => simp [hfile, hgo, eraseDups_concat, dirOf]
          | false => simp [hfile, hgo, eraseDups_concat, dirOf]

end Scopes

namespace FilePath

/-! ### The last slash -/

theorem beforeLastSlash_of_notMem {file : List Char} (h : '/' ∉ file) :
    beforeLastSlash file = none := by
  rw [beforeLastSlash, dropWhile_ne_self (mt List.mem_reverse.mp h)]

theorem beforeLastSlash_append {name : List Char} (dir : List Char) (h : '/' ∉ name) :
    beforeLastSlash (dir ++ '/' :: name) = some dir := by
  rw [beforeLastSlash, List.reverse_append, List.reverse_cons, List.append_assoc,
    List.singleton_append, dropWhile_ne_append (mt List.mem_reverse.mp h)]
  dsimp only
  rw [List.reverse_reverse]

/-! ### Rows of names -/

/-- The pieces of a path in which each one names something. -/
structure IsRow (ps : List (List Char)) : Prop where
  /-- There is a name. -/
  ne_nil : ps ≠ []
  /-- Each piece names something. -/
  not_idle : ∀ p ∈ ps, Pieces.isIdle p = false
  /-- No slash stands in a name. -/
  noSlash : ∀ p ∈ ps, '/' ∉ p

variable {ps : List (List Char)}

theorem IsRow.piece_ne_nil (h : IsRow ps) {p : List Char} (hp : p ∈ ps) : p ≠ [] := by
  rintro rfl
  exact absurd (h.not_idle _ hp) (by decide)

theorem IsRow.splitOn (h : IsRow ps) : (List.intercalate ['/'] ps).splitOn '/' = ps := by
  rw [splitOn_intercalate_written h.noSlash, Pieces.written, if_neg h.ne_nil]

theorem IsRow.intercalate_ne_nil (h : IsRow ps) : List.intercalate ['/'] ps ≠ [] := by
  intro hnil
  have hsplit := h.splitOn
  rw [hnil, List.splitOn_nil] at hsplit
  exact h.piece_ne_nil (hsplit ▸ List.mem_singleton_self _) rfl

/-- A row of names does not begin with a dot for the current directory. -/
theorem IsRow.dropDotSlash_eq (h : IsRow ps) :
    dropDotSlash (List.intercalate ['/'] ps) = List.intercalate ['/'] ps := by
  rw [dropDotSlash]
  intro rest hdot
  have hsplit := h.splitOn
  rw [hdot, List.splitOn_cons_eq_if_modifyHead, if_neg (by decide), splitOn_slash,
    List.modifyHead_cons] at hsplit
  exact absurd (h.not_idle ['.'] (hsplit ▸ List.mem_cons_self)) (by decide)

/-- **A row of names keeps its form** if no blank stands at its ends and no backslash in it. -/
theorem IsRow.normalize_eq (h : IsRow ps)
    (htrim : Text.trimChars (List.intercalate ['/'] ps) = List.intercalate ['/'] ps)
    (hback : '\\' ∉ List.intercalate ['/'] ps) :
    normalize (List.intercalate ['/'] ps) = some (List.intercalate ['/'] ps) := by
  have hslashes : (List.intercalate ['/'] ps).map slash = List.intercalate ['/'] ps := by
    have hstay : ∀ c ∈ List.intercalate ['/'] ps, slash c = id c := by
      intro c hc
      refine if_neg ?_
      rintro rfl
      exact hback hc
    rw [List.map_congr_left hstay, List.map_id]
  rw [normalize, htrim, hslashes, h.dropDotSlash_eq]
  split
  · next hnil => exact absurd hnil h.intercalate_ne_nil
  · rfl

/-- **The directory of a row of names** is the row without its last name. -/
theorem IsRow.parent_eq (h : IsRow ps) :
    parent (List.intercalate ['/'] ps) =
      if ps.dropLast = [] then ['.'] else List.intercalate ['/'] ps.dropLast := by
  obtain rfl | ⟨front, last, rfl⟩ := List.eq_nil_or_concat ps
  · exact absurd rfl h.ne_nil
  rw [List.concat_eq_append] at h ⊢
  rw [List.dropLast_concat]
  have hlast : '/' ∉ last := h.noSlash last (by simp)
  by_cases hfront : front = []
  · subst hfront
    rw [if_pos rfl, List.nil_append, List.intercalate_singleton, parent,
      beforeLastSlash_of_notMem hlast]
  · have hrow : IsRow front := ⟨hfront, fun p hp => h.not_idle p (List.mem_append_left _ hp),
      fun p hp => h.noSlash p (List.mem_append_left _ hp)⟩
    rw [if_neg hfront, intercalate_append hfront (List.cons_ne_nil _ _),
      List.intercalate_singleton, parent, beforeLastSlash_append _ hlast]
    split
    · next hnone => exact absurd hnone nofun
    · next hnil => exact absurd (Option.some.inj hnil) hrow.intercalate_ne_nil
    · next hsome => exact (Option.some.inj hsome).symm

end FilePath

end LintVerdict
