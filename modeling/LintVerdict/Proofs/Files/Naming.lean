import LintVerdict.Proofs.Files.Walk
import LintVerdict.Proofs.FirstError

/-!
# The names in a tree

In a directory, each name stands for one thing, and no name is empty or has a slash in it. Then a
path to something in the tree can be told from its names, and the names from the path.

## Main definitions

* `Node.WellNamed`: a tree in which the names of a directory are distinct and have no slash.
* `Node.FullyNamed`: one in which no name is empty, either.

## Main results

* `Node.WellNamed.of_get?`, `Node.FullyNamed.of_get?`: what is in a tree is named as the tree is.
* `Node.FullyNamed.names`: the names on the way to what is in a tree.
-/

namespace LintVerdict.Node

variable {n m k : Node} {here below rest : Place} {name : String} {entries : List (String × Node)}

/-! ### Entries -/

/-- Behind a name stands what is behind it in the entry of that name. -/
theorem get?_cons_of_mem (hnodup : (entries.map Prod.fst).Nodup) (hmem : (name, k) ∈ entries)
    (rest : Place) : (dir entries).get? (name :: rest) = k.get? rest := by
  have hentry : Node.entry? (dir entries) name = some k :=
    congrArg (Option.map Prod.snd) (find?_of_nodup_keys hnodup hmem)
  rw [get?, hentry, Option.bind_some]

theorem exists_mem_of_get?_cons (h : (dir entries).get? (name :: rest) = some m) :
    ∃ k, (name, k) ∈ entries ∧ k.get? rest = some m := by
  rw [get?] at h
  obtain ⟨k, hk, hrest⟩ := Option.bind_eq_some_iff.mp h
  obtain ⟨e, he, rfl⟩ := Option.map_eq_some_iff.mp hk
  have hname : e.1 = name := by simpa using List.find?_some he
  exact ⟨e.2, hname ▸ List.mem_of_find?_eq_some he, hrest⟩

/-- Only a directory has anything behind it. -/
theorem isDir_of_get? (h : n.get? below = some m) : n.isDir = (decide (below ≠ []) || m.isDir) := by
  cases below with
  | nil =>
      obtain rfl : n = m := Option.some.inj h
      simp
  | cons name rest =>
      cases n with
      | dir entries => simp [isDir]
      | file content executable => cases h
      | link target => cases h

/-! ### Distinct names -/

/-- A tree in which the names of each directory are distinct and have no slash in them. -/
structure WellNamed (n : Node) : Prop where
  nodup : ∀ {place entries}, n.get? place = some (.dir entries) → (entries.map Prod.fst).Nodup
  noSlash : ∀ {place entries}, n.get? place = some (.dir entries) →
    ∀ name ∈ entries.map Prod.fst, '/' ∉ name.toList

/-- A node without entries has no names. -/
theorem wellNamed_of_isDir (h : n.isDir = false) : n.WellNamed := by
  have hnone {place : Place} {entries : List (String × Node)} :
      n.get? place ≠ some (.dir entries) := fun hdir => by
    rw [isDir_of_get? hdir, Bool.or_eq_false_iff] at h
    cases h.2
  exact ⟨fun hdir => absurd hdir hnone, fun hdir => absurd hdir hnone⟩

/-- A directory in a directory is the one itself, or it is in one of the entries. -/
theorem exists_mem_of_get?_dir {place : Place} {below : List (String × Node)}
    (h : (dir entries).get? place = some (.dir below)) :
    below = entries ∨ ∃ e ∈ entries, ∃ rest, e.2.get? rest = some (.dir below) := by
  cases place with
  | nil => exact Or.inl (dir.inj (Option.some.inj h)).symm
  | cons name rest =>
      obtain ⟨k, hmem, hrest⟩ := exists_mem_of_get?_cons h
      exact Or.inr ⟨_, hmem, rest, hrest⟩

/-- A directory is well named if its own names are fine and its entries are well named. -/
theorem wellNamed_dir (hnodup : (entries.map Prod.fst).Nodup)
    (hslash : ∀ name ∈ entries.map Prod.fst, '/' ∉ name.toList)
    (hentries : ∀ e ∈ entries, e.2.WellNamed) : (dir entries).WellNamed := by
  constructor <;> intro place below h
  · obtain rfl | ⟨e, he, rest, hrest⟩ := exists_mem_of_get?_dir h
    · exact hnodup
    · exact (hentries e he).nodup hrest
  · obtain rfl | ⟨e, he, rest, hrest⟩ := exists_mem_of_get?_dir h
    · exact hslash
    · exact (hentries e he).noSlash hrest

namespace WellNamed

/-- What is in a well named tree is well named. -/
theorem of_get? (h : n.WellNamed) (hget : n.get? here = some m) : m.WellNamed := by
  have hbelow (place : Place) : n.get? (here ++ place) = m.get? place := by
    rw [get?_append, hget, Option.bind_some]
  constructor <;> intro place entries hdir
  · exact h.nodup ((hbelow place).trans hdir)
  · exact h.noSlash ((hbelow place).trans hdir)

theorem nodup_entries (h : (dir entries).WellNamed) : (entries.map Prod.fst).Nodup :=
  h.nodup (show (dir entries).get? [] = some (dir entries) from rfl)

theorem entry (h : (dir entries).WellNamed) (hmem : (name, k) ∈ entries) : k.WellNamed :=
  h.of_get? (get?_cons_of_mem h.nodup_entries hmem [])

end WellNamed

/-! ### Names that are not empty -/

/-- A well named tree in which no name is empty. -/
structure FullyNamed (n : Node) : Prop extends WellNamed n where
  nonempty : ∀ {place entries}, n.get? place = some (.dir entries) → "" ∉ entries.map Prod.fst

/-- A node without entries has no names, and so no empty one. -/
theorem fullyNamed_of_isDir (h : n.isDir = false) : n.FullyNamed where
  toWellNamed := wellNamed_of_isDir h
  nonempty := fun hdir => by
    rw [isDir_of_get? hdir, Bool.or_eq_false_iff] at h
    cases h.2

/-- A directory is fully named if its own names are fine and its entries are fully named. -/
theorem fullyNamed_dir (hnodup : (entries.map Prod.fst).Nodup)
    (hnames : ∀ name ∈ entries.map Prod.fst, name ≠ "" ∧ '/' ∉ name.toList)
    (hentries : ∀ e ∈ entries, e.2.FullyNamed) : (dir entries).FullyNamed where
  toWellNamed := wellNamed_dir hnodup (fun name hname => (hnames name hname).2)
    fun e he => (hentries e he).toWellNamed
  nonempty := fun h hempty => by
    obtain rfl | ⟨e, he, rest, hrest⟩ := exists_mem_of_get?_dir h
    · exact (hnames _ hempty).1 rfl
    · exact (hentries e he).nonempty hrest hempty

namespace FullyNamed

/-- What is in a fully named tree is fully named. -/
theorem of_get? (h : n.FullyNamed) (hget : n.get? here = some m) : m.FullyNamed where
  toWellNamed := h.toWellNamed.of_get? hget
  nonempty := fun {place entries} hdir => by
    have hbelow : n.get? (here ++ place) = some (dir entries) := by
      rw [get?_append, hget, Option.bind_some, hdir]
    exact h.nonempty hbelow

/-- The names on the way to what is in a tree are not empty and have no slash. -/
theorem names (h : n.FullyNamed) (hget : n.get? below = some m) :
    ∀ name ∈ below, name ≠ "" ∧ '/' ∉ name.toList := by
  intro name hname
  obtain ⟨front, back, rfl⟩ := List.append_of_mem hname
  rw [get?_append] at hget
  obtain ⟨k, hfront, hback⟩ := Option.bind_eq_some_iff.mp hget
  cases k with
  | file content executable => cases hback
  | link target => cases hback
  | dir entries =>
      obtain ⟨l, hmem, -⟩ := exists_mem_of_get?_cons hback
      have hname : name ∈ entries.map Prod.fst := List.mem_map_of_mem hmem
      exact ⟨fun hempty => h.nonempty hfront (hempty ▸ hname), h.noSlash hfront name hname⟩

end FullyNamed

end LintVerdict.Node
