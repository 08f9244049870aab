import LintVerdict.Ignore.Walk
import LintVerdict.Proofs.Files.Naming

/-!
# Walking through a tree

A walk takes the entries of a directory one by one. It passes over what is skipped, goes on in the
directories, and stops at the first one that it cannot read. So it meets what has nothing skipped on
its way, and it collects the files that it meets.

## Main definitions

* `Node.Meets`: what a walk meets, entry by entry.
* `Passes`: nothing on a way is skipped.
* `Collected`: what comes of a walk.

## Main results

* `Node.meets_iff`: what a walk meets, by what is on the way.
* `Node.filesBelow_collected`: a walk collects the files that it meets.
-/

namespace LintVerdict

variable {skip : Place → Bool → Bool} {unread? : Place → Option SystemError} {n m k : Node}
  {here below place rest : Place} {name : String} {entries : List (String × Node)}

namespace Node

/-- What a walk meets from a node at a place on: the node, and in a directory what it meets from
each entry on that is not skipped. -/
inductive Meets (skip : Place → Bool → Bool) : Place → Node → Place → Node → Prop
  | here {here : Place} {n : Node} : Meets skip here n here n
  | entry {here place : Place} {name : String} {k m : Node} {entries : List (String × Node)} :
      (name, k) ∈ entries → skip (here ++ [name]) k.isDir = false →
      Meets skip (here ++ [name]) k place m → Meets skip here (.dir entries) place m

/-- What is met is below the place where the walk begins. -/
theorem Meets.isPrefix (h : Meets skip here n place m) : here <+: place := by
  induction h with
  | here => exact List.prefix_rfl
  | entry _ _ _ ih => exact (List.prefix_append _ _).trans ih

/-- What is met from some entries of a directory on. -/
def MeetsIn (skip : Place → Bool → Bool) (here : Place) (entries : List (String × Node))
    (place : Place) (m : Node) : Prop :=
  ∃ e ∈ entries, skip (here ++ [e.1]) e.2.isDir = false ∧ Meets skip (here ++ [e.1]) e.2 place m

/-- What is no directory is met alone. -/
theorem meets_iff_of_isDir (h : n.isDir = false) :
    Meets skip here n place m ↔ place = here ∧ m = n := by
  constructor
  · intro hmeets
    cases hmeets with
    | here => exact ⟨rfl, rfl⟩
    | entry _ _ _ => cases h
  · rintro ⟨rfl, rfl⟩
    exact .here

theorem meets_dir_iff :
    Meets skip here (.dir entries) place m ↔
      place = here ∧ m = .dir entries ∨ MeetsIn skip here entries place m := by
  constructor
  · intro h
    cases h with
    | here => exact Or.inl ⟨rfl, rfl⟩
    | entry hmem hskip hmeets => exact Or.inr ⟨_, hmem, hskip, hmeets⟩
  · rintro (⟨rfl, rfl⟩ | ⟨e, hmem, hskip, hmeets⟩)
    · exact .here
    · exact .entry hmem hskip hmeets

theorem meetsIn_cons_iff {e : String × Node} :
    MeetsIn skip here (e :: entries) place m ↔
      skip (here ++ [e.1]) e.2.isDir = false ∧ Meets skip (here ++ [e.1]) e.2 place m ∨
        MeetsIn skip here entries place m := by
  simp [MeetsIn]

/-- The same place is not met from entries of two names. -/
theorem not_meetsIn_of_meets (hname : name ∉ entries.map Prod.fst)
    (h : Meets skip (here ++ [name]) k place m) {m' : Node} :
    ¬ MeetsIn skip here entries place m' := by
  rintro ⟨e, he, -, hmeets⟩
  have hprefix : here ++ [name] <+: place := h.isPrefix
  have hprefix' : here ++ [e.1] <+: place := hmeets.isPrefix
  have heq : here ++ [name] = here ++ [e.1] :=
    (List.prefix_of_prefix_length_le hprefix hprefix' (by simp)).eq_of_length (by simp)
  have hsame : name = e.1 := by simpa using heq
  exact hname (hsame ▸ List.mem_map_of_mem he)

end Node

/-! ### What is on the way -/

/-- Nothing is skipped on the way from a place to the end of some names, and neither is what is
there. All but the last are directories. -/
def Passes (skip : Place → Bool → Bool) (here below : Place) (isDir : Bool) : Prop :=
  ∀ way, way ≠ [] → way <+: below → skip (here ++ way) (way ≠ below || isDir) = false

/-- A way goes on behind its first name. -/
theorem passes_cons_iff {isDir : Bool} :
    Passes skip here (name :: rest) isDir ↔
      skip (here ++ [name]) (rest ≠ [] || isDir) = false ∧
        Passes skip (here ++ [name]) rest isDir := by
  constructor
  · intro h
    refine ⟨?_, fun way hne hway => ?_⟩
    · simpa using h [name] (List.cons_ne_nil _ _) (by simp)
    · simpa using h (name :: way) (List.cons_ne_nil _ _) (List.cons_prefix_cons.mpr ⟨rfl, hway⟩)
  · rintro ⟨hfirst, hrest⟩ way hne hway
    obtain ⟨other, way, rfl⟩ := List.exists_cons_of_ne_nil hne
    obtain ⟨rfl, hmore⟩ := List.cons_prefix_cons.mp hway
    by_cases hend : way = []
    · subst hend
      simpa using hfirst
    · simpa using hrest way hend hmore

namespace Node

/-- **What a walk meets** is what no skipped place is on the way to. -/
theorem meets_iff (hnamed : n.WellNamed) :
    Meets skip here n place m ↔
      ∃ below, place = here ++ below ∧ n.get? below = some m ∧ Passes skip here below m.isDir := by
  constructor
  · intro h
    induction h with
    | here => exact ⟨[], by simp, rfl, fun way hne hway => absurd (List.prefix_nil.mp hway) hne⟩
    | @entry here place name k m entries hmem hskip _ ih =>
        obtain ⟨rest, rfl, hget, hpasses⟩ := ih (hnamed.entry hmem)
        refine ⟨name :: rest, by simp, ?_, passes_cons_iff.mpr ⟨?_, hpasses⟩⟩
        · rw [get?_cons_of_mem hnamed.nodup_entries hmem, hget]
        · rwa [← isDir_of_get? hget]
  · rintro ⟨below, rfl, hget, hpasses⟩
    induction below generalizing here n with
    | nil =>
        obtain rfl : n = m := Option.some.inj hget
        rw [List.append_nil]
        exact .here
    | cons name rest ih =>
        cases n with
        | file content executable => cases hget
        | link target => cases hget
        | dir entries =>
            obtain ⟨k, hmem, hrest⟩ := exists_mem_of_get?_cons hget
            obtain ⟨hskip, hpasses⟩ := passes_cons_iff.mp hpasses
            rw [← isDir_of_get? hrest] at hskip
            have hmeets := ih (hnamed.entry hmem) hrest hpasses
            rw [List.append_assoc, List.singleton_append] at hmeets
            exact .entry hmem hskip hmeets

end Node

/-! ### The walk -/

/-- What comes of a walk that meets certain nodes: a directory that cannot be read, or all files,
each once. -/
inductive Collected (unread? : Place → Option SystemError) (Met : Place → Node → Prop) :
    Except (Place × SystemError) (List Place) → Prop
  | unread {place : Place} {entries : List (String × Node)} {e : SystemError} :
      Met place (.dir entries) → unread? place = some e → Collected unread? Met (.error (place, e))
  | read {places : List Place} :
      (∀ place entries, Met place (.dir entries) → unread? place = none) →
      (∀ place, place ∈ places ↔ ∃ content executable, Met place (.file content executable)) →
      places.Nodup → Collected unread? Met (.ok places)

namespace Collected

variable {Met Met' : Place → Node → Prop} {r : Except (Place × SystemError) (List Place)}

theorem congr (h : Collected unread? Met r) (hiff : ∀ place m, Met place m ↔ Met' place m) :
    Collected unread? Met' r := by
  have heq : Met = Met' := funext fun place => funext fun m => propext (hiff place m)
  exact heq ▸ h

/-- Nodes that are met besides, none of them a file and none a directory that cannot be read, do
not matter. -/
theorem besides (Met' : Place → Node → Prop) (h : Collected unread? Met r)
    (hdir : ∀ place entries, Met' place (.dir entries) → unread? place = none)
    (hfile : ∀ place content executable, ¬ Met' place (.file content executable)) :
    Collected unread? (fun place m => Met' place m ∨ Met place m) r := by
  cases h with
  | unread hmet he => exact .unread (Or.inr hmet) he
  | read hread hmem hnodup =>
      refine .read (fun place entries hmet => ?_) (fun place => ?_) hnodup
      · exact hmet.elim (hdir place entries) (hread place entries)
      · simp [hmem, hfile]

/-- One walk after another, which meet different places. -/
theorem append {found : List Place} (h : Collected unread? Met (.ok found))
    (h' : Collected unread? Met' r) (hdisjoint : ∀ place m m', Met place m → ¬ Met' place m') :
    Collected unread? (fun place m => Met place m ∨ Met' place m) (r.map (found ++ ·)) := by
  obtain _ | ⟨hread, hmem, hnodup⟩ := h
  cases h' with
  | unread hmet he => exact .unread (Or.inr hmet) he
  | @read more hread' hmem' hnodup' =>
      refine .read (fun place entries hmet => ?_) (fun place => ?_) ?_
      · exact hmet.elim (hread place entries) (hread' place entries)
      · simp [List.mem_append, hmem, hmem', exists_or]
      · refine List.nodup_append.mpr ⟨hnodup, hnodup', fun place hplace other hother heq => ?_⟩
        obtain ⟨content, executable, hmet⟩ := (hmem place).mp hplace
        obtain ⟨content', executable', hmet'⟩ := (hmem' other).mp hother
        exact hdisjoint place _ _ hmet (heq ▸ hmet')

end Collected

namespace Node

mutual

/-- **A walk from a node** collects the files that it meets. -/
theorem filesBelow_collected (skip : Place → Bool → Bool) (unread? : Place → Option SystemError)
    (here : Place) (n : Node) (hnamed : n.WellNamed) :
    Collected unread? (Meets skip here n) (n.filesBelow skip unread? here) := by
  match n, hnamed with
  | .file content executable, _ =>
    rw [filesBelow]
    refine .read (fun place entries h => ?_) (fun place => ?_) (List.pairwise_singleton _ here)
    · cases h
    · simp [meets_iff_of_isDir (show isDir (file content executable) = false from rfl)]
  | .link target, _ =>
    rw [filesBelow]
    refine .read (fun place entries h => ?_) (fun place => ?_) List.nodup_nil
    · cases h
    · simp [meets_iff_of_isDir (show isDir (link target) = false from rfl)]
  | .dir entries, hnamed =>
    rw [filesBelow]
    cases hunread : unread? here with
    | some e => exact .unread .here hunread
    | none =>
        have hentries := entriesBelow_collected skip unread? here entries hnamed.nodup_entries
          fun e he => hnamed.entry he
        refine (hentries.besides (fun place m => place = here ∧ m = .dir entries) ?_ ?_).congr
          fun place m => meets_dir_iff.symm
        · rintro place below ⟨rfl, -⟩
          exact hunread
        · rintro place content executable ⟨-, hm⟩
          cases hm

/-- A walk through the entries of a directory collects the files that it meets. -/
theorem entriesBelow_collected (skip : Place → Bool → Bool) (unread? : Place → Option SystemError)
    (here : Place) (entries : List (String × Node)) (hnodup : (entries.map Prod.fst).Nodup)
    (hnamed : ∀ e ∈ entries, e.2.WellNamed) :
    Collected unread? (MeetsIn skip here entries) (entriesBelow skip unread? here entries) := by
  match entries, hnodup, hnamed with
  | [], _, _ =>
    rw [entriesBelow]
    refine .read (fun place below h => ?_) (fun place => ?_) List.nodup_nil
    · obtain ⟨e, he, -⟩ := h
      cases he
    · simp [MeetsIn]
  | (name, n) :: rest, hnodup, hnamed =>
    rw [List.map_cons, List.nodup_cons] at hnodup
    rw [List.forall_mem_cons] at hnamed
    have hrest := entriesBelow_collected skip unread? here rest hnodup.2 hnamed.2
    rw [entriesBelow]
    split
    · next hskip =>
      exact hrest.congr fun place m => by simp [meetsIn_cons_iff, hskip]
    · next hskip =>
      have hfirst := filesBelow_collected skip unread? (here ++ [name]) n hnamed.1
      have hcons (place : Place) (m : Node) :
          Meets skip (here ++ [name]) n place m ∨ MeetsIn skip here rest place m ↔
            MeetsIn skip here ((name, n) :: rest) place m := by
        simp [meetsIn_cons_iff, hskip]
      split
      · next e hfound =>
        rw [hfound] at hfirst
        cases hfirst with
        | unread hmet he => exact .unread ((hcons _ _).mp (Or.inl hmet)) he
      · next found hfound =>
        rw [hfound] at hfirst
        exact (hfirst.append hrest fun place m m' h => not_meetsIn_of_meets hnodup.1 h).congr hcons

end

/-- What is at the end of some names below a node is reached: neither it nor a directory on the way
is skipped. -/
def Reaches (skip : Place → Bool → Bool) (n : Node) (below : Place) (m : Node) : Prop :=
  n.get? below = some m ∧ Passes skip [] below m.isDir

theorem meets_iff_reaches (hnamed : n.WellNamed) :
    Meets skip [] n below m ↔ n.Reaches skip below m := by
  rw [meets_iff hnamed]
  constructor
  · rintro ⟨_, rfl, h⟩
    exact h
  · exact fun h => ⟨below, rfl, h⟩

end Node

end LintVerdict
