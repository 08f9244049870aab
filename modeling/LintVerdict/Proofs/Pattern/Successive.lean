import LintVerdict.Proofs.Pattern.Preferred

/-!
# The successive matches of a text

The matches of a text are taken one after the other: each is the first one on offer from where the
match before it ended. An empty match right there is not on offer, so that every match but the
first ends behind the one before it, and there is at most one match more than there are characters.
The file says this of every expression, those with empty matches included.

## Main definitions

* `Regex.offered?`: the match at a place, unless it is empty where the match before ended.
* `Successive`: the matches that follow each other from a place on.

## Main results

* `Successive.unique`: there is one list of successive matches.
* `Successive.length_le`, `Successive.pairwise`: how many there are, and that none overlap.
* `FirstOffered.ways_eq_nil`: the places that are passed over have no match.
* `Program.successive_allMatches`: the program finds the successive matches.
-/

namespace LintVerdict.Pattern

variable {r : Regex} {text : Array Char} {start i : Nat} {last : Option Nat} {m : Match}
  {ms ms' : List Match}

/-- The match on offer at a place: the preferred one, unless it is empty and the match before it
ended right there. -/
def Regex.offered? (r : Regex) (text : Array Char) (last : Option Nat) (i : Nat) : Option Match :=
  (r.preferred? text i).filter fun m => !decide (m.span.1 = m.span.2 ∧ some m.span.2 = last)

/-- The first match on offer from a place on. -/
structure FirstOffered (r : Regex) (text : Array Char) (start : Nat) (last : Option Nat)
    (m : Match) (i : Nat) : Prop where
  /-- Its place is not before the one where the search begins. -/
  le : start ≤ i
  /-- It is on offer. -/
  offered : r.offered? text last i = some m
  /-- None is on offer before it. -/
  first : ∀ j, start ≤ j → j < i → r.offered? text last j = none

/-- The matches that follow each other from a place on, after a match that ended at `last`. -/
inductive Successive (r : Regex) (text : Array Char) : Nat → Option Nat → List Match → Prop
  /-- No match is on offer any more. -/
  | done {start : Nat} {last : Option Nat} :
      (∀ i, start ≤ i → r.offered? text last i = none) → Successive r text start last []
  /-- The first match on offer, and those that follow it from its end. -/
  | next {start i : Nat} {last : Option Nat} {m : Match} {ms : List Match} :
      FirstOffered r text start last m i →
      Successive r text m.span.2 (some m.span.2) ms → Successive r text start last (m :: ms)

/-! ### What is on offer -/

theorem Regex.preferred?_of_offered? (h : r.offered? text last i = some m) :
    r.preferred? text i = some m ∧ ¬ (m.span.1 = m.span.2 ∧ some m.span.2 = last) := by
  rw [offered?, Option.filter_eq_some_iff, Bool.not_eq_true', decide_eq_false_iff_not] at h
  exact h

/-- The first match on offer lies in the text, and ends behind the place where the search begins if
the match before it ended there. -/
theorem FirstOffered.span (h0 : 0 ∉ r.groups) (h : FirstOffered r text start last m i) :
    start ≤ m.span.1 ∧ m.span.1 ≤ m.span.2 ∧ m.span.2 ≤ text.size ∧
      (last = some start → start < m.span.2) := by
  obtain ⟨hpreferred, hempty⟩ := Regex.preferred?_of_offered? h.offered
  obtain ⟨hbegin, hle, hsize⟩ := Regex.span_le_of_preferred? h0 hpreferred
  have hstart := h.le
  refine ⟨by omega, by omega, hsize, ?_⟩
  rintro rfl
  by_contra hge
  have hend : m.span.2 = start := by omega
  exact hempty ⟨by omega, congrArg some hend⟩

/-- The first match on offer is the only one. -/
theorem FirstOffered.unique {m' : Match} {i' : Nat} (h : FirstOffered r text start last m i)
    (h' : FirstOffered r text start last m' i') : m = m' := by
  obtain hlt | rfl | hgt := Nat.lt_trichotomy i i'
  · exact absurd ((h'.first i h.le hlt).symm.trans h.offered) (by simp)
  · exact Option.some.inj (h.offered.symm.trans h'.offered)
  · exact absurd ((h.first i' h'.le hgt).symm.trans h'.offered) (by simp)

/-- **The places that are passed over have no match**, but for an empty one where the match before
ended. -/
theorem FirstOffered.ways_eq_nil {j : Nat} (h0 : 0 ∉ r.groups)
    (h : FirstOffered r text start last m i) (hj : start ≤ j) (hlt : j < i) :
    r.ways text j = [] ∨ last = some j := by
  have hnone := h.first j hj hlt
  have hsize := (Regex.exists_way_of_preferred? (Regex.preferred?_of_offered? h.offered).1).1
  rw [Regex.offered?, Option.filter_eq_none_iff] at hnone
  by_contra hboth
  rw [not_or] at hboth
  have hsome := Regex.isSome_preferred?_iff.mpr ⟨by omega, hboth.1⟩
  obtain ⟨m', hm'⟩ := Option.isSome_iff_exists.mp hsome
  have hspan := Regex.span_le_of_preferred? h0 hm'
  refine hnone m' hm' ?_
  rw [Bool.not_eq_true', decide_eq_false_iff_not]
  rintro ⟨hempty, hlast⟩
  exact hboth.2 (by rw [← hlast, ← hempty, hspan.1])

namespace Successive

/-- **There is one list of successive matches.** -/
theorem unique (h : Successive r text start last ms) (h' : Successive r text start last ms') :
    ms = ms' := by
  induction h generalizing ms' with
  | done hnone =>
      cases h' with
      | done => rfl
      | next hfirst => exact absurd ((hnone _ hfirst.le).symm.trans hfirst.offered) (by simp)
  | next hfirst _ ih =>
      cases h' with
      | done hnone => exact absurd ((hnone _ hfirst.le).symm.trans hfirst.offered) (by simp)
      | next hfirst' h' =>
          obtain rfl := hfirst.unique hfirst'
          exact congrArg _ (ih h')

/-- Behind a match, each further one takes at least one place of the text. -/
theorem length_le_of_some (h0 : 0 ∉ r.groups) (h : Successive r text start (some start) ms) :
    ms.length ≤ text.size - start := by
  generalize hlast : some start = last at h
  induction h with
  | done => exact Nat.zero_le _
  | next hfirst _ ih =>
      obtain ⟨_, _, hsize, hlt⟩ := hfirst.span h0
      have hlt := hlt hlast.symm
      have hlen := ih rfl
      rw [List.length_cons]
      omega

/-- **There is at most one match more than there are characters.** -/
theorem length_le (h0 : 0 ∉ r.groups) (h : Successive r text 0 none ms) :
    ms.length ≤ text.size + 1 := by
  cases h with
  | done => exact Nat.zero_le _
  | next hfirst h =>
      have hlen := h.length_le_of_some h0
      rw [List.length_cons]
      omega

/-- No match begins before the place where the search does, and behind a match each further one
ends later. -/
theorem forall_le (h0 : 0 ∉ r.groups) (h : Successive r text start last ms) :
    ∀ m ∈ ms, start ≤ m.span.1 ∧ (last = some start → start < m.span.2) := by
  induction h with
  | done => exact List.forall_mem_nil _
  | @next start i last m ms hfirst _ ih =>
      obtain ⟨hbegin, hle, _, hlt⟩ := hfirst.span h0
      refine List.forall_mem_cons.mpr ⟨⟨hbegin, hlt⟩, ?_⟩
      intro m' hm'
      obtain ⟨hbegin', hend'⟩ := ih m' hm'
      have hlt' := hend' rfl
      exact ⟨by omega, fun _ => by omega⟩

/-- **No two matches overlap**: each ends where the next one begins or before that, and ends before
the next one does. -/
theorem pairwise (h0 : 0 ∉ r.groups) (h : Successive r text start last ms) :
    ms.Pairwise fun m m' => m.span.2 ≤ m'.span.1 ∧ m.span.2 < m'.span.2 := by
  induction h with
  | done => exact .nil
  | next _ hms ih =>
      exact .cons (fun m' hm' => (hms.forall_le h0 m' hm').imp_right fun h => h rfl) ih

/-- Each match is the preferred one where it begins. -/
theorem preferred?_eq (h0 : 0 ∉ r.groups) (h : Successive r text start last ms) (hm : m ∈ ms) :
    r.preferred? text m.span.1 = some m := by
  induction h with
  | done => exact absurd hm List.not_mem_nil
  | next hfirst _ ih =>
      obtain rfl | hm := List.mem_cons.mp hm
      · have hpreferred := (Regex.preferred?_of_offered? hfirst.offered).1
        rw [(Regex.span_le_of_preferred? h0 hpreferred).1]
        exact hpreferred
      · exact ih hm

end Successive

/-! ### What the program finds -/

namespace Program

/-- A search that finds nothing has tried every place. -/
theorem preferred?_eq_none_of_matchFrom? (h : (ofRegex r).matchFrom? text start = none)
    (hi : start ≤ i) : r.preferred? text i = none := by
  obtain ⟨n, rfl⟩ := Nat.exists_eq_add_of_le hi
  induction n generalizing start with
  | zero =>
      rw [matchFrom?_eq_or, Option.or_eq_none_iff] at h
      exact h.1
  | succ n ih =>
      rw [matchFrom?_eq_or, Option.or_eq_none_iff] at h
      have hnext := ih h.2 (Nat.le_add_right _ _)
      rwa [Nat.add_right_comm] at hnext

/-- A search finds the preferred match of the first place that has one. -/
theorem exists_first_of_matchFrom? (h : (ofRegex r).matchFrom? text start = some m) :
    ∃ i, start ≤ i ∧ r.preferred? text i = some m ∧
      ∀ j, start ≤ j → j < i → r.preferred? text j = none := by
  induction hk : text.size + 1 - start using Nat.strong_induction_on generalizing start with
  | _ k ih =>
      rcases Nat.lt_or_ge text.size start with hlt | hle
      · simp [matchFrom?_of_lt hlt] at h
      rw [matchFrom?_eq_or, Option.or_eq_some_iff] at h
      obtain h | ⟨hnone, h⟩ := h
      · exact ⟨start, Nat.le_refl start, h, fun j hj hlt => absurd hj (Nat.not_le.mpr hlt)⟩
      · obtain ⟨i, hi, hm, hfirst⟩ := ih _ (by omega) h rfl
        refine ⟨i, by omega, hm, fun j hj hlt => ?_⟩
        obtain rfl | hlt' := Nat.eq_or_lt_of_le hj
        · exact hnone
        · exact hfirst j hlt' hlt

/-- What was not preferred is not on offer. -/
theorem offered?_eq_none (h : r.preferred? text i = none) : r.offered? text last i = none := by
  rw [Regex.offered?, h, Option.filter_none]

/-- **A round of the search** ends it, or finds the first match on offer. Where the match found
first is empty at the end of the one before, it stands where the search begins, and the search
begins anew behind it. -/
theorem matchesFrom_succ_cases (h0 : 0 ∉ r.groups) (text : Array Char)
    (hlast : ∀ l ∈ last, l = start) (b : Nat) :
    ((ofRegex r).matchesFrom text (b + 1) start last = [] ∧
        ∀ i, start ≤ i → r.offered? text last i = none) ∨
      ∃ m i, FirstOffered r text start last m i ∧
        (ofRegex r).matchesFrom text (b + 1) start last =
          m :: (ofRegex r).matchesFrom text b m.span.2 (some m.span.2) := by
  rw [matchesFrom]
  cases hm : (ofRegex r).matchFrom? text start with
  | none =>
      exact Or.inl ⟨rfl, fun i hi => offered?_eq_none (preferred?_eq_none_of_matchFrom? hm hi)⟩
  | some m =>
      obtain ⟨i, hi, hpreferred, hfirst⟩ := exists_first_of_matchFrom? hm
      have hspan := Regex.span_le_of_preferred? h0 hpreferred
      dsimp only
      by_cases hempty : m.span.1 = m.span.2 ∧ some m.span.2 = last
      · have hend : m.span.2 = start := hlast _ (Option.mem_def.mpr hempty.2.symm)
        obtain rfl : i = start := by omega
        have hhere : r.offered? text last i = none := by
          rw [Regex.offered?, hpreferred, Option.filter_some, decide_eq_true hempty]
          rfl
        rw [if_pos hempty]
        cases hagain : (ofRegex r).matchFrom? text (i + 1) with
        | none =>
            refine Or.inl ⟨rfl, fun j hj => ?_⟩
            obtain rfl | hlt := Nat.eq_or_lt_of_le hj
            · exact hhere
            · exact offered?_eq_none (preferred?_eq_none_of_matchFrom? hagain hlt)
        | some m' =>
            obtain ⟨i', hi', hpreferred', hfirst'⟩ := exists_first_of_matchFrom? hagain
            have hspan' := Regex.span_le_of_preferred? h0 hpreferred'
            refine Or.inr ⟨m', i', ⟨Nat.le_of_succ_le hi', ?_, fun j hj hlt => ?_⟩, rfl⟩
            · have hkeep : ¬ (m'.span.1 = m'.span.2 ∧ some m'.span.2 = last) := by
                rintro ⟨-, heq⟩
                have hend' := hlast _ (Option.mem_def.mpr heq.symm)
                omega
              rw [Regex.offered?, hpreferred', Option.filter_some, decide_eq_false hkeep]
              rfl
            · obtain rfl | hlt' := Nat.eq_or_lt_of_le hj
              · exact hhere
              · exact offered?_eq_none (hfirst' j hlt' hlt)
      · rw [if_neg hempty]
        refine Or.inr ⟨m, i, ⟨hi, ?_, fun j hj hlt => offered?_eq_none (hfirst j hj hlt)⟩, rfl⟩
        rw [Regex.offered?, hpreferred, Option.filter_some, decide_eq_false hempty]
        rfl

/-- Behind a match, a budget of one round for each further place suffices. -/
theorem successive_of_some (h0 : 0 ∉ r.groups) {b : Nat} (hb : text.size < b + start) :
    Successive r text start (some start)
      ((ofRegex r).matchesFrom text b start (some start)) := by
  induction b generalizing start with
  | zero =>
      refine .done fun i hi => ?_
      exact offered?_eq_none (Regex.preferred?_of_lt (by omega))
  | succ b ih =>
      have hlast : ∀ l ∈ some start, l = start := fun l hl => (Option.some.inj hl).symm
      obtain ⟨hnil, hnone⟩ | ⟨m, i, hfirst, hcons⟩ := matchesFrom_succ_cases h0 text hlast b
      · rw [hnil]
        exact .done hnone
      · obtain ⟨_, _, _, hlt⟩ := hfirst.span h0
        have hlt := hlt rfl
        rw [hcons]
        exact .next hfirst (ih (by omega))

/-- **The program finds the successive matches**, and its budget suffices for all of them. -/
theorem successive_allMatches (h0 : 0 ∉ r.groups) (text : Array Char) :
    Successive r text 0 none ((ofRegex r).allMatches text) := by
  rw [allMatches]
  have hlast : ∀ l ∈ (none : Option Nat), l = 0 := fun l hl => absurd hl (by simp)
  obtain ⟨hnil, hnone⟩ | ⟨m, i, hfirst, hcons⟩ :=
    matchesFrom_succ_cases h0 text hlast (2 * text.size + 2)
  · rw [hnil]
    exact .done hnone
  · rw [hcons]
    exact .next hfirst (successive_of_some h0 (by omega))

end Program

end LintVerdict.Pattern
