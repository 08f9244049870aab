import LintVerdict.Proofs.Pattern.Findings
import LintVerdict.Proofs.Pattern.Matches
import LintVerdict.Proofs.Text

/-!
# Characters that a group never takes

An expression whose sets lack a character never takes it. The places that a match notes for a
group are those of one pass through the group, so a group whose sets lack a character never
holds it, whatever stands around the group and whatever is matched.

## Main definitions

* `Regex.avoids`: none of the sets in an expression holds a character.
* `Regex.avoidsIn`: none of the sets in a group holds a character.
* `KeepsOut`: noted places have no such character between those of a group.

## Main results

* `Regex.ne_of_mem_ways`: what an expression never takes.
* `Regex.keepsOut_of_mem_ways`: what a group never takes.
* `OutputPattern.notMem_path`: what the path of a finding never holds.
-/

namespace LintVerdict

namespace Pattern

variable {text : Array Char} {c : Char} {n i j : Nat} {w : Way}

namespace Regex

/-- Whether none of the sets in an expression holds a character. -/
def avoids (c : Char) : Regex → Bool
  | empty => true
  | chars s => !s.has c
  | look _ => true
  | cat a b => a.avoids c && b.avoids c
  | alt a b => a.avoids c && b.avoids c
  | plus _ a => a.avoids c
  | group _ a => a.avoids c

/-- Whether none of the sets in a group holds a character. The group must not stand inside
itself. -/
def avoidsIn (n : Nat) (c : Char) : Regex → Bool
  | empty => true
  | chars _ => true
  | look _ => true
  | cat a b => a.avoidsIn n c && b.avoidsIn n c
  | alt a b => a.avoidsIn n c && b.avoidsIn n c
  | plus _ a => a.avoidsIn n c
  | group i a => if i = n then a.avoids c && !a.groups.contains n else a.avoidsIn n c

/-- **An expression never takes a character** that its sets lack. -/
theorem ne_of_mem_ways {r : Regex} (hr : r.avoids c = true) (h : w ∈ r.ways text i)
    (hi : i ≤ j) (hj : j < w.stop) : text[j]? ≠ some c := by
  induction r generalizing i w with
  | empty =>
      rw [List.mem_singleton.mp h] at hj
      exact absurd hj (Nat.not_lt.mpr hi)
  | chars s =>
      rw [ways] at h
      split at h
      · next d hd =>
        split at h
        · next hs =>
          rw [List.mem_singleton.mp h] at hj
          obtain rfl : j = i := Nat.le_antisymm (Nat.le_of_lt_succ hj) hi
          rw [hd]
          rintro ⟨rfl⟩
          rw [avoids, hs] at hr
          exact absurd hr (by decide)
        · simp at h
      · simp at h
  | look l =>
      rw [ways] at h
      split at h
      · rw [List.mem_singleton.mp h] at hj
        exact absurd hj (Nat.not_lt.mpr hi)
      · simp at h
  | cat a b iha ihb =>
      rw [avoids, Bool.and_eq_true] at hr
      rw [ways, List.mem_flatMap] at h
      obtain ⟨v, hv, hw⟩ := h
      obtain ⟨u, hu, rfl⟩ := List.mem_map.mp hw
      rcases Nat.lt_or_ge j v.stop with hlt | hge
      · exact iha hr.1 hv hi hlt
      · exact ihb hr.2 hu hge hj
  | alt a b iha ihb =>
      rw [avoids, Bool.and_eq_true] at hr
      rw [ways, List.mem_append] at h
      obtain h | h := h
      · exact iha hr.1 h hi hj
      · exact ihb hr.2 h hi hj
  | plus greedy a iha =>
      rw [ways] at h
      refine loopWays_induction (P := fun i w => i ≤ j → j < w.stop → text[j]? ≠ some c)
        (fun hw hi hj => iha hr hw hi hj) ?_ h hi hj
      intro i w v hw _ _ hv hi hj
      rcases Nat.lt_or_ge j w.stop with hlt | hge
      · exact iha hr hw hi hlt
      · exact hv hge hj
  | group m a iha =>
      rw [ways, List.mem_map] at h
      obtain ⟨v, hv, rfl⟩ := h
      exact iha hr hv hi hj

end Regex

/-! ### Noted places -/

/-- Noted places keep a character out of a group: either none is the group's, or the latest ones
of the group have no such character between them. -/
def KeepsOut (text : Array Char) (n : Nat) (c : Char) (saves : List (Nat × Nat)) : Prop :=
  (∀ s ∈ saves, s.1 / 2 ≠ n) ∨ ∃ first last, (Match.mk saves).group? n = some (first, last) ∧
    ∀ j, first ≤ j → j < last → text[j]? ≠ some c

theorem Match.group?_eq_some_iff {m : Match} {first last : Nat} :
    m.group? n = some (first, last) ↔
      m.place? (2 * n) = some first ∧ m.place? (2 * n + 1) = some last := by
  rw [group?]
  cases m.place? (2 * n) <;> cases m.place? (2 * n + 1) <;> simp

/-- Places before others win. -/
theorem Match.place?_append (xs ys : List (Nat × Nat)) (slot : Nat) :
    (Match.mk (xs ++ ys)).place? slot =
      ((Match.mk xs).place? slot).or ((Match.mk ys).place? slot) := by
  simp only [place?, List.find?_append, Option.map_or]

theorem Match.place?_eq_none {saves : List (Nat × Nat)} (h : ∀ s ∈ saves, s.1 / 2 ≠ n)
    {slot : Nat} (hslot : slot / 2 = n) : (Match.mk saves).place? slot = none := by
  rw [place?, Option.map_eq_none_iff, List.find?_eq_none]
  intro s hs hsame
  rw [← of_decide_eq_true hsame] at hslot
  exact h s hs hslot

theorem KeepsOut.append {xs ys : List (Nat × Nat)} (hx : KeepsOut text n c xs)
    (hy : KeepsOut text n c ys) : KeepsOut text n c (xs ++ ys) := by
  obtain hx | ⟨first, last, hgroup, hchars⟩ := hx
  · have hfirst : 2 * n / 2 = n := Nat.mul_div_cancel_left n Nat.two_pos
    have hlast : (2 * n + 1) / 2 = n := by omega
    have hskip : (Match.mk (xs ++ ys)).group? n = (Match.mk ys).group? n := by
      simp only [Match.group?, Match.place?_append, Match.place?_eq_none hx
        hfirst, Match.place?_eq_none hx hlast, Option.none_or]
    obtain hy | ⟨first, last, hgroup, hchars⟩ := hy
    · exact Or.inl fun s hs => (List.mem_append.mp hs).elim (hx s) (hy s)
    · exact Or.inr ⟨first, last, hskip.trans hgroup, hchars⟩
  · obtain ⟨hfirst, hlast⟩ := Match.group?_eq_some_iff.mp hgroup
    refine Or.inr ⟨first, last, Match.group?_eq_some_iff.mpr ?_, hchars⟩
    rw [Match.place?_append, Match.place?_append, hfirst, hlast]
    exact ⟨rfl, rfl⟩

/-- The places of another group change nothing. -/
theorem KeepsOut.single {slot : Nat} (h : slot / 2 ≠ n) : KeepsOut text n c [(slot, i)] :=
  Or.inl fun s hs => by rwa [List.mem_singleton.mp hs]

/-- **A group never takes a character** that its sets lack. -/
theorem Regex.keepsOut_of_mem_ways {r : Regex} (hr : r.avoidsIn n c = true)
    (h : w ∈ r.ways text i) : KeepsOut text n c w.saves := by
  induction r generalizing i w with
  | empty =>
      rw [List.mem_singleton.mp h]
      exact Or.inl (List.forall_mem_nil _)
  | chars s =>
      rw [ways] at h
      split at h
      · split at h
        · rw [List.mem_singleton.mp h]
          exact Or.inl (List.forall_mem_nil _)
        · simp at h
      · simp at h
  | look l =>
      rw [ways] at h
      split at h
      · rw [List.mem_singleton.mp h]
        exact Or.inl (List.forall_mem_nil _)
      · simp at h
  | cat a b iha ihb =>
      rw [avoidsIn, Bool.and_eq_true] at hr
      rw [ways, List.mem_flatMap] at h
      obtain ⟨v, hv, hw⟩ := h
      obtain ⟨u, hu, rfl⟩ := List.mem_map.mp hw
      exact (ihb hr.2 hu).append (iha hr.1 hv)
  | alt a b iha ihb =>
      rw [avoidsIn, Bool.and_eq_true] at hr
      rw [ways, List.mem_append] at h
      exact h.elim (iha hr.1) (ihb hr.2)
  | plus greedy a iha =>
      rw [ways] at h
      exact loopWays_induction (P := fun _ w => KeepsOut text n c w.saves) (fun hw => iha hr hw)
        (fun hw _ _ hv => hv.append (iha hr hw)) h
  | group m a iha =>
      rw [ways, List.mem_map] at h
      obtain ⟨v, hv, rfl⟩ := h
      rw [avoidsIn] at hr
      split at hr
      · next hm =>
        -- The places of this pass stand before and behind all others, and none of those is the
        -- group's own.
        subst hm
        rw [Bool.and_eq_true, Bool.not_eq_true', List.contains_eq_mem,
          decide_eq_false_iff_not] at hr
        have hinner : ∀ s ∈ v.saves, s.1 / 2 ≠ m := fun s hs heq =>
          hr.2 (heq ▸ mem_groups_of_mem_saves hv hs)
        refine Or.inr ⟨i, v.stop, Match.group?_eq_some_iff.mpr ⟨?_, ?_⟩,
          fun j hi hj => ne_of_mem_ways hr.1 hv hi hj⟩
        · have hopen := Match.place?_eq_none hinner (Nat.mul_div_cancel_left m Nat.two_pos)
          have hsplit : (2 * m + 1, v.stop) :: (v.saves ++ [(2 * m, i)]) =
              [(2 * m + 1, v.stop)] ++ (v.saves ++ [(2 * m, i)]) := rfl
          rw [hsplit, Match.place?_append, Match.place?_append, hopen]
          simp [Match.place?]
        · simp [Match.place?]
      · next hm =>
        have hlast : (2 * m + 1) / 2 ≠ n := by omega
        have hfirst : 2 * m / 2 ≠ n := by omega
        exact (KeepsOut.single hlast).append ((iha hr hv).append (KeepsOut.single hfirst))

/-! ### Matches -/

/-- Every match is that of some place. -/
theorem Program.exists_matchAt?_of_mem {r : Regex} (hr : r.loopsAdvance = true) {m : Match}
    {budget start : Nat} {last : Option Nat}
    (h : m ∈ (ofRegex r).matchesFrom text budget start last) :
    ∃ i, r.matchAt? text i = some m := by
  have hfound : ∀ {start}, (ofRegex r).matchFrom? text start = some m →
      ∃ i, r.matchAt? text i = some m := fun hm =>
    (exists_matchAt? hr hm).imp fun _ hi => hi.2
  induction budget generalizing start last with
  | zero => exact absurd h List.not_mem_nil
  | succ budget ih =>
      rw [matchesFrom] at h
      split at h
      · exact absurd h List.not_mem_nil
      · next hm =>
        obtain rfl | h := List.mem_cons.mp h
        · split at hm
          · simp at hm
          · next hm' =>
            split at hm
            · exact hfound hm
            · exact hfound (hm' ▸ hm)
        · exact ih h

/-- A match is a way through its expression. -/
theorem Regex.exists_way {r : Regex} {m : Match} (h : r.matchAt? text i = some m) :
    ∃ w ∈ (group 0 r).ways text i, m = ⟨w.saves⟩ := by
  rw [matchAt?, first, findSome?_total, Option.map_eq_some_iff] at h
  obtain ⟨w, hw, rfl⟩ := h
  exact ⟨w, List.mem_of_mem_head? hw, by rw [List.append_nil]⟩

end Pattern

/-! ### Findings -/

open Pattern (Match Program Regex)

theorem exists_getElem?_of_mem_extract {text : Array Char} {first last : Nat} {c : Char}
    (h : c ∈ (text.extract first last).toList) :
    ∃ j, first ≤ j ∧ j < last ∧ text[j]? = some c := by
  rw [Array.mem_toList_iff, Array.mem_iff_getElem?] at h
  obtain ⟨k, hk⟩ := h
  rw [Array.getElem?_extract] at hk
  split at hk
  · exact ⟨first + k, Nat.le_add_right first k, by omega, hk⟩
  · simp at hk

/-- **The path of a finding never holds a character** that the sets of its group lack. -/
theorem OutputPattern.notMem_path {p : OutputPattern} {n : Nat} {c : Char}
    (hloops : p.regex.loopsAdvance = true)
    (hname : p.names.find? (fun n => n.1 = "path") = some ("path", n)) (hn : n ≠ 0)
    (havoid : p.regex.avoidsIn n c = true) {linter output : String} {fallback : Option String}
    {f : Finding} (hf : f ∈ p.findings linter output fallback) : c ∉ f.path.toList := by
  obtain ⟨m, hm, hpath⟩ := exists_finding_iff.mp ⟨f, hf, rfl⟩
  obtain ⟨cs, hcs, htrim⟩ := path?_eq_some hpath
  obtain ⟨entry, first, last, hentry, hgroup, rfl⟩ := groupText?_eq_some hcs
  obtain rfl := Option.some.inj (hentry.symm.trans hname)
  obtain ⟨i, hi⟩ := Program.exists_matchAt?_of_mem hloops hm
  obtain ⟨w, hw, rfl⟩ := Regex.exists_way hi
  have hgroup0 : (Regex.group 0 p.regex).avoidsIn n c = true := by
    rwa [Regex.avoidsIn, if_neg hn.symm]
  rw [← htrim]
  intro hc
  obtain ⟨j, hfirst, hlast, hj⟩ := exists_getElem?_of_mem_extract (Text.trimChars_subset _ hc)
  obtain hnone | ⟨first', last', hgroup', hchars⟩ := Regex.keepsOut_of_mem_ways hgroup0 hw
  · have hplace := (Match.group?_eq_some_iff.mp hgroup).1
    rw [Match.place?_eq_none hnone (Nat.mul_div_cancel_left n Nat.two_pos)] at hplace
    simp at hplace
  · obtain ⟨rfl, rfl⟩ := Prod.mk.inj (Option.some.inj (hgroup.symm.trans hgroup'))
    exact hchars j hfirst hlast hj

end LintVerdict
