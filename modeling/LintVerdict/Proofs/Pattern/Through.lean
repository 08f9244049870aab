import LintVerdict.Proofs.Pattern.Live
import LintVerdict.Proofs.Pattern.Ways

/-!
# Threads that go through an expression

Where an expression is laid out, a thread goes through it in one of its ways, and may go through
each of them. Both hold for every expression. Where a loop passes without a character, a thread may
pass on and on, but it stays where it is, and what it does afterwards it could have done at once.

## Main definitions

* `Regex.Covers`: what leads on from an expression goes through one of its ways.

## Main results

* `Regex.covers_of_placed`: a laid out expression is gone through in its ways.
* `Regex.lives_of_way`: all ways of a laid out expression are gone through.
-/

namespace LintVerdict.Pattern

variable {p : Program} {text : Array Char} {i base : Nat} {r a b : Regex} {w : Way}
  {saves saves' : List (Nat × Nat)}

namespace Regex

open Program (Leads Lives)

/-! ### Threads and ways -/

/-- Whatever a thread at the start of an expression leads to, it leads to through a way of the
expression, and it notes places of the groups of the expression only. -/
def Covers (p : Program) (text : Array Char) (r : Regex) (base : Nat) : Prop :=
  ∀ n i saves t, Leads p text n ⟨base, i, saves⟩ t →
    ∃ w ∈ r.ways text i, ∃ new, (∀ s ∈ new, s.1 / 2 ∈ r.groups) ∧
      ∃ m ≤ n, Leads p text m ⟨base + r.size, w.stop, new ++ saves⟩ t

theorem covers_chars {s : CharSet} (hp : p.insts[base]? = some (.consume s)) :
    Covers p text (chars s) base := by
  intro n i saves t h
  obtain ⟨m, u, rfl, hu, h⟩ := h.exists_next hp (by simp)
  rw [Program.next] at hu
  cases hc : text[i]? with
  | none => simp [hc] at hu
  | some c =>
      simp only [hc] at hu
      split at hu
      · next hs =>
        obtain rfl := List.mem_singleton.mp hu
        refine ⟨⟨i + 1, []⟩, ?_, [], List.forall_mem_nil _, m, Nat.le_succ m, h⟩
        simp [ways, hc, hs]
      · exact absurd hu List.not_mem_nil

theorem covers_look {l : Look} (hp : p.insts[base]? = some (.look l)) :
    Covers p text (look l) base := by
  intro n i saves t h
  obtain ⟨m, u, rfl, hu, h⟩ := h.exists_next hp (by simp)
  rw [Program.next] at hu
  split at hu
  · next hl =>
    obtain rfl := List.mem_singleton.mp hu
    refine ⟨⟨i, []⟩, ?_, [], List.forall_mem_nil _, m, Nat.le_succ m, h⟩
    rw [ways, if_pos hl]
    exact List.mem_singleton_self _
  · exact absurd hu List.not_mem_nil

theorem Covers.cat (ha : Covers p text a base) (hb : Covers p text b (base + a.size)) :
    Covers p text (Regex.cat a b) base := by
  intro n i saves t h
  obtain ⟨w, hw, new, hnew, m, hm, h⟩ := ha n i saves t h
  obtain ⟨v, hv, new', hnew', m', hm', h⟩ := hb m w.stop _ t h
  refine ⟨w.andThen v, ?_, new' ++ new, ?_, m', Nat.le_trans hm' hm, ?_⟩
  · rw [ways, List.mem_flatMap]
    exact ⟨w, hw, List.mem_map_of_mem hv⟩
  · intro s hs
    rw [groups, List.mem_append]
    exact (List.mem_append.mp hs).elim (fun hs => Or.inr (hnew' s hs)) fun hs => Or.inl (hnew s hs)
  · rw [size, ← Nat.add_assoc, List.append_assoc]
    exact h

theorem Covers.alt (hsplit : p.insts[base]? = some (.split (base + 1) (base + a.size + 2)))
    (ha : Covers p text a (base + 1))
    (hjump : p.insts[base + 1 + a.size]? = some (.jump (base + a.size + b.size + 2)))
    (hb : Covers p text b (base + a.size + 2)) : Covers p text (Regex.alt a b) base := by
  intro n i saves t h
  obtain ⟨m, u, rfl, hu, h⟩ := h.exists_next hsplit (by simp)
  rw [Program.next] at hu
  rw [ways, groups, size]
  obtain rfl | hu := List.mem_cons.mp hu
  · obtain ⟨w, hw, new, hnew, m₁, hm₁, h⟩ := ha _ _ _ _ h
    obtain ⟨m₂, v, rfl, hv, h⟩ := h.exists_next hjump (by simp)
    obtain rfl := List.mem_singleton.mp hv
    refine ⟨w, List.mem_append_left _ hw, new, fun s hs => List.mem_append_left _ (hnew s hs), m₂,
      by omega, ?_⟩
    rwa [← Nat.add_assoc, ← Nat.add_assoc]
  · obtain rfl := List.mem_singleton.mp hu
    obtain ⟨w, hw, new, hnew, m₁, hm₁, h⟩ := hb _ _ _ _ h
    refine ⟨w, List.mem_append_right _ hw, new, fun s hs => List.mem_append_right _ (hnew s hs),
      m₁, by omega, ?_⟩
    rwa [show base + (a.size + b.size + 2) = base + a.size + 2 + b.size by omega]

/-- A pass without a character leaves the loop where it began, so the passes after it are a way of
their own. The induction is on the number of steps. -/
theorem Covers.plus {greedy : Bool} (ha : Covers p text a base)
    (hsplit : p.insts[base + a.size]? = some
      (if greedy then .split base (base + a.size + 1) else .split (base + a.size + 1) base)) :
    Covers p text (Regex.plus greedy a) base := by
  intro n
  induction n using Nat.strong_induction_on with
  | _ n ih =>
      intro i saves t h
      obtain ⟨w, hw, new, hnew, m, hm, h⟩ := ha n i saves t h
      obtain ⟨m, u, rfl, hu, h⟩ := h.exists_next hsplit (by cases greedy <;> simp)
      have hcases : u = ⟨base, w.stop, new ++ saves⟩ ∨
          u = ⟨base + a.size + 1, w.stop, new ++ saves⟩ := by
        cases greedy
        · simpa [Program.next, or_comm] using hu
        · simpa [Program.next] using hu
      obtain rfl | rfl := hcases
      · obtain ⟨v, hv, new', hnew', m', hm', h⟩ := ih m (by omega) w.stop _ t h
        have hnew'' : ∀ s ∈ new' ++ new, s.1 / 2 ∈ a.groups := fun s hs =>
          (List.mem_append.mp hs).elim (hnew' s) (hnew s)
        rw [← List.append_assoc] at h
        obtain ⟨heq, -⟩ | hlt := stop_of_mem_ways hw
        · rw [heq] at hv
          exact ⟨v, hv, _, hnew'', m', by omega, h⟩
        · refine ⟨w.andThen v, ?_, _, hnew'', m', by omega, h⟩
          rw [ways, mem_loopWays_iff]
          exact ⟨w, hw, Or.inr ⟨hlt, v, hv, rfl⟩⟩
      · refine ⟨w, ?_, new, hnew, m, by omega, h⟩
        rw [ways, mem_loopWays_iff]
        exact ⟨w, hw, Or.inl rfl⟩

theorem Covers.group {g : Nat} (hopen : p.insts[base]? = some (.save (2 * g)))
    (ha : Covers p text a (base + 1))
    (hclose : p.insts[base + 1 + a.size]? = some (.save (2 * g + 1))) :
    Covers p text (Regex.group g a) base := by
  intro n i saves t h
  obtain ⟨m, u, rfl, hu, h⟩ := h.exists_next hopen (by simp)
  obtain rfl := List.mem_singleton.mp hu
  obtain ⟨w, hw, new, hnew, m₁, hm₁, h⟩ := ha _ _ _ _ h
  obtain ⟨m₂, v, rfl, hv, h⟩ := h.exists_next hclose (by simp)
  obtain rfl := List.mem_singleton.mp hv
  refine ⟨_, List.mem_map_of_mem hw, (2 * g + 1, w.stop) :: (new ++ [(2 * g, i)]), ?_, m₂,
    by omega, ?_⟩
  · intro s hs
    rw [List.mem_cons, List.mem_append, List.mem_singleton] at hs
    rw [groups, List.mem_cons]
    obtain rfl | hs | rfl := hs
    · exact Or.inl (by omega)
    · exact Or.inr (hnew s hs)
    · exact Or.inl (by omega)
  · rw [size, show base + (a.size + 2) = base + 1 + a.size + 1 by omega]
    simpa using h

/-- **A laid out expression is gone through in its ways.** -/
theorem covers_of_placed (hp : Placed p base (r.code base)) : Covers p text r base := by
  induction r generalizing base with
  | empty =>
      intro n i saves t h
      exact ⟨⟨i, []⟩, List.mem_singleton_self _, [], List.forall_mem_nil _, n, Nat.le_refl n, h⟩
  | chars s => exact covers_chars hp.head
  | look l => exact covers_look hp.head
  | cat a b iha ihb =>
      exact (iha hp.cat.1).cat (ihb hp.cat.2)
  | alt a b iha ihb =>
      obtain ⟨hsplit, hleft, hjump, hright⟩ := hp.alt
      exact (iha hleft).alt hsplit hjump (ihb hright)
  | plus greedy a iha =>
      exact (iha hp.plus.1).plus hp.plus.2
  | group g a iha =>
      obtain ⟨hopen, hbody, hclose⟩ := hp.group
      exact (iha hbody).group hopen hclose

/-- **All ways of a laid out expression are gone through**: a thread at its start lives if one does
behind one of its ways. -/
theorem lives_of_way (hp : Placed p base (r.code base)) (hw : w ∈ r.ways text i)
    (h : Lives p text ⟨base + r.size, w.stop, saves⟩) : Lives p text ⟨base, i, saves'⟩ := by
  induction r generalizing base i w saves saves' with
  | empty =>
      rw [List.mem_singleton.mp hw] at h
      exact h.sameState ⟨rfl, rfl⟩
  | chars s =>
      rw [ways] at hw
      split at hw
      · next c hc =>
        split at hw
        · next hs =>
          rw [List.mem_singleton.mp hw] at h
          refine .of_next hp.head ?_ (h.sameState (u := ⟨base + 1, i + 1, saves'⟩) ⟨rfl, rfl⟩)
          simp [Program.next, hc, hs]
        · exact absurd hw List.not_mem_nil
      · exact absurd hw List.not_mem_nil
  | look l =>
      rw [ways] at hw
      split at hw
      · next hl =>
        rw [List.mem_singleton.mp hw] at h
        refine .of_next hp.head ?_ (h.sameState (u := ⟨base + 1, i, saves'⟩) ⟨rfl, rfl⟩)
        rw [Program.next, if_pos hl]
        exact List.mem_singleton_self _
      · exact absurd hw List.not_mem_nil
  | cat a b iha ihb =>
      rw [ways, List.mem_flatMap] at hw
      obtain ⟨v, hv, hw⟩ := hw
      obtain ⟨u, hu, rfl⟩ := List.mem_map.mp hw
      rw [size, ← Nat.add_assoc] at h
      have hsecond : Lives p text ⟨base + a.size, v.stop, saves⟩ := ihb hp.cat.2 hu h
      exact iha hp.cat.1 hv hsecond
  | alt a b iha ihb =>
      obtain ⟨hsplit, hleft, hjump, hright⟩ := hp.alt
      rw [ways, List.mem_append] at hw
      rw [size] at h
      obtain hw | hw := hw
      · have hjumped : Lives p text ⟨base + a.size + b.size + 2, w.stop, saves⟩ := by
          rwa [show base + a.size + b.size + 2 = base + (a.size + b.size + 2) by omega]
        have hexit : Lives p text ⟨base + 1 + a.size, w.stop, saves⟩ :=
          .of_next hjump (List.mem_singleton_self _) hjumped
        exact .of_next hsplit List.mem_cons_self (iha hleft hw hexit)
      · have hexit : Lives p text ⟨base + a.size + 2 + b.size, w.stop, saves⟩ := by
          rwa [show base + a.size + 2 + b.size = base + (a.size + b.size + 2) by omega]
        exact .of_next hsplit (List.mem_cons_of_mem _ (List.mem_singleton_self _))
          (ihb hright hw hexit)
  | plus greedy a iha =>
      obtain ⟨hbody, hsplit⟩ := hp.plus
      rw [ways] at hw
      -- a pass ends at the split, from where both the loop and what is behind it go on
      have hpass {i v saves saves'} (hv : v ∈ a.ways text i)
          (hlives : Lives p text ⟨base, v.stop, saves⟩ ∨
            Lives p text ⟨base + a.size + 1, v.stop, saves⟩) :
          Lives p text ⟨base, i, saves'⟩ := by
        have hexit : Lives p text ⟨base + a.size, v.stop, saves⟩ := by
          obtain hlives | hlives := hlives
          · exact .of_next hsplit (by cases greedy <;> simp [Program.next]) hlives
          · exact .of_next hsplit (by cases greedy <;> simp [Program.next]) hlives
        exact iha hbody hv hexit
      have hall := loopWays_induction (P := fun i w =>
        ∀ saves saves', Lives p text ⟨base + a.size + 1, w.stop, saves⟩ →
          Lives p text ⟨base, i, saves'⟩)
        (fun hv saves saves' h => hpass hv (Or.inr h))
        (fun hv _ _ hu saves saves' h => hpass hv (Or.inl (hu saves saves h))) hw
      exact hall saves saves' h
  | group g a iha =>
      obtain ⟨hopen, hbody, hclose⟩ := hp.group
      rw [ways] at hw
      obtain ⟨v, hv, rfl⟩ := List.mem_map.mp hw
      rw [size, show base + (a.size + 2) = base + 1 + a.size + 1 by omega] at h
      have hexit : Lives p text ⟨base + 1 + a.size, v.stop, saves⟩ :=
        .of_next hclose (List.mem_singleton_self _)
          (h.sameState (u := ⟨base + 1 + a.size + 1, v.stop, (2 * g + 1, v.stop) :: saves⟩)
            ⟨rfl, rfl⟩)
      exact .of_next hopen (List.mem_singleton_self _) (iha hbody hv hexit)

end Regex

end LintVerdict.Pattern
