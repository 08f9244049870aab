import LintVerdict.Proofs.Pattern.Matches
import LintVerdict.Proofs.Pattern.Through

/-!
# The preferred match at a place

A search tries every place of a text in turn, and ends at the first one where the expression
matches. The file says this for every expression, also where a loop may pass without a character:
whether there is a match at a place, and where it may end, is told by the ways through the
expression.

What a search has remembered before it tries a place does not matter there. The states of the
places before are behind it, and those that the search loop itself has been in cannot be entered
from the expression.

## Main definitions

* `Regex.preferred?`: the match that a search prefers among those at a place.
* `Program.Beyond`: the states that a search can come to from a place on.

## Main results

* `Regex.isSome_preferred?_iff`, `Regex.span_of_preferred?`: where there is a match, and what it
  spans.
* `Regex.preferred?_eq_matchAt?`: the preferred match is the first way, if all loops advance.
* `Program.matchFrom?_eq_or`: a search tries one place after the other.
-/

namespace LintVerdict.Pattern

variable {p : Program} {text : Array Char} {i k base : Nat} {t u : Thread} {inst : Inst}
  {r : Regex}

/-! ### The search loop -/

/-- An expression names no address before its own. -/
theorem Regex.le_of_mem_targets {target : Nat} (h : inst ∈ r.code base)
    (htarget : target ∈ inst.targets) : base ≤ target := by
  induction r generalizing base with
  | empty => exact absurd h List.not_mem_nil
  | chars s | look l =>
      obtain rfl := List.mem_singleton.mp h
      exact absurd htarget List.not_mem_nil
  | cat a b iha ihb =>
      rw [code, List.mem_append] at h
      obtain h | h := h
      · exact iha h
      · exact Nat.le_of_add_right_le (ihb h)
  | alt a b iha ihb =>
      rw [code, List.mem_cons, List.mem_append, List.mem_cons] at h
      obtain rfl | h | rfl | h := h
      · rw [Inst.targets, List.mem_pair] at htarget
        omega
      · exact Nat.le_of_succ_le (iha h)
      · rw [Inst.targets, List.mem_singleton] at htarget
        omega
      · have hle := ihb h
        omega
  | plus greedy a iha =>
      rw [code, List.mem_append, List.mem_singleton] at h
      obtain h | rfl := h
      · exact iha h
      · cases greedy <;>
        · simp only [Bool.false_eq_true, if_true, if_false, Inst.targets, List.mem_pair] at htarget
          omega
  | group g a iha =>
      rw [code, List.mem_cons, List.mem_append, List.mem_singleton] at h
      obtain rfl | h | rfl := h
      · exact absurd htarget List.not_mem_nil
      · exact Nat.le_of_succ_le (iha h)
      · exact absurd htarget List.not_mem_nil

namespace Program

/-- Where the searched expression is laid out, as group 0, behind the search loop. -/
def entry : Nat := 4

theorem insts_ofRegex (r : Regex) (k : Nat) :
    (ofRegex r).insts[k]? =
      (.split 1 2 :: .jump 4 :: .consume CharSet.univ :: .split 4 2 ::
        ((Regex.group 0 r).code entry ++ [.accept]))[k]? := by
  rw [ofRegex, List.getElem?_toArray]
  rfl

theorem inst_accept (r : Regex) :
    (ofRegex r).insts[entry + (Regex.group 0 r).size]? = some .accept := by
  have hlen := Regex.length_code (Regex.group 0 r) entry
  rw [insts_ofRegex, entry, Nat.add_comm]
  simp only [List.getElem?_cons_succ]
  rw [List.getElem?_append_right (by rw [← entry, hlen]), ← entry, hlen, Nat.sub_self]
  rfl

theorem placed_group (r : Regex) :
    Regex.Placed (ofRegex r) entry ((Regex.group 0 r).code entry) := by
  intro k hk
  rw [insts_ofRegex, entry, Nat.add_comm]
  simp only [List.getElem?_cons_succ]
  exact List.getElem?_append_left hk

/-- No way leads from the expression back into the search loop. -/
theorem entry_le_of_mem_next (ht : entry ≤ t.pc) (hi : (ofRegex r).insts[t.pc]? = some inst)
    (hu : u ∈ next text t inst) : entry ≤ u.pc := by
  obtain ⟨-, heq | htarget⟩ := next_inv hu
  · exact heq ▸ Nat.le_succ_of_le ht
  obtain ⟨k, hk⟩ := Nat.exists_eq_add_of_le' ht
  rw [hk, insts_ofRegex, entry] at hi
  simp only [List.getElem?_cons_succ] at hi
  have hmem := List.mem_of_getElem? hi
  rw [List.mem_append, List.mem_singleton] at hmem
  obtain hmem | rfl := hmem
  · exact Regex.le_of_mem_targets hmem htarget
  · exact absurd htarget List.not_mem_nil

/-- The states that a search can come to from a place on once it has passed the start of its loop.
The split at the end of the loop is not among them at the place itself. -/
def Beyond (text : Array Char) (k : Nat) (t : Thread) : Prop :=
  k ≤ t.pos ∧ t.pos ≤ text.size ∧ 2 ≤ t.pc ∧ (t.pc = 3 → k < t.pos)

theorem region_beyond (r : Regex) (text : Array Char) (k : Nat) :
    Region (ofRegex r) text (Beyond text k) where
  pos_le ht := ht.2.1
  next := by
    rintro t inst u ⟨hk, hpos, hpc, hloop⟩ hi hu
    have hle := le_pos_of_mem_next hu
    have hpos' := pos_le_of_mem_next hpos hu
    refine ⟨Nat.le_trans hk hle, hpos', ?_⟩
    obtain hpc | hpc | hpc : t.pc = 2 ∨ t.pc = 3 ∨ entry ≤ t.pc := by
      rw [entry]
      omega
    · rw [insts_ofRegex, hpc] at hi
      obtain rfl := Option.some.inj hi
      rw [next] at hu
      split at hu
      · rw [if_pos (CharSet.univ_has _)] at hu
        rw [List.mem_singleton.mp hu]
        exact ⟨Nat.le_succ_of_le (Nat.le_of_eq hpc.symm), fun _ => Nat.lt_succ_of_le hk⟩
      · exact absurd hu List.not_mem_nil
    · rw [insts_ofRegex, hpc] at hi
      obtain rfl := Option.some.inj hi
      obtain rfl | hu := List.mem_cons.mp hu
      · exact ⟨(by decide : 2 ≤ 4), fun h => absurd h (by simp)⟩
      · rw [List.mem_singleton.mp hu]
        exact ⟨Nat.le_refl 2, fun h => absurd h (by simp)⟩
    · have hle := entry_le_of_mem_next hpc hi hu
      rw [entry] at hle
      exact ⟨by omega, by omega⟩

/-- A memory that holds no state of a set. -/
def Apart (p : Program) (text : Array Char) (D : Thread → Prop) (V : Std.HashSet Nat) : Prop :=
  ∀ t, InRange p text t → p.key t ∈ V → ¬ D t

section Apart

variable {D : Thread → Prop} {V W : Std.HashSet Nat}

theorem apart_empty (p : Program) (text : Array Char) (D : Thread → Prop) :
    Apart p text D {} :=
  fun _ _ hmem => absurd hmem (by simp)

theorem notMem_insert (hu : InRange p text u) (ht : InRange p text t) (hne : ¬ SameState u t)
    (hV : p.key t ∉ V) : p.key t ∉ V.insert (p.key u) := by
  intro hmem
  obtain heq | hmem := Std.HashSet.mem_insert.mp hmem
  · exact hne (sameState_of_key_eq hu ht (eq_of_beq heq))
  · exact hV hmem

/-- A state outside the set may be remembered. -/
theorem Apart.insert (h : Apart p text D V) (hu : InRange p text u)
    (hout : ∀ t, D t → ¬ SameState u t) : Apart p text D (V.insert (p.key u)) := by
  intro t ht hmem hD
  exact notMem_insert hu ht (hout t hD) (fun hV => h t ht hV hD) hmem

theorem Apart.sameMemory (hD : Region p text D) (hV : Apart p text D V) (hW : Apart p text D W) :
    SameMemory p text D V W := by
  intro t ht hlives
  obtain ⟨inst, hi⟩ := hlives.exists_inst
  have hrange : InRange p text t := ⟨pc_lt hi, hD.pos_le ht⟩
  exact iff_of_false (fun hmem => hV t hrange hmem ht) fun hmem => hW t hrange hmem ht

end Apart

variable {start : Nat}

/-- The threads of a search that is about to try a place: the expression there, and the loop. -/
def trying (start : Nat) : List Thread := [⟨entry, start, []⟩, ⟨2, start, []⟩]

theorem beyond_of_mem_trying (hs : start ≤ text.size) (ht : t ∈ trying start) :
    Beyond text start t := by
  obtain rfl | ht := List.mem_cons.mp ht
  · exact ⟨Nat.le_refl start, hs, (by decide : 2 ≤ entry), fun h => absurd h (by simp [entry])⟩
  · rw [List.mem_singleton.mp ht]
    exact ⟨Nat.le_refl start, hs, Nat.le_refl 2, fun h => absurd h (by simp)⟩

/-- A search begins with the place where it starts. -/
theorem exists_run_of_search (r : Regex) (hs : start ≤ text.size) :
    ∃ b V, (ofRegex r).search? text start = run (ofRegex r) text b V (trying start) ∧
      Enough (ofRegex r) text b V (trying start) ∧
      Apart (ofRegex r) text (Beyond text start) V := by
  have hi₀ : (ofRegex r).insts[0]? = some (.split 1 2) := insts_ofRegex r 0
  have hi₁ : (ofRegex r).insts[1]? = some (.jump entry) := insts_ofRegex r 1
  have ht₀ : InRange (ofRegex r) text ⟨0, start, []⟩ := ⟨pc_lt hi₀, hs⟩
  have ht₁ : InRange (ofRegex r) text ⟨1, start, []⟩ := ⟨pc_lt hi₁, hs⟩
  have hnew₀ : (ofRegex r).key ⟨0, start, []⟩ ∉ ({} : Std.HashSet Nat) := by simp
  have hnew₁ := notMem_insert ht₀ ht₁ (fun h => absurd h.1 (by simp))
    (V := {}) (by simp)
  have hb := enough_budget (ofRegex r) text ⟨0, start, []⟩
  rw [search?]
  obtain ⟨b, hbudget⟩ := hb.pos
  rw [hbudget] at hb ⊢
  have hb₁ := hb.next (.split 1 2) ht₀ hnew₀
  rw [run_of_next hnew₀ hi₀ (by simp)]
  obtain ⟨b, rfl⟩ := hb₁.pos
  refine ⟨b, _, run_of_next hnew₁ hi₁ (by simp), hb₁.next (.jump entry) ht₁ hnew₁, ?_⟩
  refine ((apart_empty _ _ _).insert ht₀ ?_).insert ht₁ ?_
  · rintro t ⟨_, _, hpc, _⟩ ⟨hsame, _⟩
    exact absurd (hsame ▸ hpc) (by simp)
  · rintro t ⟨_, _, hpc, _⟩ ⟨hsame, _⟩
    exact absurd (hsame ▸ hpc) (by simp)

/-- A search that is done with a place goes on to the next one. -/
theorem exists_run_of_loop (hlt : start < text.size) {b : Nat} {V : Std.HashSet Nat}
    (hb : Enough (ofRegex r) text b V [⟨2, start, []⟩])
    (hV : Apart (ofRegex r) text (Beyond text start) V) :
    ∃ c W, run (ofRegex r) text b V [⟨2, start, []⟩] =
        run (ofRegex r) text c W (trying (start + 1)) ∧
      Enough (ofRegex r) text c W (trying (start + 1)) ∧
      Apart (ofRegex r) text (Beyond text (start + 1)) W := by
  have hi₂ : (ofRegex r).insts[2]? = some (.consume CharSet.univ) := insts_ofRegex r 2
  have hi₃ : (ofRegex r).insts[3]? = some (.split entry 2) := insts_ofRegex r 3
  have ht₂ : InRange (ofRegex r) text ⟨2, start, []⟩ := ⟨pc_lt hi₂, Nat.le_of_lt hlt⟩
  have ht₃ : InRange (ofRegex r) text ⟨3, start + 1, []⟩ := ⟨pc_lt hi₃, hlt⟩
  have hnew₂ : (ofRegex r).key ⟨2, start, []⟩ ∉ V := fun hmem =>
    hV _ ht₂ hmem ⟨Nat.le_refl start, Nat.le_of_lt hlt, Nat.le_refl 2, fun h => absurd h (by simp)⟩
  have hnew₃ := notMem_insert ht₂ ht₃ (V := V) (fun h => absurd h.1 (by simp)) fun hmem =>
    hV _ ht₃ hmem ⟨Nat.le_succ start, hlt, Nat.le_succ 2, fun _ => Nat.lt_succ_self start⟩
  have hnext : next text ⟨2, start, []⟩ (.consume CharSet.univ) = [⟨3, start + 1, []⟩] := by
    simp [next, Array.getElem?_eq_getElem hlt, CharSet.univ_has]
  obtain ⟨b, rfl⟩ := hb.pos
  have hb₂ := hb.next (.consume CharSet.univ) ht₂ hnew₂
  rw [run_of_next hnew₂ hi₂ (by simp)]
  rw [hnext, List.append_nil] at hb₂ ⊢
  obtain ⟨b, rfl⟩ := hb₂.pos
  refine ⟨b, _, run_of_next hnew₃ hi₃ (by simp), hb₂.next (.split entry 2) ht₃ hnew₃, ?_⟩
  have hback : Apart (ofRegex r) text (Beyond text (start + 1)) V := by
    rintro t ht hmem ⟨hpos, hsize, hpc, hloop⟩
    exact hV t ht hmem ⟨by omega, hsize, hpc, fun h => Nat.lt_of_succ_lt (hloop h)⟩
  refine (hback.insert ht₂ ?_).insert ht₃ ?_
  · rintro t ⟨hpos, _, _, _⟩ ⟨_, hsame⟩
    exact absurd (hsame ▸ hpos) (by simp)
  · rintro t ⟨_, _, _, hloop⟩ ⟨hpc, hpos⟩
    exact absurd (hpos ▸ hloop hpc.symm) (Nat.lt_irrefl _)

/-- At the end of a text there is no next place. -/
theorem run_loop_end {b : Nat} {V : Std.HashSet Nat} :
    run (ofRegex r) text b V [⟨2, text.size, []⟩] = none := by
  cases hrun : run (ofRegex r) text b V [⟨2, text.size, []⟩] with
  | none => rfl
  | some t =>
      obtain ⟨u, hu, n, hleads⟩ := leads_of_run hrun
      obtain rfl := List.mem_singleton.mp hu
      have hi₂ : (ofRegex r).insts[2]? = some (.consume CharSet.univ) := insts_ofRegex r 2
      obtain ⟨_, u, _, hu, _⟩ := hleads.exists_next hi₂ (by simp)
      simp [next] at hu

end Program

/-! ### The preferred match -/

open Program

namespace Regex

/-- The match that a search prefers among those at a place. -/
def preferred? (r : Regex) (text : Array Char) (i : Nat) : Option Match :=
  if text.size < i then none
  else (run (ofRegex r) text ((ofRegex r).budget text) {} [⟨entry, i, []⟩]).map fun t => ⟨t.saves⟩

theorem preferred?_of_lt (h : text.size < i) : r.preferred? text i = none := if_pos h

/-- **The preferred match is one of the expression's**: it ends where some way does, and the
places that it notes are those of the whole match and of the groups of the expression. -/
theorem exists_way_of_preferred? {m : Match} (h : r.preferred? text i = some m) :
    i ≤ text.size ∧ ∃ w ∈ r.ways text i, ∃ new, (∀ s ∈ new, s.1 / 2 ∈ r.groups) ∧
      m.saves = (1, w.stop) :: (new ++ [(0, i)]) := by
  rw [preferred?] at h
  split at h
  · simp at h
  · next hi =>
    obtain ⟨t, hrun, rfl⟩ := Option.map_eq_some_iff.mp h
    obtain ⟨u, hu, n, hleads⟩ := leads_of_run hrun
    obtain rfl := List.mem_singleton.mp hu
    obtain ⟨hopen, hbody, hclose⟩ := (placed_group r).group
    have haccept := inst_accept r
    rw [size, show entry + (r.size + 2) = entry + 1 + r.size + 1 by omega] at haccept
    -- past the start of the group, through the expression, and past the end of the group
    obtain ⟨_, v, _, hv, hleads⟩ := hleads.exists_next hopen (by simp)
    obtain rfl := List.mem_singleton.mp hv
    obtain ⟨w, hw, new, hnew, _, _, hleads⟩ := covers_of_placed hbody _ _ _ _ hleads
    obtain ⟨_, v, _, hv, hleads⟩ := hleads.exists_next hclose (by simp)
    obtain rfl := List.mem_singleton.mp hv
    obtain rfl := hleads.eq_of_accept haccept
    exact ⟨Nat.le_of_not_lt hi, w, hw, new, hnew, rfl⟩

/-- **There is a preferred match** exactly where there is a way through the expression. -/
theorem isSome_preferred?_iff :
    (r.preferred? text i).isSome = true ↔ i ≤ text.size ∧ r.ways text i ≠ [] := by
  constructor
  · intro h
    obtain ⟨m, hm⟩ := Option.isSome_iff_exists.mp h
    obtain ⟨hi, w, hw, _⟩ := exists_way_of_preferred? hm
    exact ⟨hi, List.ne_nil_of_mem hw⟩
  · rintro ⟨hi, hne⟩
    obtain ⟨w, hw⟩ := List.exists_mem_of_ne_nil _ hne
    have haccept : Lives (ofRegex r) text ⟨entry + (group 0 r).size, w.stop, []⟩ :=
      .of_accept (inst_accept r)
    have hgroup : Lives (ofRegex r) text ⟨entry, i, []⟩ :=
      lives_of_way (placed_group r) (List.mem_map_of_mem hw) haccept
    rw [preferred?, if_neg (Nat.not_lt.mpr hi), Option.isSome_map]
    cases hrun : run (ofRegex r) text ((ofRegex r).budget text) {} [⟨entry, i, []⟩] with
    | some t => rfl
    | none =>
        exact absurd hgroup (not_lives_of_run_eq_none (enough_budget _ _ _)
          (fun t ht => by rwa [List.mem_singleton.mp ht]) hrun (List.mem_singleton_self _))

/-- **The preferred match spans a way**: it begins where it was tried, and ends where the way
does. -/
theorem span_of_preferred? {m : Match} (h0 : 0 ∉ r.groups) (h : r.preferred? text i = some m) :
    ∃ w ∈ r.ways text i, m.span = (i, w.stop) := by
  obtain ⟨_, w, hw, new, hnew, hsaves⟩ := exists_way_of_preferred? h
  refine ⟨w, hw, ?_⟩
  have hstart : new.find? (fun s => s.1 = 0) = none := by
    rw [List.find?_eq_none]
    intro s hs heq
    have hgroup := hnew s hs
    rw [of_decide_eq_true heq] at hgroup
    exact h0 hgroup
  simp [Match.span, Match.group?, Match.place?, hsaves, List.find?_append, hstart]

/-- A match lies in the text. -/
theorem span_le_of_preferred? {m : Match} (h0 : 0 ∉ r.groups)
    (h : r.preferred? text i = some m) :
    m.span.1 = i ∧ i ≤ m.span.2 ∧ m.span.2 ≤ text.size := by
  obtain ⟨w, hw, hspan⟩ := span_of_preferred? h0 h
  have hi := (exists_way_of_preferred? h).1
  rw [hspan]
  obtain ⟨hstop, -⟩ | hstop := stop_of_mem_ways hw
  · exact ⟨rfl, Nat.le_of_eq hstop.symm, hstop ▸ hi⟩
  · exact ⟨rfl, Nat.le_of_lt hstop.1, hstop.2⟩

/-- **The preferred match is the first way** through the expression, if all its loops advance. -/
theorem preferred?_eq_matchAt? (hr : r.loopsAdvance = true) (hi : i ≤ text.size) :
    r.preferred? text i = r.matchAt? text i := by
  have hfinds : Finds (ofRegex r) text [⟨entry, i, []⟩]
      (((group 0 r).ways text i).head?.map (Way.thread (entry + (group 0 r).size) [])) := by
    refine follows_of_placed (r := group 0 r) hr (placed_group r) i [] _ ?_
    cases (group 0 r).ways text i with
    | nil => exact ⟨0, .done⟩
    | cons w ws => exact ⟨0, .accept (inst_accept r)⟩
  rw [preferred?, if_neg (Nat.not_lt.mpr hi), run_eq_of_finds (t := ⟨entry, i, []⟩) hi hfinds,
    matchAt?, first, findSome?_total, Option.map_map]
  rfl

end Regex

/-! ### One place after the other -/

namespace Program

/-- **A search tries one place after the other.** -/
theorem matchFrom?_eq_or (r : Regex) (text : Array Char) (start : Nat) :
    (ofRegex r).matchFrom? text start =
      (r.preferred? text start).or ((ofRegex r).matchFrom? text (start + 1)) := by
  rcases Nat.lt_or_ge text.size start with hlt | hs
  · rw [matchFrom?_of_lt hlt, matchFrom?_of_lt (Nat.lt_succ_of_lt hlt),
      Regex.preferred?_of_lt hlt]
    rfl
  obtain ⟨b, V, hsearch, hb, hV⟩ := exists_run_of_search r hs
  have hD := region_beyond r text start
  have htrying := fun t => beyond_of_mem_trying (t := t) hs
  have hfirst : ∀ t ∈ [(⟨entry, start, []⟩ : Thread)], Beyond text start t := fun t ht =>
    htrying t (List.mem_cons.mpr (Or.inl (List.mem_singleton.mp ht)))
  rw [matchFrom?, if_neg (Nat.not_lt.mpr hs), Regex.preferred?, if_neg (Nat.not_lt.mpr hs), hsearch]
  cases hrun : run (ofRegex r) text ((ofRegex r).budget text) {} [⟨entry, start, []⟩] with
  | some t =>
      have hb' : Enough (ofRegex r) text b V [⟨entry, start, []⟩] := Nat.lt_of_succ_lt hb
      have heq := run_congr hD (SameLives.refl _) hfirst hfirst
        (Apart.sameMemory hD (apart_empty _ _ _) hV) (enough_budget _ _ _) hb'
      have hgo := run_append (heq.symm.trans hrun) [⟨2, start, []⟩]
      rw [trying, ← List.singleton_append, hgo]
      rfl
  | none =>
      have hdead := not_lives_of_run_eq_none (enough_budget _ _ _)
        (fun t ht => (hfirst t ht).2.1) hrun (List.mem_singleton_self _)
      have hb' : Enough (ofRegex r) text b V [⟨2, start, []⟩] := Nat.lt_of_succ_lt hb
      have hskip : run (ofRegex r) text b V (trying start) =
          run (ofRegex r) text b V [⟨2, start, []⟩] :=
        run_congr hD (.left hdead (SameLives.refl _)) htrying
          (fun t ht => htrying t (List.mem_cons_of_mem _ ht)) (SameMemory.refl V) hb hb'
      rw [hskip, Option.map_none, Option.none_or, matchFrom?]
      rcases Nat.lt_or_ge start text.size with hlt | hge
      · obtain ⟨c, W, hloop, hc, hW⟩ := exists_run_of_loop hlt hb' hV
        obtain ⟨c', W', hsearch', hc', hW'⟩ := exists_run_of_search r (Nat.succ_le_of_lt hlt)
        have hD' := region_beyond r text (start + 1)
        have hnext := fun t => beyond_of_mem_trying (t := t) (Nat.succ_le_of_lt hlt)
        rw [if_neg (by omega), hloop, hsearch', run_congr hD' (SameLives.refl _) hnext hnext
          (Apart.sameMemory hD' hW hW') hc hc']
      · obtain rfl : start = text.size := Nat.le_antisymm hs hge
        rw [if_pos (Nat.lt_succ_self _), run_loop_end]
        rfl

end Program

end LintVerdict.Pattern
