import Mathlib.Data.Finset.Card
import Mathlib.Data.Finset.Filter
import Mathlib.Data.Finset.Range
import LintVerdict.Pattern.Program

/-!
# Searching with and without memory

`Program.run` never visits an instruction twice at the same place. Plain backtracking does, and
it is what the meaning of an expression speaks about. This file shows that both find the same
thread whenever plain backtracking comes to an end.

What a thread finds depends on its instruction and its place only, and not on the places it has
noted, so a state that failed once fails again. A state that is met again while it is still
being explored would have to be explored in less depth than itself; the depth of an exploration
is therefore kept as an index, and the invariant of the memory says that every remembered state
fails or is too deep.

## Main definitions

* `Program.Explores`: plain backtracking through some threads, to a bounded depth.
* `Program.Finds`: plain backtracking to any depth.
* `Program.Sound`: the invariant of the memory.

## Main results

* `Program.next_inv`: where a step leads.
* `Program.Explores.unique`: backtracking is deterministic.
* `Program.run_eq_of_finds`, `Program.search?_eq`: the search finds what plain backtracking finds.
-/

namespace LintVerdict.Pattern

/-- The addresses that an instruction names. -/
def Inst.targets : Inst → List Nat
  | .jump target => [target]
  | .split first second => [first, second]
  | _ => []

namespace Program

variable {p : Program} {text : Array Char} {n m : Nat} {t u : Thread} {ts us : List Thread}
  {o o' : Option Thread} {inst : Inst} {r : Thread}

/-- Plain backtracking: `Explores p text n ts o` means that following the threads `ts` in turn,
each to a depth of at most `n` instructions, ends with the accepting thread `o`, or with none. -/
inductive Explores (p : Program) (text : Array Char) :
    Nat → List Thread → Option Thread → Prop
  /-- No thread is left. -/
  | done {n : Nat} : Explores p text n [] none
  /-- The first thread accepts. -/
  | accept {n : Nat} {t : Thread} {ts : List Thread} :
      p.insts[t.pc]? = some .accept → Explores p text n (t :: ts) (some t)
  /-- The first thread has left the program. -/
  | outside {n : Nat} {t : Thread} {ts : List Thread} {o : Option Thread} :
      p.insts[t.pc]? = none → Explores p text n ts o → Explores p text n (t :: ts) o
  /-- The first thread goes on to accept. -/
  | found {n : Nat} {t : Thread} {ts : List Thread} {inst : Inst} {r : Thread} :
      p.insts[t.pc]? = some inst → inst ≠ .accept →
      Explores p text n (next text t inst) (some r) →
      Explores p text (n + 1) (t :: ts) (some r)
  /-- The first thread goes on to fail. -/
  | failed {n : Nat} {t : Thread} {ts : List Thread} {inst : Inst} {o : Option Thread} :
      p.insts[t.pc]? = some inst → inst ≠ .accept →
      Explores p text n (next text t inst) none → Explores p text (n + 1) ts o →
      Explores p text (n + 1) (t :: ts) o

/-- Plain backtracking through some threads ends with an accepting thread, or with none. -/
def Finds (p : Program) (text : Array Char) (ts : List Thread) (o : Option Thread) : Prop :=
  ∃ n, Explores p text n ts o

/-! ### Exploring -/

theorem Explores.succ (h : Explores p text n ts o) : Explores p text (n + 1) ts o := by
  induction h with
  | done => exact .done
  | accept ha => exact .accept ha
  | outside ho _ ih => exact .outside ho ih
  | found hi hne _ ih => exact .found hi hne ih
  | failed hi hne _ _ ih₁ ih₂ => exact .failed hi hne ih₁ ih₂

theorem Explores.mono (h : Explores p text n ts o) (hle : n ≤ m) : Explores p text m ts o := by
  induction hle with
  | refl => exact h
  | step _ ih => exact ih.succ

/-- **Backtracking is deterministic**, whatever the depth. -/
theorem Explores.unique (h : Explores p text n ts o) (h' : Explores p text m ts o') :
    o = o' := by
  induction h generalizing m o' with
  | done => cases h'; rfl
  | accept ha =>
      cases h' with
      | accept => rfl
      | outside hn => simp [ha] at hn
      | found hi hne => exact absurd (Option.some.inj (hi.symm.trans ha)) hne
      | failed hi hne => exact absurd (Option.some.inj (hi.symm.trans ha)) hne
  | outside hn _ ih =>
      cases h' with
      | accept ha => simp [hn] at ha
      | outside _ h' => exact ih h'
      | found hi => simp [hn] at hi
      | failed hi => simp [hn] at hi
  | found hi hne _ ih =>
      cases h' with
      | accept ha => exact absurd (Option.some.inj (hi.symm.trans ha)) hne
      | outside hn => simp [hn] at hi
      | found hi' _ h' =>
          obtain rfl := Option.some.inj (hi.symm.trans hi')
          exact ih h'
      | failed hi' _ h' =>
          obtain rfl := Option.some.inj (hi.symm.trans hi')
          exact absurd (ih h') (by simp)
  | failed hi hne _ _ ih₁ ih₂ =>
      cases h' with
      | accept ha => exact absurd (Option.some.inj (hi.symm.trans ha)) hne
      | outside hn => simp [hn] at hi
      | found hi' _ h' =>
          obtain rfl := Option.some.inj (hi.symm.trans hi')
          exact absurd (ih₁ h') (by simp)
      | failed _ _ _ h' => exact ih₂ h'

/-- Threads after an accepting one are not followed. -/
theorem Explores.append_some (h : Explores p text n ts (some r)) (us : List Thread) :
    Explores p text n (ts ++ us) (some r) := by
  generalize ho : some r = o at h
  induction h with
  | done => simp at ho
  | accept ha => exact .accept ha
  | outside hn _ ih => exact .outside hn (ih ho)
  | found hi hne h => exact .found hi hne h
  | failed hi hne h _ _ ih => exact .failed hi hne h (ih ho)

/-- Threads after failing ones decide. -/
theorem Explores.append_none (h : Explores p text n ts none) (hu : Explores p text n us o) :
    Explores p text n (ts ++ us) o := by
  generalize ho : none = o' at h
  induction h with
  | done => exact hu
  | accept => simp at ho
  | outside hn _ ih => exact .outside hn (ih hu ho)
  | found => simp at ho
  | failed hi hne h _ _ ih => exact .failed hi hne h (ih hu ho)

/-- An exploration of two lists of threads ends in the first list or goes on to the second. -/
theorem Explores.append_inv (h : Explores p text n (ts ++ us) o) :
    (∃ r, o = some r ∧ Explores p text n ts (some r)) ∨
      (Explores p text n ts none ∧ Explores p text n us o) := by
  induction ts with
  | nil => exact Or.inr ⟨.done, h⟩
  | cons t ts ih =>
      cases h with
      | accept ha => exact Or.inl ⟨t, rfl, .accept ha⟩
      | outside hn h =>
          obtain ⟨r, rfl, hr⟩ | ⟨hnone, hu⟩ := ih h
          · exact Or.inl ⟨r, rfl, .outside hn hr⟩
          · exact Or.inr ⟨.outside hn hnone, hu⟩
      | found hi hne h => exact Or.inl ⟨_, rfl, .found hi hne h⟩
      | failed hi hne h hrest =>
          obtain ⟨r, rfl, hr⟩ | ⟨hnone, hu⟩ := ih hrest
          · exact Or.inl ⟨r, rfl, .failed hi hne h hr⟩
          · exact Or.inr ⟨.failed hi hne h hnone, hu⟩

/-- Backtracking through two lists of threads is backtracking through the first one, and
through the second one if that fails. -/
theorem finds_append_iff : Finds p text (ts ++ us) o ↔
    (∃ r, o = some r ∧ Finds p text ts (some r)) ∨
      (Finds p text ts none ∧ Finds p text us o) := by
  constructor
  · rintro ⟨n, h⟩
    obtain ⟨r, ho, hr⟩ | ⟨hnone, hu⟩ := h.append_inv
    · exact Or.inl ⟨r, ho, n, hr⟩
    · exact Or.inr ⟨⟨n, hnone⟩, n, hu⟩
  · rintro (⟨r, rfl, n, h⟩ | ⟨⟨n, hn⟩, m, hm⟩)
    · exact ⟨n, h.append_some us⟩
    · exact ⟨max n m, (hn.mono (Nat.le_max_left n m)).append_none (hm.mono (Nat.le_max_right n m))⟩

/-- A thread finds what the ways to go on from it find. -/
theorem finds_of_next (hi : p.insts[t.pc]? = some inst) (hne : inst ≠ .accept)
    (h : Finds p text (next text t inst) o) : Finds p text [t] o := by
  obtain ⟨n, h⟩ := h
  cases o with
  | none => exact ⟨n + 1, .failed hi hne h .done⟩
  | some r => exact ⟨n + 1, .found hi hne h⟩

/-- Threads find what their replacements find. -/
theorem finds_flatMap_mono {α : Type} {f g : α → List Thread} (l : List α)
    (hfg : ∀ x ∈ l, ∀ o, Finds p text (f x) o → Finds p text (g x) o)
    (h : Finds p text (l.flatMap f) o) : Finds p text (l.flatMap g) o := by
  induction l with
  | nil => exact h
  | cons x l ih =>
      rw [List.flatMap_cons, finds_append_iff] at h ⊢
      have hx := hfg x List.mem_cons_self
      obtain ⟨r, ho, hr⟩ | ⟨hnone, hu⟩ := h
      · exact Or.inl ⟨r, ho, hx _ hr⟩
      · exact Or.inr ⟨hx _ hnone, ih (fun y hy => hfg y (List.mem_cons_of_mem x hy)) hu⟩

/-! ### States -/

/-- Two threads at the same instruction and place. They may have noted different places. -/
def SameState (t u : Thread) : Prop := t.pc = u.pc ∧ t.pos = u.pos

theorem next_sameState (h : SameState t u) (inst : Inst) :
    List.Forall₂ SameState (next text t inst) (next text u inst) := by
  obtain ⟨hpc, hpos⟩ := h
  cases inst with
  | consume s =>
      simp only [next, hpos, hpc]
      cases text[u.pos]? with
      | none => exact .nil
      | some c => cases hc : s.has c <;> simp [hc, SameState]
  | look l =>
      simp only [next, hpos, hpc]
      cases l.holds (before text u.pos) text[u.pos]? <;> simp [SameState]
  | save slot => simp [next, SameState, hpos, hpc]
  | jump target => simp [next, SameState, hpos]
  | split first second => simp [next, SameState, hpos]
  | accept => exact .nil

/-- **Success depends on the states only**: threads in the same states are explored to the same
depth, and both accept or both fail. -/
theorem Explores.sameState (h : Explores p text n ts o) (hs : List.Forall₂ SameState ts us) :
    ∃ o', Explores p text n us o' ∧ (o = none ↔ o' = none) := by
  induction h generalizing us with
  | done =>
      cases hs
      exact ⟨none, .done, Iff.rfl⟩
  | accept ha =>
      cases hs with
      | cons hu _ => exact ⟨_, .accept (hu.1 ▸ ha), by simp⟩
  | outside hn _ ih =>
      cases hs with
      | cons hu hs =>
          obtain ⟨o', h', ho⟩ := ih hs
          exact ⟨o', .outside (hu.1 ▸ hn) h', ho⟩
  | @found n t ts inst r hi hne _ ih =>
      cases hs with
      | cons hu _ =>
          obtain ⟨o', h', ho⟩ := ih (next_sameState hu inst)
          cases o' with
          | none => exact absurd (ho.mpr rfl) (by simp)
          | some r' => exact ⟨some r', .found (hu.1 ▸ hi) hne h', by simp⟩
  | @failed n t ts inst o hi hne _ _ ih₁ ih₂ =>
      cases hs with
      | cons hu hs =>
          obtain ⟨o₁, h₁, ho₁⟩ := ih₁ (next_sameState hu inst)
          obtain ⟨o₂, h₂, ho₂⟩ := ih₂ hs
          obtain rfl := ho₁.mp rfl
          exact ⟨o₂, .failed (hu.1 ▸ hi) hne h₁ h₂, ho₂⟩

/-- A thread from which every way fails. -/
def Fails (p : Program) (text : Array Char) (t : Thread) : Prop := Finds p text [t] none

theorem Fails.sameState (h : Fails p text t) (hs : SameState t u) : Fails p text u := by
  obtain ⟨n, h⟩ := h
  obtain ⟨o', h', ho⟩ := h.sameState (.cons hs .nil)
  obtain rfl := ho.mp rfl
  exact ⟨n, h'⟩

/-- A thread whose instruction and place exist. -/
def InRange (p : Program) (text : Array Char) (t : Thread) : Prop :=
  t.pc < p.insts.size ∧ t.pos ≤ text.size

theorem pc_lt (h : p.insts[t.pc]? = some inst) : t.pc < p.insts.size :=
  (Array.getElem?_eq_some_iff.mp h).1

/-- Numbers tell the states of a program on a text apart. -/
theorem sameState_of_key_eq (ht : InRange p text t) (hu : InRange p text u)
    (h : p.key t = p.key u) : SameState t u := by
  unfold key at h
  have hmod := congrArg (· % p.insts.size) h
  have hdiv := congrArg (· / p.insts.size) h
  have hpos : 0 < p.insts.size := Nat.lt_of_le_of_lt (Nat.zero_le _) ht.1
  simp only [Nat.mul_comm _ p.insts.size, Nat.mul_add_mod, Nat.mod_eq_of_lt ht.1,
    Nat.mod_eq_of_lt hu.1] at hmod
  simp only [Nat.mul_comm _ p.insts.size, Nat.mul_add_div hpos, Nat.div_eq_of_lt ht.1,
    Nat.div_eq_of_lt hu.1, Nat.add_zero] at hdiv
  exact ⟨hmod, hdiv⟩

/-- How many states a program has on a text. -/
def states (p : Program) (text : Array Char) : Nat := p.insts.size * (text.size + 1)

theorem key_lt_states (ht : InRange p text t) : p.key t < p.states text := by
  obtain ⟨hpc, hpos⟩ := ht
  calc p.key t = t.pos * p.insts.size + t.pc := rfl
    _ < t.pos * p.insts.size + p.insts.size := Nat.add_lt_add_left hpc _
    _ = p.insts.size * (t.pos + 1) := by rw [Nat.mul_add, Nat.mul_one, Nat.mul_comm]
    _ ≤ p.states text := Nat.mul_le_mul_left _ (by omega)

/-- Where a step leads: on in the text by one character or not at all, and on in the program by one
instruction or to an address that the instruction names. -/
theorem next_inv (h : u ∈ next text t inst) :
    (u.pos = t.pos ∨ u.pos = t.pos + 1 ∧ t.pos < text.size) ∧
      (u.pc = t.pc + 1 ∨ u.pc ∈ inst.targets) := by
  cases inst with
  | consume s =>
      simp only [next] at h
      cases hc : text[t.pos]? with
      | none => simp [hc] at h
      | some c =>
          have hlt : t.pos < text.size := (Array.getElem?_eq_some_iff.mp hc).1
          simp only [hc] at h
          split at h
          · rw [List.mem_singleton.mp h]
            exact ⟨Or.inr ⟨rfl, hlt⟩, Or.inl rfl⟩
          · exact absurd h List.not_mem_nil
  | look l =>
      simp only [next] at h
      split at h
      · rw [List.mem_singleton.mp h]
        exact ⟨Or.inl rfl, Or.inl rfl⟩
      · exact absurd h List.not_mem_nil
  | save slot =>
      rw [List.mem_singleton.mp h]
      exact ⟨Or.inl rfl, Or.inl rfl⟩
  | jump target =>
      rw [List.mem_singleton.mp h]
      exact ⟨Or.inl rfl, Or.inr (List.mem_singleton_self target)⟩
  | split first second =>
      obtain rfl | h := List.mem_cons.mp h
      · exact ⟨Or.inl rfl, Or.inr List.mem_cons_self⟩
      · rw [List.mem_singleton.mp h]
        exact ⟨Or.inl rfl, Or.inr (List.mem_cons_of_mem first (List.mem_singleton_self second))⟩
  | accept => exact absurd h List.not_mem_nil

/-- Going on from a place inside the text leads to places inside the text. -/
theorem pos_le_of_mem_next (ht : t.pos ≤ text.size) (h : u ∈ next text t inst) :
    u.pos ≤ text.size := by
  obtain ⟨heq | ⟨heq, hlt⟩, -⟩ := next_inv h
  · exact heq ▸ ht
  · exact heq ▸ hlt

/-- No way to go on leads back in the text. -/
theorem le_pos_of_mem_next (h : u ∈ next text t inst) : t.pos ≤ u.pos := by
  obtain ⟨heq | ⟨heq, -⟩, -⟩ := next_inv h
  · exact Nat.le_of_eq heq.symm
  · exact heq ▸ Nat.le_succ t.pos

theorem length_next_le (text : Array Char) (t : Thread) (inst : Inst) :
    (next text t inst).length ≤ 2 := by
  cases inst with
  | consume s =>
      simp only [next]
      cases text[t.pos]? with
      | none => simp
      | some c => cases hc : s.has c <;> simp [hc]
  | look l => cases hl : l.holds (before text t.pos) text[t.pos]? <;> simp [next, hl]
  | save _ | jump _ | split _ _ | accept => simp [next]

/-! ### The memory -/

/-- The invariant of the memory at a depth: a remembered state fails, or it is still being
explored and needs more depth than there is. -/
def Sound (p : Program) (text : Array Char) (n : Nat) (visited : Std.HashSet Nat) : Prop :=
  ∀ t, InRange p text t → p.key t ∈ visited → Fails p text t ∨ ∀ o, ¬ Explores p text n [t] o

/-- Less depth is too little for more states. -/
theorem Sound.pred {visited : Std.HashSet Nat} (h : Sound p text (n + 1) visited) :
    Sound p text n visited := by
  intro t ht hmem
  obtain hf | hdeep := h t ht hmem
  · exact Or.inl hf
  · exact Or.inr fun o ho => hdeep o ho.succ

/-- A state that is being explored, and cannot be explored in less depth, may be remembered
while the ways to go on from it are explored. -/
theorem Sound.insert {visited : Std.HashSet Nat} (h : Sound p text (n + 1) visited)
    (ht : InRange p text t) (hdeep : ∀ o, ¬ Explores p text n [t] o) :
    Sound p text n (visited.insert (p.key t)) := by
  intro u hu hmem
  obtain heq | hmem := by simpa using hmem
  · refine Or.inr fun o ho => ?_
    obtain ⟨o', h', -⟩ := ho.sameState (.cons (sameState_of_key_eq hu ht heq.symm) .nil)
    exact hdeep o' h'
  · exact h.pred u hu hmem

/-- How many states are not remembered. -/
def room (p : Program) (text : Array Char) (visited : Std.HashSet Nat) : Nat :=
  ((Finset.range (p.states text)).filter fun k => k ∉ visited).card

theorem room_le_states (p : Program) (text : Array Char) (visited : Std.HashSet Nat) :
    room p text visited ≤ p.states text := by
  have := Finset.card_filter_le (Finset.range (p.states text)) fun k => k ∉ visited
  rwa [Finset.card_range] at this

/-- Remembering a new state takes room. -/
theorem room_insert_lt {visited : Std.HashSet Nat} (ht : InRange p text t)
    (hnew : p.key t ∉ visited) : room p text (visited.insert (p.key t)) < room p text visited := by
  refine Finset.card_lt_card (Finset.ssubset_iff_subset_ne.mpr ⟨?_, ?_⟩)
  · intro k hk
    simp only [Finset.mem_filter, Std.HashSet.mem_insert, not_or] at hk ⊢
    exact ⟨hk.1, hk.2.2⟩
  · intro heq
    have hmem : p.key t ∈ (Finset.range (p.states text)).filter fun k => k ∉ visited :=
      Finset.mem_filter.mpr ⟨Finset.mem_range.mpr (key_lt_states ht), hnew⟩
    rw [← heq] at hmem
    simp at hmem

/-- Some threads have been followed without success: what is left to do is `rest`, and the
memory has grown by failing states only. -/
structure Dropped (p : Program) (text : Array Char) (budget : Nat) (visited : Std.HashSet Nat)
    (ts rest : List Thread) (budget' : Nat) (visited' : Std.HashSet Nat) : Prop where
  /-- The search goes on with the rest. -/
  run_eq : run p text budget visited (ts ++ rest) = run p text budget' visited' rest
  /-- The budget is large enough for the rest. -/
  enough : 2 * room p text visited' + rest.length < budget'
  /-- What is new in the memory fails. -/
  new : ∀ t, InRange p text t → p.key t ∈ visited' → p.key t ∈ visited ∨ Fails p text t

theorem Dropped.sound {budget budget' : Nat} {visited visited' : Std.HashSet Nat}
    {rest : List Thread} (h : Dropped p text budget visited ts rest budget' visited')
    (hs : Sound p text n visited) : Sound p text n visited' := by
  intro t ht hmem
  obtain hold | hf := h.new t ht hmem
  · exact hs t ht hold
  · exact Or.inl hf

/-- What the search does with the first threads, when plain backtracking through them ends with
`o`: it answers with `o`, or it drops them. -/
def Agrees (p : Program) (text : Array Char) (n : Nat) (ts : List Thread) (o : Option Thread) :
    Prop :=
  ∀ (budget : Nat) (visited : Std.HashSet Nat) (rest : List Thread),
    Sound p text n visited → 2 * room p text visited + (ts ++ rest).length < budget →
    match o with
    | some r => run p text budget visited (ts ++ rest) = some r
    | none => ∃ budget' visited', Dropped p text budget visited ts rest budget' visited'

/-- Agreement on each of some threads is agreement on all of them. -/
theorem agrees_of_forall (hts : ∀ t ∈ ts, ∀ o, Explores p text n [t] o → Agrees p text n [t] o)
    (h : Explores p text n ts o) : Agrees p text n ts o := by
  induction ts generalizing o with
  | nil =>
      cases h
      intro budget visited rest _ hb
      exact ⟨budget, visited, rfl, by simpa using hb, fun _ _ hmem => Or.inl hmem⟩
  | cons t ts ih =>
      intro budget visited rest hs hb
      have ht := hts t List.mem_cons_self
      have htail := fun o => ih (o := o) fun u hu => hts u (List.mem_cons_of_mem t hu)
      rw [← List.singleton_append] at h
      obtain ⟨r, rfl, hr⟩ | ⟨hnone, hrest⟩ := h.append_inv
      · exact ht _ hr budget visited (ts ++ rest) hs (by simpa using hb)
      · obtain ⟨budget₁, visited₁, hdrop⟩ :=
          ht _ hnone budget visited (ts ++ rest) hs (by simpa using hb)
        have hgo := htail o hrest budget₁ visited₁ rest (hdrop.sound hs) hdrop.enough
        have hrun : run p text budget visited (t :: ts ++ rest) =
            run p text budget₁ visited₁ (ts ++ rest) := by simpa using hdrop.run_eq
        cases o with
        | some r => exact hrun.trans hgo
        | none =>
            obtain ⟨budget₂, visited₂, hdrop₂⟩ := hgo
            refine ⟨budget₂, visited₂, hrun.trans hdrop₂.run_eq, hdrop₂.enough, ?_⟩
            intro u hu hmem
            obtain hmem | hf := hdrop₂.new u hu hmem
            · exact hdrop.new u hu hmem
            · exact Or.inr hf

/-- An accepting thread is never remembered, and ends the search. -/
theorem agrees_of_accept (ht : InRange p text t) (ha : p.insts[t.pc]? = some .accept) :
    Agrees p text n [t] (some t) := by
  intro budget visited rest hs hb
  obtain ⟨b, rfl⟩ : ∃ b, budget = b + 1 := ⟨budget - 1, by omega⟩
  have hself : Explores p text n [t] (some t) := .accept ha
  have hnew : p.key t ∉ visited := by
    intro hmem
    obtain ⟨m, hf⟩ | hdeep := hs t ht hmem
    · exact absurd (hself.unique hf) (by simp)
    · exact hdeep _ hself
  simp [run, hnew, ha]

/-- A thread outside the program is dropped. -/
theorem agrees_of_outside (hn : p.insts[t.pc]? = none) : Agrees p text n [t] none := by
  intro budget visited rest _ hb
  obtain ⟨b, rfl⟩ : ∃ b, budget = b + 1 := ⟨budget - 1, by omega⟩
  refine ⟨b, visited, ?_, ?_, fun _ _ hmem => Or.inl hmem⟩
  · by_cases hmem : p.key t ∈ visited <;> simp [run, hmem, hn]
  · simp only [List.cons_append, List.nil_append, List.length_cons] at hb
    omega

/-- **A step of the search**: if the ways to go on agree with plain backtracking, and the thread
itself does when less depth suffices for it, then it agrees. -/
theorem agrees_of_next (ht : InRange p text t) (hi : p.insts[t.pc]? = some inst)
    (hne : inst ≠ .accept) (hnext : Agrees p text n (next text t inst) o)
    (hself : ∀ o, Explores p text n [t] o → Agrees p text n [t] o)
    (h : Explores p text n (next text t inst) o) : Agrees p text (n + 1) [t] o := by
  have hfull : Explores p text (n + 1) [t] o := by
    cases o with
    | none => exact .failed hi hne h .done
    | some r => exact .found hi hne h
  intro budget visited rest hs hb
  obtain ⟨b, rfl⟩ : ∃ b, budget = b + 1 := ⟨budget - 1, by omega⟩
  by_cases hmem : p.key t ∈ visited
  · -- the state is remembered and, being explored in this depth, fails
    obtain ⟨m, hf⟩ : Fails p text t := (hs t ht hmem).resolve_right fun hdeep => hdeep _ hfull
    obtain rfl := hfull.unique hf
    refine ⟨b, visited, by simp [run, hmem], ?_, fun _ _ hmem => Or.inl hmem⟩
    simp only [List.cons_append, List.nil_append, List.length_cons] at hb
    omega
  by_cases hless : ∃ o', Explores p text n [t] o'
  · obtain ⟨o', h'⟩ := hless
    obtain rfl := h'.unique hfull
    exact hself _ h' (b + 1) visited rest hs.pred hb
  have hdeep : ∀ o, ¬ Explores p text n [t] o := fun o ho => hless ⟨o, ho⟩
  have hrun : run p text (b + 1) visited ([t] ++ rest) =
      run p text b (visited.insert (p.key t)) (next text t inst ++ rest) := by
    simp [run, hmem, hi]
  have hlt := room_insert_lt ht hmem
  have hlen := length_next_le text t inst
  have hgo := hnext b _ rest (hs.insert ht hdeep) (by
    simp only [List.cons_append, List.nil_append, List.length_cons, List.length_append]
      at hb ⊢
    omega)
  cases o with
  | some r => exact hrun.trans hgo
  | none =>
      obtain ⟨budget', visited', hdrop⟩ := hgo
      refine ⟨budget', visited', hrun.trans hdrop.run_eq, hdrop.enough, fun u hu hmem' => ?_⟩
      obtain hins | hf := hdrop.new u hu hmem'
      · obtain heq | hold := by simpa using hins
        · exact Or.inr (Fails.sameState ⟨_, hfull⟩ (sameState_of_key_eq ht hu heq))
        · exact Or.inl hold
      · exact Or.inr hf

/-- **The search with memory agrees with plain backtracking** on threads inside the text. -/
theorem Explores.agrees (h : Explores p text n ts o) (hts : ∀ t ∈ ts, t.pos ≤ text.size) :
    Agrees p text n ts o := by
  induction n generalizing ts o with
  | zero =>
      refine agrees_of_forall (fun t ht o h => ?_) h
      cases h with
      | accept ha => exact agrees_of_accept ⟨pc_lt ha, hts t ht⟩ ha
      | outside hn h =>
          cases h
          exact agrees_of_outside hn
  | succ n ih =>
      refine agrees_of_forall (fun t ht o h => ?_) h
      have hself := fun o (h : Explores p text n [t] o) => ih h (by simpa using hts t ht)
      have hnext := fun inst o (h : Explores p text n (next text t inst) o) =>
        ih h fun u hu => pos_le_of_mem_next (hts t ht) hu
      cases h with
      | accept ha => exact agrees_of_accept ⟨pc_lt ha, hts t ht⟩ ha
      | outside hn h =>
          cases h
          exact agrees_of_outside hn
      | found hi hne h => exact agrees_of_next ⟨pc_lt hi, hts t ht⟩ hi hne (hnext _ _ h) hself h
      | failed hi hne h hdone =>
          cases hdone
          exact agrees_of_next ⟨pc_lt hi, hts t ht⟩ hi hne (hnext _ _ h) hself h

/-- **A search without memory finds what plain backtracking finds.** -/
theorem run_eq_of_finds (ht : t.pos ≤ text.size) (h : Finds p text [t] o) :
    run p text (p.budget text) {} [t] = o := by
  obtain ⟨n, h⟩ := h
  have hsound : Sound p text n ∅ := fun t _ hmem => absurd hmem (by simp)
  have hroom := room_le_states p text ∅
  have hbudget : 2 * room p text ∅ + ([t] ++ []).length < p.budget text := by
    have hstates : p.states text ≤ (p.insts.size + 1) * (text.size + 1) :=
      Nat.mul_le_mul_right _ (Nat.le_succ _)
    simp only [List.append_nil, List.length_singleton, budget, Nat.mul_assoc]
    omega
  have hagrees := h.agrees (by simpa using ht) _ ∅ [] hsound hbudget
  cases o with
  | some r => exact hagrees
  | none =>
      obtain ⟨budget', visited', hdrop⟩ := hagrees
      have hpos : 0 < budget' := Nat.lt_of_le_of_lt (Nat.zero_le _) hdrop.enough
      obtain ⟨b, rfl⟩ : ∃ b, budget' = b + 1 := ⟨budget' - 1, by omega⟩
      have hrun := hdrop.run_eq
      rw [List.append_nil, run] at hrun
      exact hrun

/-- **The search finds what plain backtracking finds.** -/
theorem search?_eq {start : Nat} (hstart : start ≤ text.size)
    (h : Finds p text [⟨0, start, []⟩] o) : p.search? text start = o :=
  run_eq_of_finds (t := ⟨0, start, []⟩) hstart h

end Program

end LintVerdict.Pattern
