import LintVerdict.Proofs.FirstError
import LintVerdict.Proofs.Pattern.Explore

/-!
# Threads that lead to a match

Plain backtracking need not end: a loop may pass without a character for ever. The search with
memory always ends, and this file says what it finds without asking whether backtracking ends.

A thread lives if some way from it comes to the end of the program. Where no way does, the search
goes through everything behind the thread and finds nothing, so neither such a thread nor what
the memory holds of it matters. Two searches whose living threads are the same, and whose
memories hold the same living states, therefore find the same.

## Main definitions

* `Program.Leads`: a thread goes on to an accepting one in a number of steps.
* `Program.Lives`: a thread goes on to some accepting one.
* `Program.Enough`: a budget suffices for what is left to do.
* `Program.Closed`: whatever follows a remembered state is remembered or waits.

## Main results

* `Program.leads_of_run`: what a search finds is where one of its threads leads.
* `Program.not_lives_of_run_eq_none`: a search without memory that finds nothing has no living
  thread.
* `Program.run_congr`: searches that differ in dead threads and dead states find the same.
-/

namespace LintVerdict.Pattern

namespace Program

variable {p : Program} {text : Array Char} {n b c : Nat} {t u v r : Thread}
  {ts us vs : List Thread} {inst : Inst} {V W : Std.HashSet Nat}

/-- A thread goes on to an accepting one in a number of steps. -/
inductive Leads (p : Program) (text : Array Char) : Nat → Thread → Thread → Prop
  /-- The thread accepts. -/
  | accept {t : Thread} : p.insts[t.pc]? = some .accept → Leads p text 0 t t
  /-- The thread goes on in one of its ways. -/
  | step {n : Nat} {t u r : Thread} {inst : Inst} :
      p.insts[t.pc]? = some inst → u ∈ next text t inst → Leads p text n u r →
      Leads p text (n + 1) t r

/-- A thread from which some way comes to the end of the program. -/
def Lives (p : Program) (text : Array Char) (t : Thread) : Prop := ∃ n r, Leads p text n t r

theorem Leads.lives (h : Leads p text n t r) : Lives p text t := ⟨n, r, h⟩

theorem Lives.of_accept (h : p.insts[t.pc]? = some .accept) : Lives p text t :=
  (Leads.accept h).lives

theorem Lives.of_next (hi : p.insts[t.pc]? = some inst) (hu : u ∈ next text t inst)
    (h : Lives p text u) : Lives p text t := by
  obtain ⟨n, r, h⟩ := h
  exact (Leads.step hi hu h).lives

/-- What stands at a thread's address says how it goes on. -/
theorem Leads.exists_next (h : Leads p text n t r) (hi : p.insts[t.pc]? = some inst)
    (hne : inst ≠ .accept) : ∃ m u, n = m + 1 ∧ u ∈ next text t inst ∧ Leads p text m u r := by
  cases h with
  | accept ha => exact absurd (Option.some.inj (hi.symm.trans ha)) hne
  | step hi' hu h =>
      obtain rfl := Option.some.inj (hi.symm.trans hi')
      exact ⟨_, _, rfl, hu, h⟩

/-- At the end of the program a thread leads to itself. -/
theorem Leads.eq_of_accept (h : Leads p text n t r) (ha : p.insts[t.pc]? = some .accept) :
    r = t := by
  cases h with
  | accept => rfl
  | step hi hu =>
      obtain rfl := Option.some.inj (ha.symm.trans hi)
      exact absurd hu List.not_mem_nil

theorem Lives.exists_inst (h : Lives p text t) : ∃ inst, p.insts[t.pc]? = some inst := by
  obtain ⟨n, r, h⟩ := h
  cases h with
  | accept ha => exact ⟨_, ha⟩
  | step hi => exact ⟨_, hi⟩

/-- Whether a thread lives depends on its state only. -/
theorem Lives.sameState (h : Lives p text t) (hs : SameState t u) : Lives p text u := by
  obtain ⟨n, r, h⟩ := h
  induction h generalizing u with
  | accept ha => exact .of_accept (hs.1 ▸ ha)
  | @step n t v r inst hi hv _ ih =>
      obtain ⟨w, hw, hvw⟩ := exists_of_forall₂_left (next_sameState hs inst) hv
      exact .of_next (hs.1 ▸ hi) hw (ih hvw)

/-! ### Steps of a search -/

/-- A budget that suffices for what is left to do: two threads for each state that is not
remembered, and those that wait. -/
def Enough (p : Program) (text : Array Char) (b : Nat) (V : Std.HashSet Nat)
    (ts : List Thread) : Prop :=
  2 * room p text V + ts.length < b

theorem Enough.pos (h : Enough p text b V ts) : ∃ b', b = b' + 1 := by
  rw [Enough] at h
  exact ⟨b - 1, by omega⟩

theorem Enough.tail (h : Enough p text (b + 1) V (t :: ts)) : Enough p text b V ts := by
  rw [Enough, List.length_cons] at h
  rw [Enough]
  omega

theorem Enough.next (h : Enough p text (b + 1) V (t :: ts)) (inst : Inst) (ht : InRange p text t)
    (hnew : p.key t ∉ V) : Enough p text b (V.insert (p.key t)) (next text t inst ++ ts) := by
  have hlt := room_insert_lt ht hnew
  have hlen := length_next_le text t inst
  rw [Enough, List.length_cons] at h
  rw [Enough, List.length_append]
  omega

/-- The budget of a search suffices for one thread. -/
theorem enough_budget (p : Program) (text : Array Char) (t : Thread) :
    Enough p text (p.budget text) {} [t] := by
  have hroom := room_le_states p text {}
  have hstates : p.states text ≤ (p.insts.size + 1) * (text.size + 1) :=
    Nat.mul_le_mul_right _ (Nat.le_succ _)
  rw [Enough, budget, Nat.mul_assoc, List.length_singleton]
  omega

theorem run_nil (b : Nat) : run p text b V [] = none := by
  cases b <;> rfl

theorem run_of_mem (h : p.key t ∈ V) : run p text (b + 1) V (t :: ts) = run p text b V ts := by
  simp [run, h]

theorem run_of_outside (h : p.insts[t.pc]? = none) :
    run p text (b + 1) V (t :: ts) = run p text b V ts := by
  by_cases hmem : p.key t ∈ V <;> simp [run, hmem, h]

theorem run_of_accept (hnew : p.key t ∉ V) (h : p.insts[t.pc]? = some .accept) :
    run p text (b + 1) V (t :: ts) = some t := by
  simp [run, hnew, h]

theorem run_of_next (hnew : p.key t ∉ V) (hi : p.insts[t.pc]? = some inst)
    (hne : inst ≠ .accept) :
    run p text (b + 1) V (t :: ts) =
      run p text b (V.insert (p.key t)) (next text t inst ++ ts) := by
  simp [run, hnew, hi]

/-- What a search does with a thread, whatever waits behind it: it drops the thread, ends with it,
or goes on from it. -/
theorem run_cases (p : Program) (text : Array Char) (V : Std.HashSet Nat) (t : Thread) :
    ((p.insts[t.pc]? = none ∨ p.key t ∈ V) ∧
        ∀ b ts, run p text (b + 1) V (t :: ts) = run p text b V ts) ∨
      (p.insts[t.pc]? = some .accept ∧ ∀ b ts, run p text (b + 1) V (t :: ts) = some t) ∨
      ∃ inst, (p.insts[t.pc]? = some inst ∧ inst ≠ .accept ∧ p.key t ∉ V) ∧
        ∀ b ts, run p text (b + 1) V (t :: ts) =
          run p text b (V.insert (p.key t)) (next text t inst ++ ts) := by
  by_cases hmem : p.key t ∈ V
  · exact Or.inl ⟨Or.inr hmem, fun _ _ => run_of_mem hmem⟩
  cases hi : p.insts[t.pc]? with
  | none => exact Or.inl ⟨Or.inl rfl, fun _ _ => run_of_outside hi⟩
  | some inst =>
      by_cases hacc : inst = .accept
      · subst hacc
        exact Or.inr (Or.inl ⟨rfl, fun _ _ => run_of_accept hmem hi⟩)
      · exact Or.inr (Or.inr ⟨inst, ⟨rfl, hacc, hmem⟩, fun _ _ => run_of_next hmem hi hacc⟩)

/-- **What a search finds** is where one of its threads leads. -/
theorem leads_of_run (h : run p text b V ts = some r) :
    ∃ t ∈ ts, ∃ n, Leads p text n t r := by
  induction b generalizing V ts with
  | zero => simp [run] at h
  | succ b ih =>
      cases ts with
      | nil => simp [run] at h
      | cons t ts =>
          obtain ⟨-, hrun⟩ | ⟨hi, hrun⟩ | ⟨inst, ⟨hi, -, -⟩, hrun⟩ := run_cases p text V t
          · rw [hrun] at h
            obtain ⟨u, hu, n, hn⟩ := ih h
            exact ⟨u, List.mem_cons_of_mem t hu, n, hn⟩
          · rw [hrun] at h
            obtain rfl := Option.some.inj h
            exact ⟨t, List.mem_cons_self, 0, .accept hi⟩
          · rw [hrun] at h
            obtain ⟨u, hu, n, hn⟩ := ih h
            obtain hu | hu := List.mem_append.mp hu
            · exact ⟨t, List.mem_cons_self, n + 1, .step hi hu hn⟩
            · exact ⟨u, List.mem_cons_of_mem t hu, n, hn⟩

/-- Threads that wait do not matter to a search that succeeds before. -/
theorem run_append (h : run p text b V ts = some r) (us : List Thread) :
    run p text b V (ts ++ us) = some r := by
  induction b generalizing V ts with
  | zero => simp [run] at h
  | succ b ih =>
      cases ts with
      | nil => simp [run] at h
      | cons t ts =>
          rw [List.cons_append]
          obtain ⟨-, hrun⟩ | ⟨-, hrun⟩ | ⟨inst, -, hrun⟩ := run_cases p text V t
          · rw [hrun] at h ⊢
            exact ih h
          · rw [hrun] at h ⊢
            exact h
          · rw [hrun] at h ⊢
            rw [← List.append_assoc]
            exact ih h

/-! ### A search that finds nothing -/

/-- A state that needs no further thread: it is outside the program, remembered, or waits. -/
def Settled (p : Program) (V : Std.HashSet Nat) (ts : List Thread) (u : Thread) : Prop :=
  p.insts[u.pc]? = none ∨ p.key u ∈ V ∨ ∃ t ∈ ts, SameState t u

/-- No remembered state accepts, and whatever follows one is settled. -/
def Closed (p : Program) (text : Array Char) (V : Std.HashSet Nat) (ts : List Thread) : Prop :=
  ∀ t, InRange p text t → p.key t ∈ V → ∀ inst, p.insts[t.pc]? = some inst →
    inst ≠ .accept ∧ ∀ u ∈ next text t inst, Settled p V ts u

theorem closed_empty (p : Program) (text : Array Char) (ts : List Thread) :
    Closed p text {} ts :=
  fun t _ hmem => absurd hmem (by simp)

theorem Closed.mono (h : Closed p text V ts) (hset : ∀ u, Settled p V ts u → Settled p V us u) :
    Closed p text V us :=
  fun t ht hmem inst hi => (h t ht hmem inst hi).imp_right fun hnext u hu => hset u (hnext u hu)

theorem key_eq_of_sameState (h : SameState t u) : p.key t = p.key u := by
  rw [key, key, h.1, h.2]

/-- A thread whose state is settled need not wait. -/
theorem Settled.tail (ht : p.insts[t.pc]? = none ∨ p.key t ∈ V)
    (h : Settled p V (t :: ts) u) : Settled p V ts u := by
  obtain h | h | ⟨v, hv, hs⟩ := h
  · exact Or.inl h
  · exact Or.inr (Or.inl h)
  obtain rfl | hv := List.mem_cons.mp hv
  · obtain ht | ht := ht
    · exact Or.inl (hs.1 ▸ ht)
    · exact Or.inr (Or.inl (key_eq_of_sameState hs ▸ ht))
  · exact Or.inr (Or.inr ⟨v, hv, hs⟩)

/-- A thread that is remembered gives way to those that follow it. -/
theorem Settled.next (h : Settled p V (t :: ts) u) :
    Settled p (V.insert (p.key t)) (vs ++ ts) u := by
  obtain h | h | ⟨v, hv, hs⟩ := h
  · exact Or.inl h
  · exact Or.inr (Or.inl (Std.HashSet.mem_insert.mpr (Or.inr h)))
  obtain rfl | hv := List.mem_cons.mp hv
  · exact Or.inr (Or.inl (by rw [key_eq_of_sameState hs]; exact Std.HashSet.mem_insert_self))
  · exact Or.inr (Or.inr ⟨v, List.mem_append_right _ hv, hs⟩)

theorem Closed.next (h : Closed p text V (t :: ts)) (ht : InRange p text t)
    (hi : p.insts[t.pc]? = some inst) (hne : inst ≠ .accept) :
    Closed p text (V.insert (p.key t)) (next text t inst ++ ts) := by
  intro u hu hmem inst' hi'
  obtain heq | hmem := Std.HashSet.mem_insert.mp hmem
  · -- the state itself: what follows it now waits
    have hs : SameState t u := sameState_of_key_eq ht hu (eq_of_beq heq)
    obtain rfl := Option.some.inj (hi.symm.trans (hs.1 ▸ hi'))
    refine ⟨hne, fun v hv => ?_⟩
    obtain ⟨w, hw, hvw⟩ := exists_of_forall₂_left (next_sameState ⟨hs.1.symm, hs.2.symm⟩ inst) hv
    exact Or.inr (Or.inr ⟨w, List.mem_append_left _ hw, hvw.1.symm, hvw.2.symm⟩)
  · obtain ⟨hne', hnext⟩ := h u hu hmem inst' hi'
    exact ⟨hne', fun v hv => (hnext v hv).next⟩

/-- A search that finds nothing ends with a memory in which everything is settled. -/
theorem exists_closed (hb : Enough p text b V ts) (hts : ∀ t ∈ ts, t.pos ≤ text.size)
    (hV : Closed p text V ts) (h : run p text b V ts = none) :
    ∃ W, Closed p text W [] ∧ ∀ u, Settled p V ts u → Settled p W [] u := by
  induction b generalizing V ts with
  | zero => exact absurd hb (Nat.not_lt_zero _)
  | succ b ih =>
      cases ts with
      | nil => exact ⟨V, hV, fun _ hu => hu⟩
      | cons t ts =>
          have hrest : ∀ u ∈ ts, u.pos ≤ text.size := fun u hu => hts u (List.mem_cons_of_mem t hu)
          obtain ⟨ht, hrun⟩ | ⟨-, hrun⟩ | ⟨inst, ⟨hi, hacc, hmem⟩, hrun⟩ := run_cases p text V t
          · rw [hrun] at h
            obtain ⟨W, hW, hset⟩ := ih hb.tail hrest (hV.mono fun _ hu => hu.tail ht) h
            exact ⟨W, hW, fun u hu => hset u (hu.tail ht)⟩
          · exact absurd ((hrun b ts).symm.trans h) (by simp)
          · have hpos := hts t List.mem_cons_self
            have ht : InRange p text t := ⟨pc_lt hi, hpos⟩
            have hnext : ∀ u ∈ next text t inst ++ ts, u.pos ≤ text.size :=
              List.forall_mem_append.mpr ⟨fun u hu => pos_le_of_mem_next hpos hu, hrest⟩
            rw [hrun] at h
            obtain ⟨W, hW, hset⟩ := ih (hb.next inst ht hmem) hnext (hV.next ht hi hacc) h
            exact ⟨W, hW, fun u hu => hset u hu.next⟩

/-- What is settled in a closed memory does not live. -/
theorem Closed.not_leads (hV : Closed p text V []) (ht : Settled p V [] t)
    (hpos : t.pos ≤ text.size) : ¬ Leads p text n t r := by
  intro h
  have hmem {t : Thread} (ht : Settled p V [] t) {inst : Inst} (hi : p.insts[t.pc]? = some inst) :
      p.key t ∈ V := by
    obtain hn | hmem | ⟨_, hv, _⟩ := ht
    · exact absurd (hn.symm.trans hi) (by simp)
    · exact hmem
    · exact absurd hv List.not_mem_nil
  induction h with
  | accept ha => exact (hV _ ⟨pc_lt ha, hpos⟩ (hmem ht ha) _ ha).1 rfl
  | step hi hu _ ih =>
      exact ih ((hV _ ⟨pc_lt hi, hpos⟩ (hmem ht hi) _ hi).2 _ hu) (pos_le_of_mem_next hpos hu)

/-- **A search without memory that finds nothing** has no living thread. -/
theorem not_lives_of_run_eq_none (hb : Enough p text b {} ts) (hts : ∀ t ∈ ts, t.pos ≤ text.size)
    (h : run p text b {} ts = none) (ht : t ∈ ts) : ¬ Lives p text t := by
  rintro ⟨n, r, hleads⟩
  obtain ⟨W, hW, hset⟩ := exists_closed hb hts (closed_empty p text ts) h
  exact hW.not_leads (hset t (Or.inr (Or.inr ⟨t, ht, rfl, rfl⟩))) (hts t ht) hleads

/-! ### Searches that differ in dead threads -/

/-- Two lists of threads that are the same but for dead threads. -/
inductive SameLives (p : Program) (text : Array Char) : List Thread → List Thread → Prop
  | nil : SameLives p text [] []
  /-- A dead thread in the first list. -/
  | left {t : Thread} {ts us : List Thread} :
      ¬ Lives p text t → SameLives p text ts us → SameLives p text (t :: ts) us
  /-- A dead thread in the second list. -/
  | right {u : Thread} {ts us : List Thread} :
      ¬ Lives p text u → SameLives p text ts us → SameLives p text ts (u :: us)
  /-- A thread in both lists. -/
  | both {t : Thread} {ts us : List Thread} :
      SameLives p text ts us → SameLives p text (t :: ts) (t :: us)

theorem SameLives.refl : ∀ ts, SameLives p text ts ts
  | [] => .nil
  | _ :: ts => .both (.refl ts)

theorem SameLives.append_left (h : SameLives p text ts us) (hvs : ∀ v ∈ vs, ¬ Lives p text v) :
    SameLives p text (vs ++ ts) us := by
  induction vs with
  | nil => exact h
  | cons v vs ih =>
      exact .left (hvs v List.mem_cons_self) (ih fun w hw => hvs w (List.mem_cons_of_mem v hw))

theorem SameLives.append_right (h : SameLives p text ts us) (hvs : ∀ v ∈ vs, ¬ Lives p text v) :
    SameLives p text ts (vs ++ us) := by
  induction vs with
  | nil => exact h
  | cons v vs ih =>
      exact .right (hvs v List.mem_cons_self) (ih fun w hw => hvs w (List.mem_cons_of_mem v hw))

theorem SameLives.append_both (h : SameLives p text ts us) (vs : List Thread) :
    SameLives p text (vs ++ ts) (vs ++ us) := by
  induction vs with
  | nil => exact h
  | cons v vs ih => exact .both ih

/-- A set of threads inside the text that no thread leaves. -/
structure Region (p : Program) (text : Array Char) (D : Thread → Prop) : Prop where
  /-- The threads are inside the text. -/
  pos_le : ∀ {t}, D t → t.pos ≤ text.size
  /-- What follows a thread is in the set. -/
  next : ∀ {t inst u}, D t → p.insts[t.pc]? = some inst → u ∈ next text t inst → D u

/-- Two memories that hold the same living states of a set. -/
def SameMemory (p : Program) (text : Array Char) (D : Thread → Prop) (V W : Std.HashSet Nat) :
    Prop :=
  ∀ t, D t → Lives p text t → (p.key t ∈ V ↔ p.key t ∈ W)

variable {D : Thread → Prop}

theorem SameMemory.refl (V : Std.HashSet Nat) : SameMemory p text D V V := fun _ _ _ => Iff.rfl

theorem SameMemory.symm (h : SameMemory p text D V W) : SameMemory p text D W V :=
  fun t ht hlives => (h t ht hlives).symm

theorem SameMemory.trans {U : Std.HashSet Nat} (h : SameMemory p text D U V)
    (h' : SameMemory p text D V W) : SameMemory p text D U W :=
  fun t ht hlives => (h t ht hlives).trans (h' t ht hlives)

theorem SameMemory.insert (h : SameMemory p text D V W) (k : Nat) :
    SameMemory p text D (V.insert k) (W.insert k) := by
  intro t ht hlives
  simp only [Std.HashSet.mem_insert, h t ht hlives]

/-- A search that is about to follow a dead thread is as good as one that has done so: what comes
instead of the thread is dead as well, and the memory has no more living states than before. -/
theorem exists_run_of_not_lives (hD : Region p text D) (hts : ∀ u ∈ t :: ts, D u)
    (hdead : ¬ Lives p text t) (hb : Enough p text (b + 1) V (t :: ts)) :
    ∃ V' vs, run p text (b + 1) V (t :: ts) = run p text b V' (vs ++ ts) ∧
      Enough p text b V' (vs ++ ts) ∧ (∀ u ∈ vs ++ ts, D u) ∧ (∀ v ∈ vs, ¬ Lives p text v) ∧
      SameMemory p text D V' V := by
  have hrest : ∀ u ∈ ts, D u := fun u hu => hts u (List.mem_cons_of_mem t hu)
  obtain ⟨-, hrun⟩ | ⟨hi, -⟩ | ⟨inst, ⟨hi, -, hmem⟩, hrun⟩ := run_cases p text V t
  · exact ⟨V, [], hrun b ts, hb.tail, hrest, List.forall_mem_nil _, .refl V⟩
  · exact absurd (.of_accept hi) hdead
  have ht : D t := hts t List.mem_cons_self
  have hrange : InRange p text t := ⟨pc_lt hi, hD.pos_le ht⟩
  refine ⟨V.insert (p.key t), Program.next text t inst, hrun b ts, hb.next inst hrange hmem,
    List.forall_mem_append.mpr ⟨fun u hu => hD.next ht hi hu, hrest⟩,
    fun v hv hlives => hdead (.of_next hi hv hlives), fun u hu hlives => ?_⟩
  -- a living state is not that of the dead thread
  rw [Std.HashSet.mem_insert]
  refine or_iff_right fun heq => ?_
  obtain ⟨inst', hi'⟩ := hlives.exists_inst
  have hs := sameState_of_key_eq ⟨pc_lt hi', hD.pos_le hu⟩ hrange (eq_of_beq heq).symm
  exact hdead (hlives.sameState hs)

/-- **Searches that differ in dead threads and dead states find the same.** The induction is on
the budgets of both searches together, since a dead thread is followed in one of them only. -/
theorem run_congr (hD : Region p text D) (h : SameLives p text ts us)
    (hts : ∀ t ∈ ts, D t) (hus : ∀ u ∈ us, D u) (hVW : SameMemory p text D V W)
    (hb : Enough p text b V ts) (hc : Enough p text c W us) :
    run p text b V ts = run p text c W us := by
  induction hk : b + c using Nat.strong_induction_on generalizing b c V W ts us with
  | _ k ih =>
      have hleft {t : Thread} {ts us : List Thread} (hdead : ¬ Lives p text t)
          (h : SameLives p text ts us) (hts : ∀ u ∈ t :: ts, D u) (hus : ∀ u ∈ us, D u)
          (hb : Enough p text b V (t :: ts)) (hc : Enough p text c W us) :
          run p text b V (t :: ts) = run p text c W us := by
        obtain ⟨b, rfl⟩ := hb.pos
        obtain ⟨V', vs, hrun, hb', hvs, hdeads, hV'⟩ := exists_run_of_not_lives hD hts hdead hb
        rw [hrun]
        exact ih _ (by omega) (h.append_left hdeads) hvs hus (hV'.trans hVW) hb' hc rfl
      cases h with
      | nil => rw [run_nil, run_nil]
      | left hdead h => exact hleft hdead h hts hus hb hc
      | right hdead h =>
          obtain ⟨c, rfl⟩ := hc.pos
          obtain ⟨W', vs, hrun, hc', hvs, hdeads, hW'⟩ := exists_run_of_not_lives hD hus hdead hc
          rw [hrun]
          exact ih _ (by omega) (h.append_right hdeads) hts hvs (hVW.trans hW'.symm) hb hc' rfl
      | @both t ts us h =>
          by_cases hlives : Lives p text t
          · have ht : D t := hts t List.mem_cons_self
            have hts' : ∀ u ∈ ts, D u := fun u hu => hts u (List.mem_cons_of_mem t hu)
            have hus' : ∀ u ∈ us, D u := fun u hu => hus u (List.mem_cons_of_mem t hu)
            obtain ⟨b, rfl⟩ := hb.pos
            obtain ⟨c, rfl⟩ := hc.pos
            by_cases hmem : p.key t ∈ V
            · rw [run_of_mem hmem, run_of_mem ((hVW t ht hlives).mp hmem)]
              exact ih _ (by omega) h hts' hus' hVW hb.tail hc.tail rfl
            have hmem' : p.key t ∉ W := fun hW => hmem ((hVW t ht hlives).mpr hW)
            obtain ⟨inst, hi⟩ := hlives.exists_inst
            by_cases hacc : inst = .accept
            · subst hacc
              rw [run_of_accept hmem hi, run_of_accept hmem' hi]
            have hrange : InRange p text t := ⟨pc_lt hi, hD.pos_le ht⟩
            have hin {vs : List Thread} (hvs : ∀ v ∈ vs, D v) :
                ∀ u ∈ Program.next text t inst ++ vs, D u :=
              List.forall_mem_append.mpr ⟨fun u hu => hD.next ht hi hu, hvs⟩
            rw [run_of_next hmem hi hacc, run_of_next hmem' hi hacc]
            exact ih _ (by omega) (h.append_both _) (hin hts') (hin hus') (hVW.insert _)
              (hb.next inst hrange hmem) (hc.next inst hrange hmem') rfl
          · exact hleft hlives (.right hlives h) hts hus hb hc

end Program

end LintVerdict.Pattern
