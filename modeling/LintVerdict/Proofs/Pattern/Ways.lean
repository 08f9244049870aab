import LintVerdict.Proofs.Pattern.Explore

/-!
# The ways through an expression

What an expression matches from a place on, said without a machine: the list of all ways
through it, the preferred one first. The program that an expression is laid out as finds the
first of these ways, provided that every loop of the expression takes a character in each pass.

## Main definitions

* `Way`, `Regex.ways`: the ways through an expression, in order of preference.
* `Regex.Follows`: a program at an address takes the ways of an expression.

## Main results

* `Regex.stop_of_mem_ways`: where ways may end.
* `Regex.follows_of_placed`: a laid out expression finds what its ways find.
* `Program.search?_ofRegex`: the search finds the first way through the searching expression.
-/

namespace LintVerdict.Pattern

/-- A way through an expression: where it ends, and the places that it notes by slot, the
latest first. -/
structure Way where
  /-- Where the way ends. -/
  stop : Nat
  /-- The noted places. -/
  saves : List (Nat × Nat)
  deriving DecidableEq, Repr

/-- One way and then another. -/
def Way.andThen (w v : Way) : Way := ⟨v.stop, v.saves ++ w.saves⟩

/-- The thread of a way that is about to go on at an address, with earlier noted places. -/
def Way.thread (pc : Nat) (saves : List (Nat × Nat)) (w : Way) : Thread :=
  ⟨pc, w.stop, w.saves ++ saves⟩

theorem Way.thread_andThen (pc : Nat) (saves : List (Nat × Nat)) (w v : Way) :
    (w.andThen v).thread pc saves = v.thread pc (w.saves ++ saves) := by
  simp [Way.thread, Way.andThen]

namespace Regex

/-- The ways through a loop whose passes are given by `pass`. A pass that takes a character may
be followed by further ones, which a greedy loop prefers to stopping. -/
def loopWays (greedy : Bool) (size : Nat) (pass : Nat → List Way) (i : Nat) : List Way :=
  (pass i).flatMap fun w =>
    if _h : i < w.stop ∧ w.stop ≤ size then
      let again := (loopWays greedy size pass w.stop).map w.andThen
      if greedy then again ++ [w] else w :: again
    else [w]
  termination_by size - i

/-- The ways through an expression from a place on, the preferred one first. -/
def ways (text : Array Char) : Regex → Nat → List Way
  | empty, i => [⟨i, []⟩]
  | chars s, i =>
    match text[i]? with
    | some c => if s.has c then [⟨i + 1, []⟩] else []
    | none => []
  | look l, i => if l.holds (Program.before text i) text[i]? then [⟨i, []⟩] else []
  | cat a b, i => (a.ways text i).flatMap fun w => (b.ways text w.stop).map w.andThen
  | alt a b, i => a.ways text i ++ b.ways text i
  | plus greedy a, i => loopWays greedy text.size (a.ways text) i
  | group n a, i =>
    (a.ways text i).map fun w => ⟨w.stop, (2 * n + 1, w.stop) :: (w.saves ++ [(2 * n, i)])⟩

/-- Whether every match of an expression takes a character. -/
def advances : Regex → Bool
  | empty => false
  | chars _ => true
  | look _ => false
  | cat a b => a.advances || b.advances
  | alt a b => a.advances && b.advances
  | plus _ a => a.advances
  | group _ a => a.advances

/-- Whether every pass of every loop takes a character. -/
def loopsAdvance : Regex → Bool
  | empty => true
  | chars _ => true
  | look _ => true
  | cat a b => a.loopsAdvance && b.loopsAdvance
  | alt a b => a.loopsAdvance && b.loopsAdvance
  | plus _ a => a.advances && a.loopsAdvance
  | group _ a => a.loopsAdvance

variable {text : Array Char} {r a b : Regex} {i : Nat} {w : Way} {p : Program}
  {o : Option Thread}

/-! ### Where ways end -/

/-- A way through a loop is a pass, or a pass that takes a character and a way after it. -/
theorem mem_loopWays_iff {greedy : Bool} {size : Nat} {pass : Nat → List Way} :
    w ∈ loopWays greedy size pass i ↔ ∃ v ∈ pass i, w = v ∨
      (i < v.stop ∧ v.stop ≤ size) ∧ ∃ u ∈ loopWays greedy size pass v.stop, v.andThen u = w := by
  rw [loopWays, List.mem_flatMap]
  refine exists_congr fun v => and_congr_right fun _ => ?_
  split
  · next hlt => cases greedy <;> simp [hlt, or_comm]
  · next hlt => simp [hlt]

/-- The ways through a loop go through its passes. -/
theorem loopWays_induction {greedy : Bool} {size : Nat} {pass : Nat → List Way}
    {P : Nat → Way → Prop} (one : ∀ {i w}, w ∈ pass i → P i w)
    (more : ∀ {i w v}, w ∈ pass i → i < w.stop → w.stop ≤ size → P w.stop v → P i (w.andThen v))
    (h : w ∈ loopWays greedy size pass i) : P i w := by
  induction hk : size - i using Nat.strong_induction_on generalizing i w with
  | _ k ih =>
      obtain ⟨v, hv, rfl | ⟨hlt, u, hu, rfl⟩⟩ := mem_loopWays_iff.mp h
      · exact one hv
      · exact more hv hlt.1 hlt.2 (ih _ (by omega) hu rfl)

/-- **A way ends** at its start or at a later place inside the text, and never at its start if
the expression always takes a character. -/
theorem stop_of_mem_ways (h : w ∈ r.ways text i) :
    (w.stop = i ∧ r.advances = false) ∨ (i < w.stop ∧ w.stop ≤ text.size) := by
  induction r generalizing i w with
  | empty =>
      rw [List.mem_singleton.mp h]
      exact Or.inl ⟨rfl, rfl⟩
  | chars s =>
      rw [ways] at h
      split at h
      · next c hc =>
        have hlt : i < text.size := (Array.getElem?_eq_some_iff.mp hc).1
        split at h
        · rw [List.mem_singleton.mp h]
          exact Or.inr ⟨Nat.lt_succ_self i, hlt⟩
        · simp at h
      · simp at h
  | look l =>
      rw [ways] at h
      split at h
      · rw [List.mem_singleton.mp h]
        exact Or.inl ⟨rfl, rfl⟩
      · simp at h
  | cat a b iha ihb =>
      rw [ways, List.mem_flatMap] at h
      obtain ⟨v, hv, hw⟩ := h
      obtain ⟨u, hu, rfl⟩ := List.mem_map.mp hw
      have ha := iha hv
      have hb := ihb hu
      simp only [Way.andThen, advances, Bool.or_eq_false_iff] at ha hb ⊢
      grind
  | alt a b iha ihb =>
      rw [ways, List.mem_append] at h
      simp only [advances, Bool.and_eq_false_iff]
      obtain h | h := h
      · have := iha h
        grind
      · have := ihb h
        grind
  | plus greedy a iha =>
      rw [ways] at h
      refine loopWays_induction
        (P := fun i w => (w.stop = i ∧ (plus greedy a).advances = false) ∨
          (i < w.stop ∧ w.stop ≤ text.size)) (fun hv => iha hv) ?_ h
      intro i w v _ hlt hle hv
      simp only [Way.andThen]
      omega
  | group n a iha =>
      rw [ways, List.mem_map] at h
      obtain ⟨v, hv, rfl⟩ := h
      simpa only [advances] using iha hv

/-- In a loop whose passes take a character, every pass may be followed by further ones. -/
theorem ways_plus (greedy : Bool) (ha : a.advances = true) :
    (plus greedy a).ways text i =
      (a.ways text i).flatMap fun w =>
        if greedy then ((plus greedy a).ways text w.stop).map w.andThen ++ [w]
        else w :: ((plus greedy a).ways text w.stop).map w.andThen := by
  rw [ways, loopWays]
  refine List.flatMap_congr fun w hw => ?_
  have hstop := stop_of_mem_ways hw
  rw [ha] at hstop
  rw [dif_pos (by simpa using hstop)]
  simp only [ways]

/-! ### The layout -/

@[simp] theorem length_code (r : Regex) (base : Nat) : (r.code base).length = r.size := by
  induction r generalizing base with
  | empty => rfl
  | chars s => rfl
  | look l => rfl
  | cat a b iha ihb => simp [code, size, iha, ihb]
  | alt a b iha ihb =>
      simp [code, size, iha, ihb]
      omega
  | plus greedy a iha => simp [code, size, iha]
  | group n a iha => simp [code, size, iha]

/-- Instructions that stand in a program from an address on. -/
def Placed (p : Program) (base : Nat) (code : List Inst) : Prop :=
  ∀ k, k < code.length → p.insts[base + k]? = code[k]?

theorem Placed.left {base : Nat} {c d : List Inst} (h : Placed p base (c ++ d)) :
    Placed p base c := by
  intro k hk
  rw [h k (by rw [List.length_append]; omega), List.getElem?_append_left hk]

theorem Placed.right {base : Nat} {c d : List Inst} (h : Placed p base (c ++ d)) :
    Placed p (base + c.length) d := by
  intro k hk
  have hat := h (c.length + k) (by rw [List.length_append]; omega)
  rw [← Nat.add_assoc] at hat
  rw [hat, List.getElem?_append_right (Nat.le_add_right _ _), Nat.add_sub_cancel_left]

theorem Placed.head {base : Nat} {inst : Inst} {c : List Inst} (h : Placed p base (inst :: c)) :
    p.insts[base]? = some inst := by
  simpa using h 0 (by simp)

theorem Placed.tail {base : Nat} {inst : Inst} {c : List Inst} (h : Placed p base (inst :: c)) :
    Placed p (base + 1) c :=
  Placed.right (c := [inst]) h

-- Where the parts of a laid out expression stand.
section Parts

variable {base : Nat}

theorem Placed.cat (h : Placed p base ((Regex.cat a b).code base)) :
    Placed p base (a.code base) ∧ Placed p (base + a.size) (b.code (base + a.size)) := by
  rw [code] at h
  have hb := h.right
  rw [length_code] at hb
  exact ⟨h.left, hb⟩

theorem Placed.alt (h : Placed p base ((Regex.alt a b).code base)) :
    p.insts[base]? = some (.split (base + 1) (base + a.size + 2)) ∧
      Placed p (base + 1) (a.code (base + 1)) ∧
      p.insts[base + 1 + a.size]? = some (.jump (base + a.size + b.size + 2)) ∧
      Placed p (base + a.size + 2) (b.code (base + a.size + 2)) := by
  rw [code] at h
  have hjump := h.tail.right
  have hb := hjump.tail
  rw [length_code] at hjump hb
  rw [Nat.add_right_comm base 1] at hb
  exact ⟨h.head, h.tail.left, hjump.head, hb⟩

theorem Placed.plus {greedy : Bool} (h : Placed p base ((Regex.plus greedy a).code base)) :
    Placed p base (a.code base) ∧ p.insts[base + a.size]? = some
      (if greedy then .split base (base + a.size + 1) else .split (base + a.size + 1) base) := by
  rw [code] at h
  have hsplit := h.right.head
  rw [length_code] at hsplit
  exact ⟨h.left, hsplit⟩

theorem Placed.group {n : Nat} (h : Placed p base ((Regex.group n a).code base)) :
    p.insts[base]? = some (.save (2 * n)) ∧ Placed p (base + 1) (a.code (base + 1)) ∧
      p.insts[base + 1 + a.size]? = some (.save (2 * n + 1)) := by
  rw [code] at h
  have hclose := h.tail.right.head
  rw [length_code] at hclose
  exact ⟨h.head, h.tail.left, hclose⟩

end Parts

/-! ### The threads of the ways -/

/-- A program follows an expression at an address: a thread there may be replaced by the threads
of its ways behind it. -/
def Follows (p : Program) (text : Array Char) (r : Regex) (base : Nat) : Prop :=
  ∀ (i : Nat) (saves : List (Nat × Nat)) (o : Option Thread),
    Program.Finds p text ((r.ways text i).map (Way.thread (base + r.size) saves)) o →
      Program.Finds p text [⟨base, i, saves⟩] o

variable {base : Nat}

theorem follows_chars {s : CharSet} (hp : p.insts[base]? = some (.consume s)) :
    Follows p text (chars s) base := by
  intro i saves o h
  refine Program.finds_of_next hp (by simp) ?_
  rw [ways] at h
  rw [Program.next]
  cases hc : text[i]? with
  | none => simpa [hc] using h
  | some c => cases hs : s.has c <;> simpa [hc, hs, Way.thread, size] using h

theorem follows_look {l : Look} (hp : p.insts[base]? = some (.look l)) :
    Follows p text (look l) base := by
  intro i saves o h
  refine Program.finds_of_next hp (by simp) ?_
  rw [ways] at h
  rw [Program.next]
  cases hl : l.holds (Program.before text i) text[i]? <;>
    simpa [hl, Way.thread, size] using h

theorem Follows.cat (ha : Follows p text a base) (hb : Follows p text b (base + a.size)) :
    Follows p text (Regex.cat a b) base := by
  intro i saves o h
  refine ha i saves o ?_
  rw [List.map_eq_flatMap]
  rw [ways, List.map_flatMap] at h
  refine Program.finds_flatMap_mono _ (fun w _ o hw => ?_) h
  refine hb w.stop (w.saves ++ saves) o ?_
  simpa [Way.thread_andThen, size, Function.comp_def, Nat.add_assoc] using hw

/-- The first alternative ends at the jump over the second one. -/
theorem Follows.alt (hsplit : p.insts[base]? = some (.split (base + 1) (base + a.size + 2)))
    (ha : Follows p text a (base + 1))
    (hjump : p.insts[base + 1 + a.size]? = some (.jump (base + a.size + b.size + 2)))
    (hb : Follows p text b (base + a.size + 2)) : Follows p text (Regex.alt a b) base := by
  intro i saves o h
  refine Program.finds_of_next hsplit (by simp) ?_
  rw [Program.next, ← List.singleton_append, Program.finds_append_iff]
  rw [ways, List.map_append, Program.finds_append_iff] at h
  have hleft : ∀ o, Program.Finds p text
      ((a.ways text i).map (Way.thread (base + (Regex.alt a b).size) saves)) o →
      Program.Finds p text [⟨base + 1, i, saves⟩] o := by
    intro o ho
    refine ha i saves o ?_
    rw [List.map_eq_flatMap] at ho ⊢
    refine Program.finds_flatMap_mono _ (fun w _ o hw => ?_) ho
    have hat : p.insts[(w.thread (base + 1 + a.size) saves).pc]? =
        some (.jump (base + a.size + b.size + 2)) := hjump
    refine Program.finds_of_next hat (by simp) ?_
    simpa [Way.thread, Program.next, size, Nat.add_assoc] using hw
  have hright : ∀ o, Program.Finds p text
      ((b.ways text i).map (Way.thread (base + (Regex.alt a b).size) saves)) o →
      Program.Finds p text [⟨base + a.size + 2, i, saves⟩] o := by
    intro o ho
    refine hb i saves o ?_
    simpa [size, Nat.add_assoc, Nat.add_comm, Nat.add_left_comm] using ho
  obtain ⟨t, ht, hfound⟩ | ⟨hnone, hrest⟩ := h
  · exact Or.inl ⟨t, ht, hleft _ hfound⟩
  · exact Or.inr ⟨hleft _ hnone, hright _ hrest⟩

/-- Every pass of a loop takes a character, so the text that is left shrinks. -/
theorem Follows.plus {greedy : Bool} (hadv : a.advances = true) (ha : Follows p text a base)
    (hsplit : p.insts[base + a.size]? = some
      (if greedy then .split base (base + a.size + 1) else .split (base + a.size + 1) base)) :
    Follows p text (Regex.plus greedy a) base := by
  intro i saves o h
  induction hk : text.size - i using Nat.strong_induction_on generalizing i saves o with
  | _ k ih =>
      refine ha i saves o ?_
      rw [ways_plus greedy hadv, List.map_flatMap] at h
      rw [List.map_eq_flatMap]
      refine Program.finds_flatMap_mono _ (fun w hw o ho => ?_) h
      have hstop : i < w.stop ∧ w.stop ≤ text.size := by
        simpa [hadv] using stop_of_mem_ways hw
      have hagain : ∀ o, Program.Finds p text (((Regex.plus greedy a).ways text w.stop).map
          (Way.thread (base + (Regex.plus greedy a).size) (w.saves ++ saves))) o →
          Program.Finds p text [⟨base, w.stop, w.saves ++ saves⟩] o :=
        fun o ho => ih (text.size - w.stop) (by omega) w.stop (w.saves ++ saves) o ho rfl
      refine Program.finds_of_next hsplit (by cases greedy <;> simp) ?_
      have hw : w.thread (base + (Regex.plus greedy a).size) saves =
          ⟨base + a.size + 1, w.stop, w.saves ++ saves⟩ := rfl
      cases greedy with
      | true =>
          simp only [if_true, List.map_append, List.map_map, Function.comp_def,
            Way.thread_andThen, List.map_cons, List.map_nil] at ho
          rw [Program.finds_append_iff] at ho
          rw [if_pos rfl, Program.next, ← List.singleton_append, Program.finds_append_iff]
          obtain ⟨t, ht, hfound⟩ | ⟨hnone, hlast⟩ := ho
          · exact Or.inl ⟨t, ht, hagain _ hfound⟩
          · exact Or.inr ⟨hagain _ hnone, hw ▸ hlast⟩
      | false =>
          simp only [Bool.false_eq_true, if_false, List.map_cons, List.map_map,
            Function.comp_def, Way.thread_andThen] at ho
          rw [← List.singleton_append, Program.finds_append_iff] at ho
          rw [if_neg (by simp), Program.next, ← List.singleton_append,
            Program.finds_append_iff]
          obtain ⟨t, ht, hfound⟩ | ⟨hnone, hmore⟩ := ho
          · exact Or.inl ⟨t, ht, hw ▸ hfound⟩
          · exact Or.inr ⟨hw ▸ hnone, hagain _ hmore⟩

theorem Follows.group {n : Nat} (hopen : p.insts[base]? = some (.save (2 * n)))
    (ha : Follows p text a (base + 1))
    (hclose : p.insts[base + 1 + a.size]? = some (.save (2 * n + 1))) :
    Follows p text (Regex.group n a) base := by
  intro i saves o h
  refine Program.finds_of_next hopen (by simp) ?_
  rw [Program.next]
  refine ha i ((2 * n, i) :: saves) o ?_
  rw [ways, List.map_map, List.map_eq_flatMap] at h
  rw [List.map_eq_flatMap]
  refine Program.finds_flatMap_mono _ (fun w _ o hw => ?_) h
  refine Program.finds_of_next (by simpa [Way.thread] using hclose) (by simp) ?_
  simpa [Way.thread, Program.next, size, Nat.add_assoc, Nat.add_comm 1] using hw

/-- **A program follows an expression** where the expression is laid out. -/
theorem follows_of_placed (hr : r.loopsAdvance = true) (hp : Placed p base (r.code base)) :
    Follows p text r base := by
  induction r generalizing base with
  | empty =>
      intro i saves o h
      simpa [ways, Way.thread, size] using h
  | chars s => exact follows_chars hp.head
  | look l => exact follows_look hp.head
  | cat a b iha ihb =>
      rw [loopsAdvance, Bool.and_eq_true] at hr
      exact (iha hr.1 hp.cat.1).cat (ihb hr.2 hp.cat.2)
  | alt a b iha ihb =>
      rw [loopsAdvance, Bool.and_eq_true] at hr
      obtain ⟨hsplit, hleft, hjump, hright⟩ := hp.alt
      exact (iha hr.1 hleft).alt hsplit hjump (ihb hr.2 hright)
  | plus greedy a iha =>
      rw [loopsAdvance, Bool.and_eq_true] at hr
      exact (iha hr.2 hp.plus.1).plus hr.1 hp.plus.2
  | group n a iha =>
      rw [loopsAdvance] at hr
      obtain ⟨hopen, hbody, hclose⟩ := hp.group
      exact (iha hr hbody).group hopen hclose

end Regex

/-! ### The search -/

namespace Program

variable {text : Array Char} {r : Regex}

/-- **The search finds the first way** through the searching expression. -/
theorem search?_ofRegex (hr : r.loopsAdvance = true) {start : Nat} (hstart : start ≤ text.size) :
    (ofRegex r).search? text start =
      (r.searching.ways text start).head?.map (Way.thread r.searching.size []) := by
  refine search?_eq hstart (Regex.follows_of_placed (r := r.searching) ?_ ?_ start [] _ ?_)
  · simp [Regex.searching, Regex.star, Regex.optional, Regex.loopsAdvance, Regex.advances, hr]
  · intro k hk
    simp only [ofRegex, Nat.zero_add, List.getElem?_toArray]
    exact List.getElem?_append_left hk
  · rw [Nat.zero_add]
    have haccept : (ofRegex r).insts[r.searching.size]? = some .accept := by
      simp only [ofRegex, List.getElem?_toArray]
      rw [List.getElem?_append_right (by simp)]
      simp
    cases r.searching.ways text start with
    | nil => exact ⟨0, .done⟩
    | cons w ws => exact ⟨0, .accept haccept⟩

end Program

end LintVerdict.Pattern
