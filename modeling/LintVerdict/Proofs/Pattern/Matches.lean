import LintVerdict.Proofs.Pattern.Ways

/-!
# The matches of an expression

The preferred way through an expression is found by trying its ways in order, each with what is
to be matched after it. The file gives one equation of this trial for each form of expression,
and follows the search of a whole text: from one place to the next until there is a match, and
after a match from its end.

## Main definitions

* `Ahead`: what a text reads from a place on.
* `Regex.first`: the first way through an expression that a continuation accepts.
* `Regex.matchAt?`: the preferred match at a place.
* `Regex.scan`: the successive matches from a place on.

## Main results

* `Regex.first_star_greedy`: a greedy run takes all it can.
* `Regex.span_of_matchAt?`: where matches begin and end.
* `Program.allMatches_ofRegex`: the program finds the successive matches.
-/

namespace LintVerdict.Pattern

theorem toNat_le_lastCode (c : Char) : c.toNat ≤ Unicode.Table.lastCode := by
  have hvalid : c.toNat < 0xd800 ∨ 0xdfff < c.toNat ∧ c.toNat < 0x110000 := c.valid
  rw [Unicode.Table.lastCode]
  omega

theorem CharSet.univ_has (c : Char) : CharSet.univ.has c = true := by
  simp [CharSet.univ, CharSet.has, CharSet.hasCode, toNat_le_lastCode]

theorem findSome?_cons_or {α β : Type} (k : α → Option β) (x : α) (l : List α) :
    (x :: l).findSome? k = (k x).or (l.findSome? k) := by
  rw [List.findSome?_cons]
  cases k x <;> rfl

theorem findSome?_flatMap {α β γ : Type} (f : α → List γ) (k : γ → Option β) (l : List α) :
    (l.flatMap f).findSome? k = l.findSome? fun x => (f x).findSome? k := by
  induction l with
  | nil => rfl
  | cons x l ih => rw [List.flatMap_cons, List.findSome?_append, ih, findSome?_cons_or]

/-! ### Places in a text -/

/-- What a text reads from a place on. -/
def Ahead (text : Array Char) (i : Nat) (cs : List Char) : Prop := text.toList.drop i = cs

namespace Ahead

variable {text : Array Char} {i : Nat} {c : Char} {a cs : List Char}

theorem getElem?_add (h : Ahead text i cs) (n : Nat) : text[i + n]? = cs[n]? := by
  rw [← h, List.getElem?_drop, Array.getElem?_toList]

theorem getElem? (h : Ahead text i cs) : text[i]? = cs.head? := by
  rw [← Nat.add_zero i, h.getElem?_add, List.head?_eq_getElem?]

theorem append (h : Ahead text i (a ++ cs)) : Ahead text (i + a.length) cs := by
  rw [Ahead, ← List.drop_drop, h, List.drop_left]

theorem tail (h : Ahead text i (c :: cs)) : Ahead text (i + 1) cs :=
  append (a := [c]) h

/-- What stands before a place that is not the start. -/
theorem before (h : Ahead text i (c :: cs)) : Program.before text (i + 1) = some c := by
  rw [Program.before, if_neg (Nat.succ_ne_zero i), Nat.add_sub_cancel]
  exact h.getElem?

theorem extract (h : Ahead text i (a ++ cs)) : (text.extract i (i + a.length)).toList = a := by
  rw [Array.toList_extract, List.extract_eq_take_drop, h, Nat.add_sub_cancel_left,
    List.take_left]

end Ahead

namespace Regex

variable {β : Type} {text : Array Char} {r a b : Regex} {s : CharSet} {i j : Nat} {c : Char}
  {saves : List (Nat × Nat)} {k : Nat → List (Nat × Nat) → Option β}

/-- The first way through an expression that a continuation accepts. The continuation is given
the end of the way and the places noted so far. -/
def first (text : Array Char) (r : Regex) (i : Nat) (saves : List (Nat × Nat))
    (k : Nat → List (Nat × Nat) → Option β) : Option β :=
  (r.ways text i).findSome? fun w => k w.stop (w.saves ++ saves)

/-! ### One equation for each form -/

theorem first_empty : empty.first text i saves k = k i saves := by
  simp [first, ways]

theorem first_chars : (chars s).first text i saves k =
    if text[i]?.any s.has then k (i + 1) saves else none := by
  rw [first, ways]
  cases text[i]? with
  | none => rfl
  | some c => cases hs : s.has c <;> simp [hs]

theorem first_look {l : Look} : (look l).first text i saves k =
    if l.holds (Program.before text i) text[i]? then k i saves else none := by
  rw [first, ways]
  cases l.holds (Program.before text i) text[i]? <;> simp

theorem first_cat : (cat a b).first text i saves k =
    a.first text i saves fun j saves => b.first text j saves k := by
  simp only [first, ways, findSome?_flatMap, List.findSome?_map, Function.comp_def,
    Way.andThen, List.append_assoc]

theorem first_alt : (alt a b).first text i saves k =
    (a.first text i saves k).or (b.first text i saves k) := by
  rw [first, ways, List.findSome?_append, first, first]

theorem first_group {n : Nat} : (group n a).first text i saves k =
    a.first text i ((2 * n, i) :: saves) fun j saves => k j ((2 * n + 1, j) :: saves) := by
  simp only [first, ways, List.findSome?_map, Function.comp_def, List.cons_append,
    List.append_assoc, List.nil_append]

theorem first_plus {greedy : Bool} (ha : a.advances = true) :
    (plus greedy a).first text i saves k =
      a.first text i saves fun j saves =>
        if greedy then ((plus greedy a).first text j saves k).or (k j saves)
        else (k j saves).or ((plus greedy a).first text j saves k) := by
  rw [first, ways_plus greedy ha, findSome?_flatMap, first]
  refine congrArg (List.findSome? · _) (funext fun w => ?_)
  cases greedy with
  | true =>
      simp only [if_true, List.findSome?_append, List.findSome?_map, findSome?_cons_or,
        List.findSome?_nil, Option.or_none, first, Function.comp_def, Way.andThen,
        List.append_assoc]
  | false =>
      simp only [Bool.false_eq_true, if_false, List.findSome?_map, findSome?_cons_or, first,
        Function.comp_def, Way.andThen, List.append_assoc]

/-! ### Runs of characters -/

/-- A loop over a set takes a character and then goes on or stops. -/
theorem first_plus_chars {greedy : Bool} : (plus greedy (chars s)).first text i saves k =
    if text[i]?.any s.has then (star greedy (chars s)).first text (i + 1) saves k else none := by
  rw [first_plus rfl, first_chars]
  cases greedy <;> simp [star, optional, first_alt, first_empty]

/-- A lazy run stops if it can, and takes a character otherwise. -/
theorem first_star_lazy : (star false (chars s)).first text i saves k =
    (k i saves).or
      (if text[i]?.any s.has then (star false (chars s)).first text (i + 1) saves k
      else none) := by
  conv_lhs => rw [star, optional, if_neg (by simp), first_alt, first_empty, first_plus_chars]

/-- A greedy run takes a character if it can, and stops otherwise. -/
theorem first_star_greedy_step : (star true (chars s)).first text i saves k =
    (if text[i]?.any s.has then (star true (chars s)).first text (i + 1) saves k
      else none).or (k i saves) := by
  conv_lhs => rw [star, optional, if_pos rfl, first_alt, first_empty, first_plus_chars]

/-- **A greedy run takes all it can** if what follows accepts that, or accepts no less. -/
theorem first_star_greedy {run rest : List Char} (hat : Ahead text i (run ++ rest))
    (hrun : ∀ c ∈ run, s.has c = true) (hrest : rest.head?.any s.has = false)
    (hk : (k (i + run.length) saves).isSome = true ∨
      ∀ j, i ≤ j → j < i + run.length → k j saves = none) :
    (star true (chars s)).first text i saves k = k (i + run.length) saves := by
  induction run generalizing i with
  | nil =>
      rw [first_star_greedy_step, hat.getElem?, List.nil_append, hrest]
      rfl
  | cons c run ih =>
      have hlen : i + (c :: run).length = i + 1 + run.length := by
        rw [List.length_cons]
        omega
      rw [hlen] at hk ⊢
      have hgo := ih hat.tail (fun d hd => hrun d (List.mem_cons_of_mem c hd))
        (hk.imp_right fun hk j hj hlt => hk j (by omega) hlt)
      have hhead : text[i]?.any s.has = true := by
        rw [hat.getElem?]
        exact hrun c List.mem_cons_self
      rw [first_star_greedy_step, if_pos hhead, hgo]
      obtain hsome | hnone := hk
      · exact Option.or_of_isSome hsome
      · rw [hnone i (Nat.le_refl i) (by omega), Option.or_none]

/-! ### The matches of a text -/

/-- The preferred match at a place. -/
def matchAt? (r : Regex) (text : Array Char) (i : Nat) : Option Match :=
  (group 0 r).first text i [] fun _ saves => some ⟨saves⟩

/-- The successive matches from a place on: the search goes on from the end of a match, and
from the next place where there is none. -/
def scan (r : Regex) (text : Array Char) (i : Nat) : List Match :=
  if _h : text.size < i then []
  else
    match r.matchAt? text i with
    | none => scan r text (i + 1)
    | some m => if _h : i < m.span.2 then m :: scan r text m.span.2 else [m]
  termination_by text.size + 1 - i


theorem findSome?_total {α : Type} (l : List α) (f : α → Match) :
    l.findSome? (fun w => some (f w)) = l.head?.map f := by
  cases l <;> rfl

/-- The places that a way notes carry the numbers of groups of its expression. -/
theorem mem_groups_of_mem_saves {w : Way} {slot : Nat} (h : w ∈ r.ways text i)
    (hs : (slot, j) ∈ w.saves) : slot / 2 ∈ r.groups := by
  induction r generalizing i w with
  | empty =>
      rw [List.mem_singleton.mp h] at hs
      exact absurd hs List.not_mem_nil
  | chars s =>
      rw [ways] at h
      have hw : w.saves = [] := by
        split at h <;> [split at h; skip] <;> simp_all
      simp [hw] at hs
  | look l =>
      rw [ways] at h
      split at h
      · rw [List.mem_singleton.mp h] at hs
        exact absurd hs List.not_mem_nil
      · simp at h
  | cat a b iha ihb =>
      rw [ways, List.mem_flatMap] at h
      obtain ⟨v, hv, hw⟩ := h
      obtain ⟨u, hu, rfl⟩ := List.mem_map.mp hw
      rw [groups, List.mem_append]
      obtain hs | hs := List.mem_append.mp hs
      · exact Or.inr (ihb hu hs)
      · exact Or.inl (iha hv hs)
  | alt a b iha ihb =>
      rw [ways, List.mem_append] at h
      rw [groups, List.mem_append]
      exact h.imp (fun h => iha h hs) fun h => ihb h hs
  | plus greedy a iha =>
      rw [ways] at h
      refine loopWays_induction (P := fun _ w => (slot, j) ∈ w.saves → slot / 2 ∈ a.groups)
        (fun hw hs => iha hw hs) ?_ h hs
      intro i w v hw _ _ hv hs
      obtain hs | hs := List.mem_append.mp hs
      · exact hv hs
      · exact iha hw hs
  | group n a iha =>
      rw [ways, List.mem_map] at h
      obtain ⟨v, hv, rfl⟩ := h
      rw [groups, List.mem_cons]
      rw [List.mem_cons, List.mem_append, List.mem_singleton] at hs
      obtain hs | hs | hs := hs
      · obtain ⟨rfl, -⟩ := Prod.mk.inj hs
        exact Or.inl (by omega)
      · exact Or.inr (iha hv hs)
      · obtain ⟨rfl, -⟩ := Prod.mk.inj hs
        exact Or.inl (by omega)

/-- **The span of a match** runs from where it was tried to a later place, if every match of the
expression takes a character. -/
theorem span_of_matchAt? {m : Match} (hadv : r.advances = true) (h0 : 0 ∉ r.groups)
    (h : r.matchAt? text i = some m) :
    m.span.1 = i ∧ i < m.span.2 ∧ m.span.2 ≤ text.size := by
  rw [matchAt?, first, findSome?_total, ways, List.head?_map, Option.map_map,
    Option.map_eq_some_iff] at h
  obtain ⟨w, hw, rfl⟩ := h
  have hmem : w ∈ r.ways text i := List.mem_of_mem_head? hw
  have hstop : i < w.stop ∧ w.stop ≤ text.size := by
    simpa [hadv] using stop_of_mem_ways hmem
  have hstart : w.saves.find? (fun s => s.1 = 0) = none := by
    rw [List.find?_eq_none]
    intro s hs h
    have hgroup : s.1 / 2 ∈ r.groups := mem_groups_of_mem_saves hmem hs
    rw [of_decide_eq_true h] at hgroup
    exact h0 hgroup
  have hspan : (Match.mk ((1, w.stop) :: (w.saves ++ [(0, i)]))).span = (i, w.stop) := by
    simp [Match.span, Match.group?, Match.place?, List.find?_append, hstart]
  simpa [hspan] using hstop

theorem scan_of_lt (h : text.size < i) : r.scan text i = [] := by
  rw [scan, dif_pos h]

theorem scan_of_none (h : r.matchAt? text i = none) : r.scan text i = r.scan text (i + 1) := by
  rcases Nat.lt_or_ge text.size i with hi | hi
  · rw [scan_of_lt hi, scan_of_lt (Nat.lt_succ_of_lt hi)]
  · conv_lhs => rw [scan, dif_neg (Nat.not_lt.mpr hi), h]

theorem scan_of_some {m : Match} (hadv : r.advances = true) (h0 : 0 ∉ r.groups)
    (h : r.matchAt? text i = some m) : r.scan text i = m :: r.scan text m.span.2 := by
  have hspan := span_of_matchAt? hadv h0 h
  conv_lhs => rw [scan, dif_neg (by omega), h]
  exact dif_pos hspan.2.1

/-- Places without a match are passed over. -/
theorem scan_skip (n : Nat) (h : ∀ j, i ≤ j → j < i + n → r.matchAt? text j = none) :
    r.scan text i = r.scan text (i + n) := by
  induction n with
  | zero => rfl
  | succ n ih =>
      rw [ih fun j hj hlt => h j hj (by omega), scan_of_none (h (i + n) (by omega) (by omega))]
      rfl

end Regex

namespace Program

variable {text : Array Char} {r : Regex} {start : Nat}

theorem matchFrom?_of_lt (h : text.size < start) : (ofRegex r).matchFrom? text start = none :=
  if_pos h

/-- A search tries the place where it begins, and then goes on from the next one. -/
theorem matchFrom?_step (hr : r.loopsAdvance = true) (h : start ≤ text.size) :
    (ofRegex r).matchFrom? text start =
      (r.matchAt? text start).or ((ofRegex r).matchFrom? text (start + 1)) := by
  have hseek : ∀ i, i ≤ text.size → (ofRegex r).matchFrom? text i =
      r.searching.first text i [] fun _ saves => some ⟨saves⟩ := by
    intro i hi
    rw [matchFrom?, if_neg (Nat.not_lt.mpr hi), search?_ofRegex hr hi, Option.map_map,
      Regex.first, Regex.findSome?_total]
    rfl
  have hany : text[start]?.any CharSet.univ.has = decide (start < text.size) := by
    cases hc : text[start]? with
    | none => simpa using hc
    | some c => simpa [CharSet.univ_has] using (Array.getElem?_eq_some_iff.mp hc).1
  rw [hseek start h, Regex.searching, Regex.first_cat, Regex.first_star_lazy, hany]
  refine congrArg (Option.or _) ?_
  rcases Nat.lt_or_ge start text.size with hlt | hge
  · rw [hseek (start + 1) hlt, Regex.searching, Regex.first_cat, decide_eq_true hlt, if_pos rfl]
  · rw [matchFrom?_of_lt (by omega), decide_eq_false (Nat.not_lt.mpr hge)]
    rfl

/-- A search finds a match that some place has. -/
theorem exists_matchAt? {m : Match} (hr : r.loopsAdvance = true)
    (h : (ofRegex r).matchFrom? text start = some m) :
    ∃ i, start ≤ i ∧ r.matchAt? text i = some m := by
  induction hk : text.size + 1 - start using Nat.strong_induction_on generalizing start with
  | _ k ih =>
      rcases Nat.lt_or_ge text.size start with hlt | hle
      · simp [matchFrom?_of_lt hlt] at h
      · rw [matchFrom?_step hr hle, Option.or_eq_some_iff] at h
        obtain h | ⟨-, h⟩ := h
        · exact ⟨start, Nat.le_refl start, h⟩
        · obtain ⟨i, hi, hm⟩ := ih _ (by omega) h rfl
          exact ⟨i, by omega, hm⟩

/-- After a match that takes a character the search goes on from its end. -/
theorem matchesFrom_succ (hr : r.loopsAdvance = true) (hadv : r.advances = true)
    (h0 : 0 ∉ r.groups) (budget : Nat) (last : Option Nat) :
    (ofRegex r).matchesFrom text (budget + 1) start last =
      match (ofRegex r).matchFrom? text start with
      | none => []
      | some m => m :: (ofRegex r).matchesFrom text budget m.span.2 (some m.span.2) := by
  rw [matchesFrom]
  cases hm : (ofRegex r).matchFrom? text start with
  | none => rfl
  | some m =>
      obtain ⟨i, -, hi⟩ := exists_matchAt? hr hm
      obtain ⟨hfirst, hlt, -⟩ := Regex.span_of_matchAt? hadv h0 hi
      dsimp only
      rw [if_neg (by omega)]

theorem matchesFrom_eq (hr : r.loopsAdvance = true) (hadv : r.advances = true)
    (h0 : 0 ∉ r.groups) {budget : Nat} {last : Option Nat}
    (hb : text.size + 1 - start ≤ budget) :
    (ofRegex r).matchesFrom text budget start last = r.scan text start := by
  induction hk : text.size + 1 - start using Nat.strong_induction_on
    generalizing start budget last with
  | _ k ih =>
      rcases Nat.lt_or_ge text.size start with hlt | hle
      · rw [Regex.scan_of_lt hlt]
        cases budget with
        | zero => rfl
        | succ budget => rw [matchesFrom_succ hr hadv h0, matchFrom?_of_lt hlt]
      · obtain ⟨budget, rfl⟩ : ∃ b, budget = b + 1 := ⟨budget - 1, by omega⟩
        have hstep := matchFrom?_step hr hle
        cases hm : r.matchAt? text start with
        | none =>
            rw [hm, Option.none_or] at hstep
            have hnext : (ofRegex r).matchesFrom text (budget + 1) (start + 1) last =
                r.scan text (start + 1) := ih _ (by omega) (by omega) rfl
            rw [Regex.scan_of_none hm, ← hnext, matchesFrom_succ hr hadv h0, hstep,
              matchesFrom_succ hr hadv h0]
        | some m =>
            have hspan := Regex.span_of_matchAt? hadv h0 hm
            rw [hm, Option.some_or] at hstep
            have hnext : (ofRegex r).matchesFrom text budget m.span.2 (some m.span.2) =
                r.scan text m.span.2 := ih _ (by omega) (by omega) rfl
            rw [Regex.scan_of_some hadv h0 hm, matchesFrom_succ hr hadv h0, hstep]
            exact congrArg (m :: ·) hnext

/-- **The program finds the successive matches** of its expression. -/
theorem allMatches_ofRegex (hr : r.loopsAdvance = true) (hadv : r.advances = true)
    (h0 : 0 ∉ r.groups) (text : Array Char) : (ofRegex r).allMatches text = r.scan text 0 :=
  matchesFrom_eq hr hadv h0 (by omega)

end Program

end LintVerdict.Pattern
