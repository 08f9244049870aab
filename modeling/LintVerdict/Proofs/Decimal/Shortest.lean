import LintVerdict.Proofs.Decimal.Rounding

/-!
# The shortest decimal of a floating point number

The digits of a floating point number are a decimal that rounds to it, on the coarsest grid that
has one, and there the nearest one. The file shows that the search over the grids finds this decimal
for every positive finite number, and that no other decimal that rounds to it has fewer digits.

## Main definitions

* `ShortestDigits`: the shortest decimal that rounds to a floating point number.

## Main results

* `ShortestDigits.unique`, `ShortestDigits.length_le`: it is the only one, and has the fewest
  digits.
* `Rounding.nearest?_eq_none_iff`, `Rounding.nearest?_eq_some`: the search on one grid.
* `Rounding.exists_shortest?_eq_some`: the search finds the shortest decimal.
-/

namespace LintVerdict.Decimal

/-! ### The shortest decimal -/

/-- The decimal `c * 10 ^ e` is the shortest that rounds to a floating point number. -/
structure ShortestDigits (bits c : Nat) (e : Int) : Prop where
  /-- It rounds to the number. -/
  roundsTo : RoundsTo (c * 10 ^ e) bits
  /-- No decimal that does so has a greater exponent. -/
  coarsest : ∀ (c' : Nat) (e' : Int), RoundsTo (c' * 10 ^ e') bits → e' ≤ e
  /-- Another one with this exponent is farther away, or as far and less. -/
  nearest : ∀ c' : Nat, c' ≠ c → RoundsTo (c' * 10 ^ e) bits →
    |(c * 10 ^ e : ℚ) - magnitude bits| < |c' * 10 ^ e - magnitude bits| ∨
      |(c * 10 ^ e : ℚ) - magnitude bits| = |c' * 10 ^ e - magnitude bits| ∧ c' < c

/-- The bits of infinity, and so the first ones that stand for no finite number. -/
def infinityBits : Nat := 2047 * 2 ^ 52

variable {n c : Nat} {e : Int}

/-- **The shortest decimal is unique.** -/
theorem ShortestDigits.unique {c' : Nat} {e' : Int} (h : ShortestDigits n c e)
    (h' : ShortestDigits n c' e') : c = c' ∧ e = e' := by
  obtain rfl : e = e' := le_antisymm (h'.coarsest c e h.roundsTo) (h.coarsest c' e' h'.roundsTo)
  refine ⟨?_, rfl⟩
  by_contra hne
  obtain hlt | ⟨heq, hlt⟩ := h.nearest c' (Ne.symm hne) h'.roundsTo <;>
    obtain hlt' | ⟨heq', hlt'⟩ := h'.nearest c hne h.roundsTo
  · exact lt_asymm hlt hlt'
  · exact hlt.ne heq'.symm
  · exact hlt'.ne heq.symm
  · exact lt_asymm hlt hlt'

theorem ShortestDigits.pos (h : ShortestDigits n c e) (hn : 0 < n) : 0 < c := by
  refine Nat.pos_of_ne_zero fun hc => ?_
  have hpos := h.roundsTo.pos hn
  rw [hc, Nat.cast_zero, zero_mul] at hpos
  exact lt_irrefl 0 hpos

theorem pow_le_of_length {k : Nat} (h : k < (Nat.toDigits 10 c).length) (hk : 0 < k) :
    10 ^ k ≤ c := by
  by_contra hlt
  exact absurd ((Nat.length_toDigits_le_iff (by decide) hk).mpr (Nat.lt_of_not_le hlt)) (by omega)

/-- **No decimal that rounds to the number has fewer digits** than the shortest one. -/
theorem ShortestDigits.length_le (h : ShortestDigits n c e) (hn : 0 < n) {c' : Nat} {e' : Int}
    (hround : RoundsTo (c' * 10 ^ e') n) :
    (Nat.toDigits 10 c).length ≤ (Nat.toDigits 10 c').length := by
  by_contra hlonger
  -- The power of ten with as many digits as `c` lies between both decimals, on a coarser grid.
  set k := (Nat.toDigits 10 c').length with hk
  have hkpos : 0 < k := Nat.length_toDigits_pos
  have hc' : c' < 10 ^ k := (Nat.length_toDigits_le_iff (by decide) hkpos).mp le_rfl
  have hc : 10 ^ k ≤ c := pow_le_of_length (by omega) hkpos
  have hg : (0 : ℚ) < 10 ^ e := by positivity
  have hbelow : (c' * 10 ^ e' : ℚ) ≤ (1 : Nat) * 10 ^ (k + e : Int) := by
    rw [Nat.cast_one, one_mul, zpow_add₀ (by norm_num), zpow_natCast]
    have hstep : (10 : ℚ) ^ e' ≤ 10 ^ e :=
      zpow_le_zpow_right₀ (by norm_num) (h.coarsest c' e' hround)
    have hdigits : (c' : ℚ) ≤ 10 ^ k := by exact_mod_cast hc'.le
    gcongr
  have habove : ((1 : Nat) * 10 ^ (k + e : Int) : ℚ) ≤ c * 10 ^ e := by
    rw [Nat.cast_one, one_mul, zpow_add₀ (by norm_num), zpow_natCast]
    have hdigits : (10 : ℚ) ^ k ≤ c := by exact_mod_cast hc
    gcongr
  have hcoarser := h.coarsest 1 (k + e) (hround.of_between hn h.roundsTo hbelow habove)
  omega

namespace Rounding

/-! ### One grid -/

/-- The number of steps of a grid up to a floating point number. -/
def steps (e : Int) (n : Nat) : Nat :=
  (ofBits n).numerator e (ofBits n).mid / (ofBits n).denominator e

theorem steps_le (e : Int) (n : Nat) : (steps e n * 10 ^ e : ℚ) ≤ magnitude n := by
  rw [← ofBits_mid, ← le_numerator_iff]
  exact Nat.div_mul_le_self _ _

theorem lt_steps_succ (e : Int) (n : Nat) :
    magnitude n < ((steps e n + 1 : Nat) * 10 ^ e : ℚ) := by
  rw [← ofBits_mid, ← numerator_lt_iff]
  exact Nat.lt_mul_of_div_lt (Nat.lt_succ_self _) (denominator_pos _ _)

/-- The remainder decides which of the two points around the number is nearer. -/
theorem mod_lt_iff (e : Int) (n : Nat) :
    2 * ((ofBits n).numerator e (ofBits n).mid % (ofBits n).denominator e) <
        (ofBits n).denominator e ↔
      2 * magnitude n < (steps e n * 10 ^ e : ℚ) + (steps e n + 1 : Nat) * 10 ^ e := by
  have hdouble : (ofBits n).numerator e (2 * (ofBits n).mid) =
      2 * (ofBits n).numerator e (ofBits n).mid := by
    rw [numerator, numerator]
    ring
  have hgrid := numerator_lt_iff (R := ofBits n) (e := e) (x := 2 * (ofBits n).mid)
    (c := 2 * steps e n + 1)
  have hvalue : ((2 * (ofBits n).mid : Nat) : ℚ) * 2 ^ (ofBits n).scale = 2 * magnitude n := by
    rw [← ofBits_mid]
    push_cast
    ring
  have hpoints : ((2 * steps e n + 1 : Nat) : ℚ) * 10 ^ e =
      (steps e n * 10 ^ e : ℚ) + (steps e n + 1 : Nat) * 10 ^ e := by
    push_cast
    ring
  have hsplit := Nat.div_add_mod' ((ofBits n).numerator e (ofBits n).mid)
    ((ofBits n).denominator e)
  rw [hvalue, hpoints, hdouble, Nat.add_mul, Nat.one_mul, Nat.mul_assoc] at hgrid
  rw [← hgrid]
  rw [← steps] at hsplit
  omega

/-- Points of a grid in order stand for numbers in order. -/
theorem point_le_point {k k' : Nat} (h : k ≤ k') (e : Int) : (k * 10 ^ e : ℚ) ≤ k' * 10 ^ e := by
  have hcast : (k : ℚ) ≤ k' := Nat.cast_le.mpr h
  gcongr

/-- **A grid has a point that rounds to the number** exactly if the search finds one. -/
theorem nearest?_eq_none_iff (hn : 0 < n) :
    (ofBits n).nearest? e = none ↔ ∀ c : Nat, ¬ RoundsTo (c * 10 ^ e) n := by
  have hneighbours : (ofBits n).nearest? e = none ↔
      ¬ (ofBits n).holds e (steps e n) = true ∧ ¬ (ofBits n).holds e (steps e n + 1) = true := by
    rw [nearest?, ← steps]
    cases (ofBits n).holds e (steps e n) <;> cases (ofBits n).holds e (steps e n + 1) <;> simp
  rw [hneighbours, holds_iff hn, holds_iff hn]
  constructor
  · rintro ⟨hlower, hupper⟩ c hc
    have hself := roundsTo_magnitude n
    obtain hle | hlt := le_or_gt c (steps e n)
    · exact hlower (hc.of_between hn hself (point_le_point hle e) (steps_le e n))
    · exact hupper (hself.of_between hn hc (lt_steps_succ e n).le (point_le_point hlt e))
  · intro h
    exact ⟨h _, h _⟩

/-- Of two points below a number the lesser one is farther away. -/
theorem abs_sub_lt_of_below {k k' : Nat} {v : ℚ} (h : k' < k) (hk : (k * 10 ^ e : ℚ) ≤ v) :
    |(k * 10 ^ e : ℚ) - v| < |k' * 10 ^ e - v| := by
  have hstep : (k' * 10 ^ e : ℚ) < k * 10 ^ e := by
    have hcast : (k' : ℚ) < k := Nat.cast_lt.mpr h
    gcongr
  rw [abs_of_nonpos (by linarith), abs_of_nonpos (by linarith)]
  linarith

/-- Of two points above a number the greater one is. -/
theorem abs_sub_lt_of_above {k k' : Nat} {v : ℚ} (h : k < k') (hk : v ≤ (k * 10 ^ e : ℚ)) :
    |(k * 10 ^ e : ℚ) - v| < |k' * 10 ^ e - v| := by
  have hstep : (k * 10 ^ e : ℚ) < k' * 10 ^ e := by
    have hcast : (k : ℚ) < k' := Nat.cast_lt.mpr h
    gcongr
  rw [abs_of_nonneg (by linarith), abs_of_nonneg (by linarith)]
  linarith

/-- If the remainder is less than half a step, the point below is nearer than all above. -/
theorem abs_sub_lt_of_near {k : Nat} (h : steps e n < k)
    (hnear : 2 * ((ofBits n).numerator e (ofBits n).mid % (ofBits n).denominator e) <
      (ofBits n).denominator e) :
    |(steps e n * 10 ^ e : ℚ) - magnitude n| < |k * 10 ^ e - magnitude n| := by
  have hfloor := steps_le e n
  have hceil := (lt_steps_succ e n).le
  have hpoint := point_le_point (show steps e n + 1 ≤ k from h) e
  have hmiddle := (mod_lt_iff e n).mp hnear
  rw [abs_of_nonpos (by linarith), abs_of_nonneg (by linarith)]
  linarith

/-- Otherwise no point below is nearer than the one above. -/
theorem abs_sub_le_of_far {k : Nat} (h : k ≤ steps e n)
    (hfar : ¬ 2 * ((ofBits n).numerator e (ofBits n).mid % (ofBits n).denominator e) <
      (ofBits n).denominator e) :
    |((steps e n + 1 : Nat) * 10 ^ e : ℚ) - magnitude n| ≤ |k * 10 ^ e - magnitude n| := by
  have hfloor := steps_le e n
  have hceil := (lt_steps_succ e n).le
  have hpoint := point_le_point h e
  have hmiddle := not_lt.mp (mt (mod_lt_iff e n).mpr hfar)
  rw [abs_of_nonneg (by linarith), abs_of_nonpos (by linarith)]
  linarith

/-- **The point that is found** rounds to the number, and the others are farther away, or as far
and less. -/
theorem nearest?_eq_some (hn : 0 < n) (h : (ofBits n).nearest? e = some c) :
    RoundsTo (c * 10 ^ e) n ∧ ∀ c' : Nat, c' ≠ c → RoundsTo (c' * 10 ^ e) n →
      |(c * 10 ^ e : ℚ) - magnitude n| < |c' * 10 ^ e - magnitude n| ∨
        |(c * 10 ^ e : ℚ) - magnitude n| = |c' * 10 ^ e - magnitude n| ∧ c' < c := by
  have hfloor := steps_le e n
  have hceil := (lt_steps_succ e n).le
  have hself := roundsTo_magnitude n
  rw [nearest?, ← steps] at h
  have hlower := holds_iff hn (e := e) (c := steps e n)
  have hupper := holds_iff hn (e := e) (c := steps e n + 1)
  cases hb : (ofBits n).holds e (steps e n) <;> cases ha : (ofBits n).holds e (steps e n + 1) <;>
    rw [hb, ha] at h <;> rw [hb] at hlower <;> rw [ha] at hupper
  · exact absurd h nofun
  · -- Only the point above rounds to the number, so nothing below it does.
    obtain rfl := Option.some.inj h
    refine ⟨hupper.mp rfl, fun c' hne hc' => Or.inl ?_⟩
    obtain hle | hlt := le_or_gt c' (steps e n)
    · exact absurd (hlower.mpr (hc'.of_between hn hself (point_le_point hle e) hfloor)) nofun
    · exact abs_sub_lt_of_above (by omega) hceil
  · obtain rfl := Option.some.inj h
    refine ⟨hlower.mp rfl, fun c' hne hc' => Or.inl ?_⟩
    obtain hlt | hle := Nat.lt_or_ge c' (steps e n)
    · exact abs_sub_lt_of_below hlt hfloor
    · have habove := point_le_point (show steps e n + 1 ≤ c' by omega) e
      exact absurd (hupper.mpr (hself.of_between hn hc' hceil habove)) nofun
  · -- Both do, and the remainder tells which is nearer.
    dsimp only at h
    replace h := Option.some.inj h
    split at h
    · next hnear =>
      subst h
      refine ⟨hlower.mp rfl, fun c' hne hc' => Or.inl ?_⟩
      obtain hlt | hle := Nat.lt_or_ge c' (steps e n)
      · exact abs_sub_lt_of_below hlt hfloor
      · exact abs_sub_lt_of_near (by omega) hnear
    · next hfar =>
      subst h
      refine ⟨hupper.mp rfl, fun c' hne hc' => ?_⟩
      obtain hle | hlt := le_or_gt c' (steps e n)
      · exact (abs_sub_le_of_far hle hfar).lt_or_eq.imp_right fun heq => ⟨heq, by omega⟩
      · exact Or.inl (abs_sub_lt_of_above (by omega) hceil)

/-! ### All grids -/

theorem mem_gridExponents : e ∈ gridExponents ↔ -379 ≤ e ∧ e ≤ 320 := by
  simp only [gridExponents, List.mem_map, List.mem_range]
  constructor
  · rintro ⟨i, hi, rfl⟩
    omega
  · intro h
    exact ⟨(320 - e).toNat, by omega, by omega⟩

theorem gridExponents_descending : gridExponents.Pairwise (· > ·) := by
  rw [gridExponents, List.pairwise_map]
  exact List.pairwise_lt_range.imp fun h => by omega

/-- The finest grid has a point for every number: its step is less than the distance to the
midpoint. -/
theorem exists_roundsTo_finest (hn : 0 < n) : ∃ c : Nat, RoundsTo (c * 10 ^ (-379 : Int)) n := by
  have hstep : (10 : ℚ) ^ (-379 : Int) < 2 ^ lastPlace n / 2 := by
    have hpowers : (2 : ℚ) ^ 1075 < 10 ^ 379 := by exact_mod_cast (by decide +kernel)
    calc (10 : ℚ) ^ (-379 : Int) < 2 ^ (-1075 : Int) := by
          rw [zpow_neg, zpow_neg]
          exact inv_strictAnti₀ (by positivity) hpowers
      _ = 2 ^ (-1074 : Int) / 2 := by
          rw [show (-1075 : Int) = -1074 - 1 from rfl, zpow_sub_one₀ two_ne_zero, div_eq_mul_inv]
      _ ≤ 2 ^ lastPlace n / 2 := by
          have hplace : -1074 ≤ lastPlace n := by
            rw [lastPlace]
            split <;> omega
          have hpow := zpow_le_zpow_right₀ (by norm_num : (1 : ℚ) ≤ 2) hplace
          linarith
  have hfloor := steps_le (-379) n
  have hceil := lt_steps_succ (-379) n
  refine ⟨steps (-379) n + 1, (roundsTo_iff hn).mpr ?_⟩
  have hlower : (magnitude (n - 1) + magnitude n) / 2 < magnitude n := by
    have hbefore : magnitude (n - 1) < magnitude n := strictMono_magnitude (by omega)
    linarith
  rw [magnitude_succ, Within]
  generalize (10 : ℚ) ^ (-379 : Int) = step at *
  push_cast at hceil ⊢
  split
  · exact ⟨by linarith, by linarith⟩
  · exact ⟨by linarith, by linarith⟩

theorem magnitude_infinityBits : magnitude infinityBits = 2 ^ 1024 := by
  have hdigits : significand infinityBits = 2 ^ 52 := by decide +kernel
  have hplace : lastPlace infinityBits = 972 := by decide +kernel
  rw [magnitude, hdigits, hplace, Nat.cast_pow, Nat.cast_two,
    show (972 : Int) = (972 : Nat) from rfl, zpow_natCast, ← pow_add]

/-- The coarsest grid is not too fine: finite numbers are less than its step. -/
theorem exponent_le_of_roundsTo (hn : 0 < n) (hfin : n < infinityBits)
    (h : RoundsTo (c * 10 ^ e) n) : e ≤ 320 := by
  by_contra hlt
  have hc : (1 : ℚ) ≤ c := by
    have hpos : c ≠ 0 := by
      rintro rfl
      have hzero := h.pos hn
      rw [Nat.cast_zero, zero_mul] at hzero
      exact lt_irrefl 0 hzero
    exact_mod_cast Nat.one_le_iff_ne_zero.mpr hpos
  have hpowers : (2 : ℚ) ^ 1024 < 10 ^ 321 := by exact_mod_cast (by decide +kernel)
  have hgreat : (10 : ℚ) ^ (321 : Int) ≤ 10 ^ e := zpow_le_zpow_right₀ (by norm_num) (by omega)
  have habove : (10 : ℚ) ^ e ≤ c * 10 ^ e := le_mul_of_one_le_left (by positivity) hc
  have hbound : magnitude (n + 1) ≤ 2 ^ 1024 :=
    magnitude_infinityBits ▸ strictMono_magnitude.monotone hfin
  have hcast : (10 : ℚ) ^ 321 = 10 ^ (321 : Int) := (zpow_natCast 10 321).symm
  refine lt_irrefl (c * 10 ^ e : ℚ) ?_
  calc (c * 10 ^ e : ℚ) < magnitude (n + 1) := h.lt_succ
    _ ≤ 2 ^ 1024 := hbound
    _ < 10 ^ 321 := hpowers
    _ = 10 ^ (321 : Int) := hcast
    _ ≤ 10 ^ e := hgreat
    _ ≤ c * 10 ^ e := habove

/-- **The search finds the shortest decimal** of every positive finite number. -/
theorem exists_shortest?_eq_some (hn : 0 < n) (hfin : n < infinityBits) :
    ∃ c e, (ofBits n).shortest? = some (c, e) ∧ ShortestDigits n c e := by
  have hsome : (ofBits n).shortest? ≠ none := by
    intro hnone
    obtain ⟨c, hc⟩ := exists_roundsTo_finest hn
    have hfinest := List.findSome?_eq_none_iff.mp hnone (-379)
      (mem_gridExponents.mpr ⟨le_rfl, by decide⟩)
    exact (nearest?_eq_none_iff hn).mp (Option.map_eq_none_iff.mp hfinest) c hc
  obtain ⟨⟨c, e⟩, hfound⟩ := Option.ne_none_iff_exists'.mp hsome
  refine ⟨c, e, hfound, ?_⟩
  obtain ⟨coarser, e₀, finer, hsplit, hpoint, hnone⟩ := List.findSome?_eq_some_iff.mp hfound
  obtain ⟨c₀, hc₀, hpair⟩ := Option.map_eq_some_iff.mp hpoint
  obtain ⟨rfl, rfl⟩ := Prod.mk.inj hpair
  obtain ⟨hround, hnearest⟩ := nearest?_eq_some hn hc₀
  refine ⟨hround, fun c' e' hc' => ?_, hnearest⟩
  by_contra hlt
  have hordered := gridExponents_descending
  have hmem : e' ∈ gridExponents := mem_gridExponents.mpr
    ⟨by have := (mem_gridExponents.mp (hsplit ▸ List.mem_append_cons_self)).1; omega,
      exponent_le_of_roundsTo hn hfin hc'⟩
  rw [hsplit] at hmem hordered
  obtain hcoarser | hfiner := List.mem_append.mp hmem
  · exact (nearest?_eq_none_iff hn).mp (Option.map_eq_none_iff.mp (hnone e' hcoarser)) c' hc'
  · have hle : e' ≤ e₀ := by
      obtain rfl | hfiner := List.mem_cons.mp hfiner
      · exact le_rfl
      · exact ((List.pairwise_cons.mp (List.pairwise_append.mp hordered).2.1).1 e' hfiner).le
    exact hlt hle

end Rounding

end LintVerdict.Decimal
