import Mathlib.Algebra.Order.Field.Power
import Mathlib.Tactic.FieldSimp
import Mathlib.Tactic.Linarith
import Mathlib.Tactic.NormNum
import Mathlib.Tactic.Positivity
import Mathlib.Tactic.Ring
import LintVerdict.Decimal.Shortest

/-!
# Which numbers round to a floating point number

The bits of a positive floating point number, read as a natural number, count the numbers below it.
A real number rounds to the one that is nearest to it, and of two that are as near to the even one.
So the numbers that round to one lie between the midpoints to its neighbours. The file shows that
the interval from which digits are taken is this one.

## Main definitions

* `magnitude`: the value of a floating point number without its sign.
* `RoundsTo`: a number whose nearest floating point number is a given one.
* `Rounding.ofBits`: the interval of a floating point number.

## Main results

* `strictMono_magnitude`: more bits stand for greater values.
* `roundsTo_iff`: what rounds to a number lies between the midpoints to its neighbours.
* `Rounding.holds_iff`: the points of a grid that lie in the interval of a number are those that
  round to it.
-/

namespace LintVerdict.Decimal

/-! ### Values -/

/-- The digits of a floating point number with these bits, as a whole number. A number that is not
among the least ones has a leading digit that is not written. -/
def significand (bits : Nat) : Nat :=
  if bits / 2 ^ 52 = 0 then bits % 2 ^ 52 else 2 ^ 52 + bits % 2 ^ 52

/-- The binary exponent of the last digit. -/
def lastPlace (bits : Nat) : Int :=
  (if bits / 2 ^ 52 = 0 then 1 else ((bits / 2 ^ 52 : Nat) : Int)) - 1075

/-- The value of a floating point number with these bits and no sign. Behind the greatest finite
number it goes on as if there were more exponents. -/
def magnitude (bits : Nat) : ℚ := significand bits * 2 ^ lastPlace bits

/-- A number rounds to a floating point number if no other one is nearer, and one that is as near is
odd. -/
def RoundsTo (r : ℚ) (bits : Nat) : Prop :=
  ∀ other, other ≠ bits → |r - magnitude bits| < |r - magnitude other| ∨
    |r - magnitude bits| = |r - magnitude other| ∧ bits % 2 = 0

variable {n k : Nat} {r s : ℚ}

/-- The next number is one unit in the last place away. -/
theorem magnitude_succ (n : Nat) : magnitude (n + 1) = magnitude n + 2 ^ lastPlace n := by
  have htwo : (2 : ℚ) ≠ 0 := two_ne_zero
  by_cases hlast : n % 2 ^ 52 + 1 < 2 ^ 52
  · have hdiv : (n + 1) / 2 ^ 52 = n / 2 ^ 52 := by omega
    have hmod : (n + 1) % 2 ^ 52 = n % 2 ^ 52 + 1 := by omega
    have hplace : lastPlace (n + 1) = lastPlace n := by rw [lastPlace, lastPlace, hdiv]
    have hdigits : significand (n + 1) = significand n + 1 := by
      rw [significand, significand, hdiv, hmod]
      split <;> rfl
    rw [magnitude, magnitude, hplace, hdigits]
    push_cast
    ring
  · -- The digits are full, so the exponent grows.
    have hdiv : (n + 1) / 2 ^ 52 = n / 2 ^ 52 + 1 := by omega
    have hmod : (n + 1) % 2 ^ 52 = 0 := by omega
    have hfull : n % 2 ^ 52 = 2 ^ 52 - 1 := by omega
    have hdigits : significand (n + 1) = 2 ^ 52 := by
      rw [significand, hdiv, hmod, if_neg (Nat.succ_ne_zero _), Nat.add_zero]
    have hplace : lastPlace (n + 1) = ((n / 2 ^ 52 : Nat) : Int) + 1 - 1075 := by
      rw [lastPlace, hdiv, if_neg (Nat.succ_ne_zero _)]
      push_cast
      rfl
    rw [magnitude, magnitude, hdigits, hplace, significand, lastPlace, hfull]
    by_cases hzero : n / 2 ^ 52 = 0
    · rw [if_pos hzero, if_pos hzero, hzero, Nat.cast_zero, zero_add]
      generalize (2 : ℚ) ^ ((1 : Int) - 1075) = unit
      norm_num
      ring
    · rw [if_neg hzero, if_neg hzero, add_sub_right_comm, zpow_add_one₀ htwo]
      norm_num
      ring

/-- **More bits stand for greater values.** -/
theorem strictMono_magnitude : StrictMono magnitude :=
  strictMono_nat_of_lt_succ fun n => by
    rw [magnitude_succ]
    have hunit : (0 : ℚ) < 2 ^ lastPlace n := by positivity
    linarith

theorem magnitude_zero : magnitude 0 = 0 := by
  rw [magnitude, significand]
  simp

theorem magnitude_pos (h : 0 < n) : 0 < magnitude n :=
  magnitude_zero ▸ strictMono_magnitude h

/-! ### Rounding -/

section Midpoints

variable {a b : ℚ}

theorem abs_sub_lt_iff_of_lt (h : a < b) : |r - b| < |r - a| ↔ (a + b) / 2 < r := by
  rw [← sq_lt_sq]
  constructor <;> intro hr <;> nlinarith

theorem abs_sub_lt_iff_of_gt (h : a < b) : |r - a| < |r - b| ↔ r < (a + b) / 2 := by
  rw [← sq_lt_sq]
  constructor <;> intro hr <;> nlinarith

theorem abs_sub_eq_iff_of_lt (h : a < b) : |r - a| = |r - b| ↔ r = (a + b) / 2 := by
  rw [← sq_eq_sq_iff_abs_eq_abs]
  constructor
  · intro hr
    have hprod : (b - a) * (2 * r - (a + b)) = 0 := by linarith
    obtain hba | hmid := mul_eq_zero.mp hprod
    · linarith
    · linarith
  · rintro rfl
    ring

end Midpoints

/-- Whether a number is between two others, which belong to the interval if it is closed. -/
def Within (closed : Bool) (lower upper r : ℚ) : Prop :=
  if closed then lower ≤ r ∧ r ≤ upper else lower < r ∧ r < upper

/-- A greater number is preferred from the midpoint on. -/
theorem prefers_lower_iff (h : k < n) :
    (|r - magnitude n| < |r - magnitude k| ∨
      |r - magnitude n| = |r - magnitude k| ∧ n % 2 = 0) ↔
    (magnitude k + magnitude n) / 2 < r ∨ (magnitude k + magnitude n) / 2 = r ∧ n % 2 = 0 := by
  have hlt := strictMono_magnitude h
  rw [abs_sub_lt_iff_of_lt hlt, eq_comm, abs_sub_eq_iff_of_lt hlt, eq_comm]

/-- A lesser number is preferred up to the midpoint. -/
theorem prefers_upper_iff (h : n < k) :
    (|r - magnitude n| < |r - magnitude k| ∨
      |r - magnitude n| = |r - magnitude k| ∧ n % 2 = 0) ↔
    r < (magnitude n + magnitude k) / 2 ∨ r = (magnitude n + magnitude k) / 2 ∧ n % 2 = 0 := by
  have hlt := strictMono_magnitude h
  rw [abs_sub_lt_iff_of_gt hlt, abs_sub_eq_iff_of_lt hlt]

/-- **What rounds to a number** lies between the midpoints to its neighbours. -/
theorem roundsTo_iff (hn : 0 < n) :
    RoundsTo r n ↔ Within (n % 2 = 0) ((magnitude (n - 1) + magnitude n) / 2)
      ((magnitude n + magnitude (n + 1)) / 2) r := by
  have hneighbours : RoundsTo r n ↔
      ((magnitude (n - 1) + magnitude n) / 2 < r ∨
          (magnitude (n - 1) + magnitude n) / 2 = r ∧ n % 2 = 0) ∧
        (r < (magnitude n + magnitude (n + 1)) / 2 ∨
          r = (magnitude n + magnitude (n + 1)) / 2 ∧ n % 2 = 0) := by
    constructor
    · intro h
      exact ⟨(prefers_lower_iff (by omega)).mp (h (n - 1) (by omega)),
        (prefers_upper_iff (by omega)).mp (h (n + 1) (by omega))⟩
    · rintro ⟨hlower, hupper⟩ k hk
      obtain hkn | hnk := Nat.lt_or_gt_of_ne hk
      · have hle : magnitude k ≤ magnitude (n - 1) :=
          strictMono_magnitude.monotone (by omega)
        rw [prefers_lower_iff hkn]
        obtain hlt | ⟨heq, heven⟩ := hlower
        · exact Or.inl (by linarith)
        · obtain hk' | hk' := hle.lt_or_eq
          · exact Or.inl (by linarith)
          · exact Or.inr ⟨hk' ▸ heq, heven⟩
      · have hle : magnitude (n + 1) ≤ magnitude k :=
          strictMono_magnitude.monotone (by omega)
        rw [prefers_upper_iff hnk]
        obtain hlt | ⟨heq, heven⟩ := hupper
        · exact Or.inl (by linarith)
        · obtain hk' | hk' := hle.lt_or_eq
          · exact Or.inl (by linarith)
          · exact Or.inr ⟨hk' ▸ heq, heven⟩
  rw [hneighbours, Within]
  by_cases heven : n % 2 = 0
  · simp only [heven, and_true, decide_true, if_true, le_iff_lt_or_eq]
  · simp only [heven, and_false, or_false, decide_false, Bool.false_eq_true, if_false]

/-- What lies between two numbers that round alike rounds as they do. -/
theorem RoundsTo.of_between {t : ℚ} (hn : 0 < n) (hr : RoundsTo r n) (ht : RoundsTo t n)
    (hrs : r ≤ s) (hst : s ≤ t) : RoundsTo s n := by
  rw [roundsTo_iff hn, Within] at hr ht ⊢
  split at hr
  · next h =>
    rw [if_pos h] at ht ⊢
    exact ⟨hr.1.trans hrs, hst.trans ht.2⟩
  · next h =>
    rw [if_neg h] at ht ⊢
    exact ⟨hr.1.trans_le hrs, hst.trans_lt ht.2⟩

/-- A floating point number rounds to itself. -/
theorem roundsTo_magnitude (n : Nat) : RoundsTo (magnitude n) n := by
  intro k hk
  refine Or.inl ?_
  rw [sub_self, abs_zero, abs_pos, sub_ne_zero]
  exact strictMono_magnitude.injective.ne hk.symm

/-- Only positive numbers round to a positive one. -/
theorem RoundsTo.pos (h : RoundsTo r n) (hn : 0 < n) : 0 < r := by
  obtain hlt | ⟨heq, -⟩ := (prefers_lower_iff hn).mp (h 0 hn.ne)
  · have hpos := magnitude_pos hn
    rw [magnitude_zero] at hlt
    linarith
  · have hpos := magnitude_pos hn
    rw [magnitude_zero] at heq
    linarith

/-- What rounds to a number is less than the next one. -/
theorem RoundsTo.lt_succ (h : RoundsTo r n) : r < magnitude (n + 1) := by
  have hlt := strictMono_magnitude (Nat.lt_succ_self n)
  obtain hr | ⟨hr, -⟩ := (prefers_upper_iff (Nat.lt_succ_self n)).mp (h (n + 1) (by omega))
  · linarith
  · linarith

/-! ### The interval of a number -/

namespace Rounding

/-- The interval from which the digits of a floating point number are taken. -/
def ofBits (bits : Nat) : Rounding :=
  ofBinary (significand bits) (lastPlace bits) (bits % 2 ^ 52 = 0 && 1 < bits / 2 ^ 52)

theorem zpow_eq_div (b : ℚ) (z : Int) : b ^ z = b ^ z.toNat / b ^ (-z).toNat := by
  obtain ⟨m, rfl | rfl⟩ := z.eq_nat_or_neg
  · simp
  · simp

/-- The fraction that stands for a multiple of the unit, in steps of the grid. -/
theorem numerator_eq (R : Rounding) (e : Int) (x : Nat) :
    (R.numerator e x : ℚ) * 10 ^ e = x * 2 ^ R.scale * R.denominator e := by
  have hten : (10 : ℚ) ≠ 0 := by norm_num
  rw [numerator, denominator, zpow_eq_div 2 R.scale, zpow_eq_div 10 e]
  simp only [Nat.pow_eq]
  push_cast
  field_simp

theorem denominator_pos (R : Rounding) (e : Int) : 0 < R.denominator e :=
  Nat.mul_pos (Nat.pow_pos (by decide)) (Nat.pow_pos (by decide))

/-- A multiple of the unit and a point of the grid are compared by their fractions. -/
theorem numerator_le_iff {R : Rounding} {e : Int} {x c : Nat} :
    R.numerator e x ≤ c * R.denominator e ↔ (x : ℚ) * 2 ^ R.scale ≤ c * 10 ^ e := by
  have hd : (0 : ℚ) < R.denominator e := Nat.cast_pos.mpr (R.denominator_pos e)
  have hg : (0 : ℚ) < 10 ^ e := by positivity
  rw [← mul_le_mul_iff_left₀ hd, ← numerator_eq, mul_right_comm (c : ℚ), mul_le_mul_iff_left₀ hg]
  exact_mod_cast Iff.rfl

theorem numerator_lt_iff {R : Rounding} {e : Int} {x c : Nat} :
    R.numerator e x < c * R.denominator e ↔ (x : ℚ) * 2 ^ R.scale < c * 10 ^ e := by
  have hd : (0 : ℚ) < R.denominator e := Nat.cast_pos.mpr (R.denominator_pos e)
  have hg : (0 : ℚ) < 10 ^ e := by positivity
  rw [← mul_lt_mul_iff_left₀ hd, ← numerator_eq, mul_right_comm (c : ℚ), mul_lt_mul_iff_left₀ hg]
  exact_mod_cast Iff.rfl

theorem le_numerator_iff {R : Rounding} {e : Int} {x c : Nat} :
    c * R.denominator e ≤ R.numerator e x ↔ (c : ℚ) * 10 ^ e ≤ x * 2 ^ R.scale := by
  rw [← not_lt, ← not_lt, numerator_lt_iff]

theorem lt_numerator_iff {R : Rounding} {e : Int} {x c : Nat} :
    c * R.denominator e < R.numerator e x ↔ (c : ℚ) * 10 ^ e < x * 2 ^ R.scale := by
  rw [← not_le, ← not_le, numerator_le_iff]

/-- The points of a grid that an interval holds. -/
theorem holds_iff_within {R : Rounding} {e : Int} {c : Nat} :
    R.holds e c = true ↔
      Within R.closed (R.lower * 2 ^ R.scale) (R.upper * 2 ^ R.scale) (c * 10 ^ e) := by
  rw [holds, Within]
  cases R.closed
  · simp only [Bool.false_eq_true, if_false, Bool.and_eq_true, decide_eq_true_eq,
      numerator_lt_iff, lt_numerator_iff]
  · simp only [if_true, Bool.and_eq_true, decide_eq_true_eq, numerator_le_iff, le_numerator_iff]

theorem significand_pos (h : 0 < n) : 0 < significand n := by
  rw [significand]
  split <;> omega

/-- The middle of the interval is the number. -/
theorem ofBits_mid (n : Nat) : ((ofBits n).mid : ℚ) * 2 ^ (ofBits n).scale = magnitude n := by
  rw [ofBits, ofBinary, magnitude, zpow_sub₀ two_ne_zero]
  push_cast
  ring

/-- Its upper end is the midpoint to the next number. -/
theorem ofBits_upper (n : Nat) :
    ((ofBits n).upper : ℚ) * 2 ^ (ofBits n).scale = (magnitude n + magnitude (n + 1)) / 2 := by
  rw [magnitude_succ, ofBits, ofBinary, magnitude, zpow_sub₀ two_ne_zero]
  push_cast
  ring

/-- Its lower end is the midpoint to the number before, which is nearer if its exponent is less. -/
theorem ofBits_lower (h : 0 < n) :
    ((ofBits n).lower : ℚ) * 2 ^ (ofBits n).scale = (magnitude (n - 1) + magnitude n) / 2 := by
  have hdigits := significand_pos h
  have hbefore : magnitude (n - 1) = magnitude n - 2 ^ lastPlace (n - 1) := by
    have hsucc := magnitude_succ (n - 1)
    rw [Nat.sub_add_cancel h] at hsucc
    linarith
  rw [hbefore, ofBits, ofBinary]
  dsimp only
  by_cases hnarrow : n % 2 ^ 52 = 0 ∧ 1 < n / 2 ^ 52
  · have hplace : lastPlace (n - 1) = lastPlace n - 1 := by
      have hdiv : (n - 1) / 2 ^ 52 = n / 2 ^ 52 - 1 := by omega
      rw [lastPlace, lastPlace, hdiv, if_neg (by omega), if_neg (by omega)]
      omega
    rw [if_pos (by simpa using hnarrow), hplace, magnitude, zpow_sub₀ two_ne_zero,
      zpow_sub₀ two_ne_zero, Nat.cast_sub (by omega)]
    push_cast
    ring
  · have hplace : lastPlace (n - 1) = lastPlace n := by
      by_cases hmod : n % 2 ^ 52 = 0
      · -- Here the number is the first one with a leading digit.
        have hone : n / 2 ^ 52 = 1 := by omega
        have hzero : (n - 1) / 2 ^ 52 = 0 := by omega
        rw [lastPlace, lastPlace, hone, hzero]
        rfl
      · have hdiv : (n - 1) / 2 ^ 52 = n / 2 ^ 52 := by omega
        rw [lastPlace, lastPlace, hdiv]
    rw [if_neg (by simpa using hnarrow), hplace, magnitude, zpow_sub₀ two_ne_zero,
      Nat.cast_sub (by omega)]
    push_cast
    ring

theorem ofBits_closed (n : Nat) : (ofBits n).closed = decide (n % 2 = 0) := by
  rw [ofBits, ofBinary, significand, decide_eq_decide]
  split <;> omega

/-- **The points of a grid that lie in the interval of a number** are those that round to it. -/
theorem holds_iff (h : 0 < n) {e : Int} {c : Nat} :
    (ofBits n).holds e c = true ↔ RoundsTo (c * 10 ^ e) n := by
  rw [holds_iff_within, ofBits_lower h, ofBits_upper, ofBits_closed, roundsTo_iff h]

end Rounding

end LintVerdict.Decimal
