import LintVerdict.Decimal.Numeral
import LintVerdict.Decimal.Shortest

/-!
# Numbers written out

A natural number that is written out in decimal is read back, and only digits are read. The text
of a floating point number needs a few characters more.

## Main results

* `Decimal.boundedNat?_toString`: a number below the bound is read back.
* `Decimal.mem_floatText`: the characters of a floating point number's text.
-/

namespace LintVerdict.Decimal

variable {n bound : Nat} {c : Char}

theorem isDigit_eq (c : Char) : isDigit c = c.isDigit :=
  rfl

theorem isDigit_of_mem_toString (h : c ∈ (toString n).toList) : isDigit c = true := by
  rw [Nat.toString_eq_repr, Nat.toList_repr] at h
  rw [isDigit_eq]
  exact Nat.isDigit_of_mem_toDigits (by decide) (by decide) h

theorem toString_ne_nil (n : Nat) : (toString n).toList ≠ [] := by
  rw [Nat.toString_eq_repr, Nat.toList_repr]
  exact Nat.toDigits_ne_nil

/-- No zero stands before other digits. -/
theorem head?_toString_ne (h : n ≠ 0) : (toString n).toList.head? ≠ some '0' := by
  rw [Nat.toString_eq_repr, Nat.toList_repr]
  induction n using Nat.strongRecOn with
  | ind n ih =>
      by_cases hn : n < 10
      · have hdigit : ∀ m < 10, m ≠ 0 → [Nat.digitChar m].head? ≠ some '0' := by decide
        rw [Nat.toDigits_of_lt_base hn]
        exact hdigit n hn h
      · have hfront : n / 10 ≠ 0 := by omega
        have hih := ih (n / 10) (by omega) hfront
        obtain ⟨d, ds, hds⟩ : ∃ d ds, Nat.toDigits 10 (n / 10) = d :: ds :=
          List.exists_cons_of_ne_nil Nat.toDigits_ne_nil
        rw [Nat.toDigits_of_base_le (by decide) (by omega), hds]
        rwa [hds] at hih

theorem decimal?_toString (n : Nat) : decimal? (toString n).toList = some n := by
  have hread : readDigits 0 (toString n).toList = n := by
    rw [Nat.toString_eq_repr, Nat.toList_repr]
    exact Nat.ofDigitChars_ten_toDigits
  rw [decimal?, if_pos ⟨toString_ne_nil n, List.all_eq_true.mpr fun c => isDigit_of_mem_toString⟩,
    hread]

theorem decimal?_eq_some_iff {cs : List Char} :
    decimal? cs = some n ↔ (cs ≠ [] ∧ ∀ c ∈ cs, isDigit c = true) ∧ readDigits 0 cs = n := by
  rw [decimal?, Option.ite_none_right_eq_some, Option.some.injEq, List.all_eq_true]

theorem dropPlus_of_notMem {cs : List Char} (h : '+' ∉ cs) : dropPlus cs = cs := by
  unfold dropPlus
  split
  · exact absurd List.mem_cons_self h
  · rfl

/-- A number below the bound is read back. -/
theorem boundedNat?_toString (h : n < bound) : boundedNat? bound (toString n).toList = some n := by
  have hplus : '+' ∉ (toString n).toList := fun hmem =>
    absurd (isDigit_of_mem_toString hmem) (by decide)
  rw [boundedNat?, dropPlus_of_notMem hplus, decimal?_toString, Option.filter_some,
    decide_eq_true h]
  rfl

/-! ### Floating point numbers -/

theorem mem_positional {e : Int} (h : c ∈ (positional n e).toList) :
    isDigit c = true ∨ c = '.' := by
  have hdigits : ∀ d ∈ Nat.toDigits 10 n, isDigit d = true := by
    intro d hd
    rw [isDigit_eq]
    exact Nat.isDigit_of_mem_toDigits (by decide) (by decide) hd
  have hzeros : ∀ k, ∀ d ∈ List.replicate k '0', isDigit d = true := by
    intro k d hd
    rw [(List.mem_replicate.mp hd).2]
    rfl
  unfold positional at h
  dsimp only at h
  split at h
  · rw [String.toList_ofList, List.mem_append] at h
    exact Or.inl (h.elim (hdigits c) (hzeros _ c))
  split at h
  · simp only [String.toList_append, String.toList_ofList, List.mem_append] at h
    obtain h | h | h := h
    · have hlead : ∀ d ∈ "0.".toList, isDigit d = true ∨ d = '.' := by simp [isDigit]
      exact hlead c h
    · exact Or.inl (hzeros _ c h)
    · exact Or.inl (hdigits c h)
  · simp only [String.toList_append, String.toList_ofList, List.mem_append] at h
    obtain (h | h) | h := h
    · exact Or.inl (hdigits c (List.mem_of_mem_take h))
    · exact Or.inr (by simpa using h)
    · exact Or.inl (hdigits c (List.mem_of_mem_drop h))

theorem mem_finiteText {exponent fraction : Nat}
    (h : c ∈ (finiteText exponent fraction).toList) : isDigit c = true ∨ c = '.' := by
  have hzero : ∀ d ∈ "0".toList, isDigit d = true := by simp [isDigit]
  unfold finiteText at h
  extract_lets m q at h
  split at h
  · split at h
    · exact Or.inl (hzero c h)
    · exact mem_positional h
  · exact Or.inl (hzero c h)

/-- The text of a floating point number has digits, a point and a sign, if it is no word. -/
theorem mem_floatText {x : Float} (h : c ∈ (floatText x).toList) :
    isDigit c = true ∨ c ∈ ".-infNa".toList := by
  unfold floatText at h
  extract_lets bits exponent fraction sign at h
  have hsign : ∀ d ∈ sign.toList, d = '-' := by
    dsimp only [sign]
    split <;> simp
  split at h
  · split at h
    · rw [String.toList_append, List.mem_append] at h
      obtain h | h := h
      · obtain rfl := hsign c h
        exact Or.inr (by decide)
      · have hword : "inf".toList ⊆ ".-infNa".toList := by simp
        exact Or.inr (hword h)
    · have hword : "NaN".toList ⊆ ".-infNa".toList := by simp
      exact Or.inr (hword h)
  · rw [String.toList_append, List.mem_append] at h
    obtain h | h := h
    · obtain rfl := hsign c h
      exact Or.inr (by decide)
    · obtain h | rfl := mem_finiteText h
      · exact Or.inl h
      · exact Or.inr (by decide)

end LintVerdict.Decimal
