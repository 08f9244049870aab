import LintVerdict.Proofs.Decimal
import LintVerdict.Proofs.Decimal.Shortest

/-!
# The text of a floating point number

A decimal is written without an exponent: its digits with zeros behind them, or with a point between
them. The file says which texts a floating point number has, without the function that writes them,
and shows that it writes them.

## Main definitions

* `Leading`: digits without a zero before others.
* `Positional`: the digits before and behind the point of a decimal.
* `WrittenShortest`: the text of a floating point number, one rule for each kind.

## Main results

* `Leading.toDigits_eq`: a number has no other digits than those it is written with.
* `positional_eq_iff`: the text of a decimal is that of its digits.
* `floatText_eq_iff`: the text of a floating point number is the one that the rules give.
-/

namespace LintVerdict.Decimal

/-! ### Runs of digits -/

theorem readDigits_eq (start : Nat) (cs : List Char) :
    readDigits start cs = Nat.ofDigitChars 10 cs start :=
  rfl

theorem readDigits_append (front back : List Char) :
    readDigits 0 (front ++ back) = 10 ^ back.length * readDigits 0 front + readDigits 0 back := by
  rw [readDigits_eq, readDigits_eq, readDigits_eq, Nat.ofDigitChars_append,
    Nat.ofDigitChars_eq_ofDigitChars_zero]

theorem readDigits_toDigits (n : Nat) : readDigits 0 (Nat.toDigits 10 n) = n := by
  rw [readDigits_eq, Nat.ofDigitChars_ten_toDigits]

theorem readDigits_zeros (k : Nat) : readDigits 0 (List.replicate k '0') = 0 := by
  rw [readDigits_eq, Nat.ofDigitChars_replicate_zero, Nat.mul_zero]

theorem isDigit_of_mem_toDigits {n : Nat} {c : Char} (h : c ∈ Nat.toDigits 10 n) :
    isDigit c = true := by
  rw [isDigit_eq]
  exact Nat.isDigit_of_mem_toDigits (by decide) (by decide) h

theorem isDigit_of_mem_zeros {k : Nat} {c : Char} (h : c ∈ List.replicate k '0') :
    isDigit c = true := by
  rw [(List.mem_replicate.mp h).2]
  rfl

theorem isDigit_of_mem_toDigits_zeros {n k : Nat} {d : Char}
    (h : d ∈ Nat.toDigits 10 n ∨ d ∈ List.replicate k '0') : isDigit d = true :=
  h.elim isDigit_of_mem_toDigits isDigit_of_mem_zeros

theorem toNat_of_isDigit {d : Char} (h : isDigit d = true) : 48 ≤ d.toNat ∧ d.toNat ≤ 57 := by
  rw [isDigit, Bool.and_eq_true, decide_eq_true_eq, decide_eq_true_eq] at h
  exact h

theorem digitValue_lt {d : Char} (h : isDigit d = true) : digitValue d < 10 := by
  obtain ⟨hlower, hupper⟩ := toNat_of_isDigit h
  exact Nat.sub_lt_left_of_lt_add hlower (Nat.lt_succ_of_le hupper)

theorem toDigits_digitValue {d : Char} (h : isDigit d = true) :
    Nat.toDigits 10 (digitValue d) = [d] := by
  have hchar : ∀ k < 10, Nat.digitChar k = Char.ofNat (k + 48) := by decide
  have hvalue := digitValue_lt h
  rw [Nat.toDigits_of_lt_base hvalue, hchar _ hvalue, digitValue, show '0'.toNat = 48 from rfl,
    Nat.sub_add_cancel (toNat_of_isDigit h).1, Char.ofNat_toNat]

theorem readDigits_singleton (d : Char) : readDigits 0 [d] = digitValue d :=
  Nat.zero_add _

/-- A run of digits is less than the power of ten with a zero for each of them. -/
theorem readDigits_lt {cs : List Char} (h : ∀ c ∈ cs, isDigit c = true) :
    readDigits 0 cs < 10 ^ cs.length := by
  induction cs using List.reverseRecOn with
  | nil => exact Nat.one_pos
  | append_singleton front d ih =>
      have hfront := ih fun c hc => h c (List.mem_append_left _ hc)
      have hd := digitValue_lt (h d (by simp))
      rw [readDigits_append, readDigits_singleton, List.length_append, List.length_singleton,
        pow_one, Nat.pow_succ]
      omega

/-- Digits without a zero before others. -/
structure Leading (cs : List Char) : Prop where
  digits : ∀ c ∈ cs, isDigit c = true
  nonempty : cs ≠ []
  noZero : cs.head? = some '0' → cs = ['0']

/-- **A number has no other leading digits** than those it is written with. -/
theorem Leading.toDigits_eq {cs : List Char} (h : Leading cs) :
    Nat.toDigits 10 (readDigits 0 cs) = cs := by
  induction cs using List.reverseRecOn with
  | nil => exact absurd rfl h.nonempty
  | append_singleton front d ih =>
      have hd : isDigit d = true := h.digits d (by simp)
      by_cases hfront : front = []
      · subst hfront
        rw [List.nil_append, ← toDigits_digitValue hd, readDigits_toDigits]
      · have hhead : (front ++ [d]).head? = front.head? := List.head?_append_of_ne_nil _ hfront
        have hnozero : front.head? ≠ some '0' := fun hzero => by
          have hsingle := h.noZero (hhead.trans hzero)
          exact hfront (List.append_eq_singleton_iff.mp hsingle |>.elim (·.1) (by simp))
        have hleading : Leading front :=
          ⟨fun c hc => h.digits c (List.mem_append_left _ hc), hfront,
            fun hzero => absurd hzero hnozero⟩
        have hdigits := ih hleading
        have hpos : 0 < readDigits 0 front := by
          refine Nat.pos_of_ne_zero fun hzero => hnozero ?_
          rw [← hdigits, hzero]
          rfl
        rw [readDigits_append, readDigits_singleton, List.length_singleton, pow_one,
          ← Nat.toDigits_append_toDigits (by decide) hpos (digitValue_lt hd), hdigits,
          toDigits_digitValue hd]

theorem head?_toDigits_ne {n : Nat} (h : n ≠ 0) : (Nat.toDigits 10 n).head? ≠ some '0' := by
  have hhead := head?_toString_ne h
  rwa [Nat.toString_eq_repr, Nat.toList_repr] at hhead

/-- Runs of digits of one length with the same value are the same. -/
theorem eq_of_readDigits_eq {cs ds : List Char} (hcs : ∀ c ∈ cs, isDigit c = true)
    (hds : ∀ d ∈ ds, isDigit d = true) (hlength : cs.length = ds.length)
    (h : readDigits 0 cs = readDigits 0 ds) : cs = ds := by
  -- With a one before them they are leading digits.
  have hone : ∀ {run : List Char}, (∀ c ∈ run, isDigit c = true) → Leading ('1' :: run) :=
    fun hrun => ⟨List.forall_mem_cons.mpr ⟨rfl, hrun⟩, List.cons_ne_nil _ _,
      fun hzero => absurd (Option.some.inj hzero) (by decide)⟩
  have hvalue : readDigits 0 (['1'] ++ cs) = readDigits 0 (['1'] ++ ds) := by
    rw [readDigits_append, readDigits_append, h, hlength]
  exact List.cons_inj_right '1' |>.mp
    ((hone hcs).toDigits_eq.symm.trans ((congrArg _ hvalue).trans (hone hds).toDigits_eq))

/-! ### Decimals without an exponent -/

/-- The digits before and behind the point of the decimal `c * 10 ^ e`. -/
structure Positional (c : Nat) (e : Int) (whole fraction : List Char) : Prop where
  /-- Before the point stands no zero but a single one. -/
  leading : Leading whole
  digits : ∀ d ∈ fraction, isDigit d = true
  /-- Behind it stands a digit for each negative place. -/
  length : fraction.length = (-e).toNat
  value : readDigits 0 (whole ++ fraction) = c * 10 ^ e.toNat

/-- Digits with a point, if there are any behind it. -/
def pointed (whole fraction : List Char) : String :=
  String.ofList (if fraction = [] then whole else whole ++ '.' :: fraction)

variable {c : Nat} {e : Int} {whole fraction : List Char}

/-- **A decimal has only one form without an exponent.** -/
theorem Positional.unique {whole' fraction' : List Char} (h : Positional c e whole fraction)
    (h' : Positional c e whole' fraction') : whole = whole' ∧ fraction = fraction' := by
  have hlength : fraction.length = fraction'.length := h.length.trans h'.length.symm
  have hvalue := h.value.trans h'.value.symm
  have hlt := readDigits_lt h.digits
  have hlt' := readDigits_lt h'.digits
  rw [readDigits_append, readDigits_append, ← hlength] at hvalue
  rw [← hlength] at hlt'
  have hwhole : readDigits 0 whole = readDigits 0 whole' := by
    have hpos : 0 < 10 ^ fraction.length := Nat.pow_pos (by decide)
    have hdiv := congrArg (· / 10 ^ fraction.length) hvalue
    rwa [Nat.mul_add_div hpos, Nat.mul_add_div hpos, Nat.div_eq_of_lt hlt,
      Nat.div_eq_of_lt hlt'] at hdiv
  have hfraction : readDigits 0 fraction = readDigits 0 fraction' := by
    rw [hwhole] at hvalue
    exact Nat.add_left_cancel hvalue
  constructor
  · rw [← h.leading.toDigits_eq, hwhole, h'.leading.toDigits_eq]
  · exact eq_of_readDigits_eq h.digits h'.digits hlength hfraction

/-- Zeros stand behind the digits. -/
theorem Positional.of_nonneg (hc : 0 < c) (he : 0 ≤ e) :
    Positional c e (Nat.toDigits 10 c ++ List.replicate e.toNat '0') [] where
  leading := by
    refine ⟨fun d hd => isDigit_of_mem_toDigits_zeros (List.mem_append.mp hd),
      List.append_ne_nil_of_left_ne_nil Nat.toDigits_ne_nil _, fun hfirst => ?_⟩
    rw [List.head?_append_of_ne_nil _ Nat.toDigits_ne_nil] at hfirst
    exact absurd hfirst (head?_toDigits_ne hc.ne')
  digits := nofun
  length := by
    rw [List.length_nil]
    omega
  value := by
    rw [List.append_nil, readDigits_append, readDigits_zeros, readDigits_toDigits,
      List.length_replicate, Nat.add_zero, Nat.mul_comm]

/-- All digits stand behind the point. -/
theorem Positional.of_length_le (he : e ≤ 0) (hshort : (Nat.toDigits 10 c).length ≤ (-e).toNat) :
    Positional c e ['0']
      (List.replicate ((-e).toNat - (Nat.toDigits 10 c).length) '0' ++ Nat.toDigits 10 c) where
  leading := ⟨List.forall_mem_singleton.mpr rfl, List.cons_ne_nil _ _, fun _ => rfl⟩
  digits := fun _ hd => isDigit_of_mem_toDigits_zeros (List.mem_append.mp hd).symm
  length := by
    rw [List.length_append, List.length_replicate]
    exact Nat.sub_add_cancel hshort
  value := by
    have hzero : e.toNat = 0 := by omega
    rw [readDigits_append, readDigits_append, readDigits_zeros, readDigits_toDigits, hzero]
    simp [readDigits_singleton, digitValue]

/-- The point stands between the digits. -/
theorem Positional.of_lt_length (hc : 0 < c) (he : e ≤ 0)
    (hlong : (-e).toNat < (Nat.toDigits 10 c).length) :
    Positional c e ((Nat.toDigits 10 c).take ((Nat.toDigits 10 c).length - (-e).toNat))
      ((Nat.toDigits 10 c).drop ((Nat.toDigits 10 c).length - (-e).toNat)) where
  leading := by
    refine ⟨fun d hd => isDigit_of_mem_toDigits (List.mem_of_mem_take hd), ?_, fun hfirst => ?_⟩
    · rw [← List.length_pos_iff, List.length_take_of_le (Nat.sub_le _ _)]
      omega
    · rw [List.head?_take, if_neg (by omega)] at hfirst
      exact absurd hfirst (head?_toDigits_ne hc.ne')
  digits := fun _ hd => isDigit_of_mem_toDigits (List.mem_of_mem_drop hd)
  length := by
    rw [List.length_drop]
    omega
  value := by
    have hzero : e.toNat = 0 := by omega
    rw [List.take_append_drop, readDigits_toDigits, hzero, pow_zero, Nat.mul_one]

/-- Every positive decimal is written in this form. -/
theorem exists_positional (hc : 0 < c) (e : Int) :
    ∃ whole fraction, Positional c e whole fraction ∧ positional c e = pointed whole fraction := by
  have hnonempty : Nat.toDigits 10 c ≠ [] := Nat.toDigits_ne_nil
  unfold positional
  extract_lets digits places
  split
  · next he => exact ⟨_, _, .of_nonneg hc he, rfl⟩
  · next he =>
    have hnonpos : e ≤ 0 := by omega
    split
    · next hshort =>
      refine ⟨_, _, .of_length_le hnonpos hshort, ?_⟩
      rw [pointed, if_neg (List.append_ne_nil_of_right_ne_nil _ hnonempty)]
      exact String.toList_inj.mp (by simp [digits, places])
    · next hlong =>
      have hfraction : digits.drop (digits.length - places) ≠ [] := by
        rw [← List.length_pos_iff, List.length_drop]
        omega
      refine ⟨_, _, .of_lt_length hc hnonpos (Nat.lt_of_not_le hlong), ?_⟩
      rw [pointed, if_neg hfraction]
      exact String.toList_inj.mp (by simp [digits, places])

/-- **The text of a decimal is that of its digits.** -/
theorem positional_eq_iff (hc : 0 < c) {text : String} :
    positional c e = text ↔
      ∃ whole fraction, Positional c e whole fraction ∧ text = pointed whole fraction := by
  obtain ⟨whole, fraction, hparts, htext⟩ := exists_positional hc e
  constructor
  · rintro rfl
    exact ⟨whole, fraction, hparts, htext⟩
  · rintro ⟨whole', fraction', hparts', rfl⟩
    obtain ⟨rfl, rfl⟩ := hparts.unique hparts'
    exact htext

/-! ### Floating point numbers -/

/-- The bits of a floating point number without its sign. -/
def unsignedBits (x : Float) : Nat := x.toBits.toNat % 2 ^ 63

/-- The sign of a floating point number. -/
def signText (x : Float) : String :=
  if x.toBits.toNat / 2 ^ 63 = 1 then "-" else ""

/-- The text of a floating point number. -/
inductive WrittenShortest (x : Float) : String → Prop
  /-- What is no number has no sign. -/
  | nan : infinityBits < unsignedBits x → WrittenShortest x "NaN"
  | infinity : unsignedBits x = infinityBits → WrittenShortest x (signText x ++ "inf")
  | zero : unsignedBits x = 0 → WrittenShortest x (signText x ++ "0")
  /-- Any other number is written with the shortest digits that round to it. -/
  | digits {c : Nat} {e : Int} {whole fraction : List Char} :
      0 < unsignedBits x → unsignedBits x < infinityBits →
      ShortestDigits (unsignedBits x) c e → Positional c e whole fraction →
      WrittenShortest x (signText x ++ pointed whole fraction)

/-- The text of a finite number is that of the decimal that the search finds. -/
theorem finiteText_of_shortest? {n : Nat} (hn : 0 < n)
    (h : (Rounding.ofBits n).shortest? = some (c, e)) :
    finiteText (n / 2 ^ 52) (n % 2 ^ 52) = positional c e := by
  have hdigits : significand n ≠ 0 := (Rounding.significand_pos hn).ne'
  unfold Rounding.ofBits significand lastPlace at h
  unfold significand at hdigits
  unfold finiteText
  simp only [Nat.pow_eq, h, if_neg hdigits]

theorem finiteText_zero : finiteText 0 0 = "0" := by
  unfold finiteText
  simp only [if_true]
  generalize Rounding.shortest? _ = found
  cases found <;> rfl

/-- The text of a positive finite number. -/
theorem finiteText_eq_iff {n : Nat} (hn : 0 < n) (hfin : n < infinityBits) {text : String} :
    finiteText (n / 2 ^ 52) (n % 2 ^ 52) = text ↔
      ∃ c e whole fraction, ShortestDigits n c e ∧ Positional c e whole fraction ∧
        text = pointed whole fraction := by
  obtain ⟨c, e, hfound, hshortest⟩ := Rounding.exists_shortest?_eq_some hn hfin
  have hpos := hshortest.pos hn
  rw [finiteText_of_shortest? hn hfound, positional_eq_iff hpos]
  constructor
  · rintro ⟨whole, fraction, hparts, rfl⟩
    exact ⟨c, e, whole, fraction, hshortest, hparts, rfl⟩
  · rintro ⟨c', e', whole, fraction, hshortest', hparts, rfl⟩
    obtain ⟨rfl, rfl⟩ := hshortest.unique hshortest'
    exact ⟨whole, fraction, hparts, rfl⟩

/-- The parts of a floating point number are those of its bits without the sign. -/
theorem floatText_eq (x : Float) :
    floatText x =
      if unsignedBits x / 2 ^ 52 = 2047 then
        if unsignedBits x % 2 ^ 52 = 0 then signText x ++ "inf" else "NaN"
      else signText x ++ finiteText (unsignedBits x / 2 ^ 52) (unsignedBits x % 2 ^ 52) := by
  have hexponent : unsignedBits x / 2 ^ 52 = x.toBits.toNat / Nat.pow 2 52 % Nat.pow 2 11 := by
    rw [unsignedBits, Nat.pow_eq, Nat.pow_eq]
    omega
  have hfraction : unsignedBits x % 2 ^ 52 = x.toBits.toNat % Nat.pow 2 52 := by
    rw [unsignedBits, Nat.pow_eq]
    omega
  rw [hexponent, hfraction]
  rfl

/-- **The text of a floating point number** is the one that the rules give. -/
theorem floatText_eq_iff {x : Float} {text : String} :
    floatText x = text ↔ WrittenShortest x text := by
  have hbound : unsignedBits x < 2 ^ 63 := Nat.mod_lt _ (by decide)
  have hinfinity : infinityBits = 2047 * 2 ^ 52 := rfl
  rw [floatText_eq]
  split
  · next hexponent =>
    split
    · next hfraction =>
      have hbits : unsignedBits x = infinityBits := by omega
      constructor
      · rintro rfl
        exact .infinity hbits
      · intro h
        cases h <;> first | rfl | omega
    · next hfraction =>
      have hbits : infinityBits < unsignedBits x := by omega
      constructor
      · rintro rfl
        exact .nan hbits
      · intro h
        cases h <;> first | rfl | omega
  · next hexponent =>
    have hbits : unsignedBits x < infinityBits := by omega
    obtain hzero | hpos := Nat.eq_zero_or_pos (unsignedBits x)
    · rw [hzero, Nat.zero_div, Nat.zero_mod, finiteText_zero]
      constructor
      · rintro rfl
        exact .zero hzero
      · intro h
        cases h <;> first | rfl | omega
    · constructor
      · rintro rfl
        obtain ⟨c, e, whole, fraction, hshortest, hparts, htext⟩ :=
          (finiteText_eq_iff hpos hbits).mp rfl
        rw [htext]
        exact .digits hpos hbits hshortest hparts
      · intro h
        cases h with
        | digits _ _ hshortest hparts =>
            rw [(finiteText_eq_iff hpos hbits).mpr ⟨_, _, _, _, hshortest, hparts, rfl⟩]
        | nan h => omega
        | infinity h => omega
        | zero h => omega

end LintVerdict.Decimal
