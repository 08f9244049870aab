import Mathlib.Data.List.Sort
import Mathlib.Data.String.Basic
import Mathlib.Order.Basic

/-!
# The order of bytes

Texts are ordered by their characters. Their bytes in UTF-8 are in the same order: of two different
characters, the one that comes first has the lesser byte where their bytes first differ. Neither is
the other with more bytes behind it, so what follows the characters does not matter.

## Main definitions

* `Text.utf8`: the bytes of a text.

## Main results

* `Text.lt_iff_utf8_lt`: the order of texts is the order of their bytes.
-/

namespace LintVerdict.Text

/-- The bytes of a text in UTF-8. -/
def utf8 (s : String) : List UInt8 := s.toUTF8.data.toList

/-- The bytes of a text are those of its characters. -/
theorem utf8_eq (s : String) : utf8 s = s.toList.flatMap String.utf8EncodeChar := by
  conv_lhs => rw [← String.ofList_toList (s := s)]
  rw [utf8, String.toUTF8_eq_toByteArray, String.toByteArray_ofList, List.utf8Encode,
    List.data_toByteArray]

/-! ### Characters

The bytes of a character hold the digits of its number to the base 64, the first byte with a mark
that is greater for more bytes. -/

variable {n m k : ℕ} {s t : List UInt8}

/-- The lesser byte decides. -/
theorem byte_cons_lt (h : n < m) (hm : m < 256) :
    UInt8.ofNat n :: s < UInt8.ofNat m :: t :=
  List.cons_lt_cons_iff.mpr (Or.inl ((UInt8.ofNat_lt_iff_lt (h.trans hm) hm).mpr h))

/-- Digits with the same mark: the lesser one decides, and what follows if they are equal. -/
theorem marked_cons_lt (h : n < m ∨ n = m ∧ s < t) (hm : m + k < 256) :
    UInt8.ofNat (n + k) :: s < UInt8.ofNat (m + k) :: t := by
  obtain hlt | ⟨rfl, hst⟩ := h
  · exact byte_cons_lt (Nat.add_lt_add_right hlt k) hm
  · exact List.cons_lt_cons_iff.mpr (Or.inr ⟨rfl, hst⟩)

/-- The order of two numbers is that of their last digits where the digits before are the same. -/
theorem digit_cons_lt (h : n < m ∨ n = m ∧ s < t) :
    n / 64 < m / 64 ∨
      n / 64 = m / 64 ∧ UInt8.ofNat (n % 64 + 128) :: s < UInt8.ofNat (m % 64 + 128) :: t := by
  by_cases hhigh : n / 64 = m / 64
  · have hlow : n % 64 < m % 64 ∨ n % 64 = m % 64 ∧ s < t :=
      h.imp (fun hlt => by omega) fun ⟨heq, hst⟩ => ⟨congrArg (· % 64) heq, hst⟩
    exact Or.inr ⟨hhigh, marked_cons_lt hlow (by omega)⟩
  · have hle : n ≤ m := h.elim Nat.le_of_lt fun ⟨heq, _⟩ => heq.le
    exact Or.inl (Nat.lt_of_le_of_ne (Nat.div_le_div_right hle) hhigh)

/-- The lesser character has the lesser bytes, whatever follows it. -/
theorem encodeChar_append_lt {c d : Char} (h : c < d) (s t : List UInt8) :
    String.utf8EncodeChar c ++ s < String.utf8EncodeChar d ++ t := by
  have hcd : c.val.toNat < d.val.toNat := h
  have hd : d.val.toNat < 0x110000 := by
    obtain hlow | hhigh := d.valid
    · exact hlow.trans (by decide)
    · exact hhigh.2
  unfold String.utf8EncodeChar
  generalize c.val.toNat = n at hcd
  generalize d.val.toNat = m at hcd hd
  have hn₂ : n / 4096 = n / 64 / 64 := by rw [Nat.div_div_eq_div_mul]
  have hm₂ : m / 4096 = m / 64 / 64 := by rw [Nat.div_div_eq_div_mul]
  have hn₃ : n / 262144 % 8 = n / 64 / 64 / 64 := by omega
  have hm₃ : m / 262144 % 8 = m / 64 / 64 / 64 := by omega
  have h₁ := digit_cons_lt (s := s) (t := t) (Or.inl hcd)
  have h₂ := digit_cons_lt h₁
  have h₃ := digit_cons_lt h₂
  dsimp only
  rw [hn₂, hm₂, hn₃, hm₃]
  -- The lesser character has no more bytes than the other one. If it has fewer, the marks decide.
  split_ifs <;> try omega
  · exact byte_cons_lt hcd (by omega)
  · exact byte_cons_lt (by omega) (by omega)
  · exact byte_cons_lt (by omega) (by omega)
  · exact byte_cons_lt (by omega) (by omega)
  · rw [Nat.mod_eq_of_lt (a := n / 64) (b := 32) (by omega),
      Nat.mod_eq_of_lt (a := m / 64) (b := 32) (by omega)]
    exact marked_cons_lt h₁ (by omega)
  · exact byte_cons_lt (by omega) (by omega)
  · exact byte_cons_lt (by omega) (by omega)
  · rw [Nat.mod_eq_of_lt (a := n / 64 / 64) (b := 16) (by omega),
      Nat.mod_eq_of_lt (a := m / 64 / 64) (b := 16) (by omega)]
    exact marked_cons_lt h₂ (by omega)
  · exact byte_cons_lt (by omega) (by omega)
  · exact marked_cons_lt h₃ (by omega)

/-! ### Texts -/

/-- The bytes of characters are in the order of the characters. -/
theorem flatMap_encodeChar_lt {cs ds : List Char} (h : cs < ds) :
    cs.flatMap String.utf8EncodeChar < ds.flatMap String.utf8EncodeChar := by
  induction h with
  | @nil d ds =>
      obtain ⟨x, xs, hx⟩ := List.exists_cons_of_ne_nil (String.utf8EncodeChar_ne_nil (c := d))
      rw [List.flatMap_cons, hx]
      exact List.nil_lt_cons x _
  | cons _ ih =>
      rw [List.flatMap_cons, List.flatMap_cons]
      exact List.append_left_lt ih
  | rel hlt =>
      rw [List.flatMap_cons, List.flatMap_cons]
      exact encodeChar_append_lt hlt _ _

/-- **The order of texts is the order of their bytes.** -/
theorem lt_iff_utf8_lt {a b : String} : a < b ↔ utf8 a < utf8 b := by
  have hlt {a b : String} (h : a < b) : utf8 a < utf8 b := by
    rw [utf8_eq, utf8_eq]
    exact flatMap_encodeChar_lt (String.lt_iff_toList_lt.mp h)
  refine ⟨hlt, fun h => ?_⟩
  obtain hab | rfl | hba := lt_trichotomy a b
  · exact hab
  · exact absurd h (List.lt_irrefl _)
  · exact absurd (hlt hba) (List.lt_asymm h)

theorem le_iff_utf8_le {a b : String} : a ≤ b ↔ utf8 a ≤ utf8 b := by
  rw [← not_lt, lt_iff_utf8_lt, List.not_lt]

/-- Texts that are sorted are in the order of their bytes. -/
theorem pairwise_le_mergeSort (texts : List String) :
    (texts.mergeSort fun a b => decide (a ≤ b)).Pairwise fun a b => utf8 a ≤ utf8 b :=
  List.sortedLE_mergeSort.pairwise.imp fun hle => le_iff_utf8_le.mp hle

/-- Distinct texts in the order of their bytes are so strictly. -/
theorem pairwise_lt_of_nodup {texts : List String}
    (h : texts.Pairwise fun a b => utf8 a ≤ utf8 b) (hnodup : texts.Nodup) :
    texts.Pairwise fun a b => utf8 a < utf8 b :=
  (h.and hnodup).imp fun ⟨hle, hne⟩ =>
    lt_iff_utf8_lt.mp (lt_of_le_of_ne (le_iff_utf8_le.mpr hle) hne)

/-- Distinct texts that are sorted are in the order of their bytes. -/
theorem pairwise_mergeSort {texts : List String} (h : texts.Nodup) :
    (texts.mergeSort fun a b => decide (a ≤ b)).Pairwise fun a b => utf8 a < utf8 b :=
  pairwise_lt_of_nodup (pairwise_le_mergeSort texts) ((List.mergeSort_perm texts _).nodup_iff.mpr h)

end LintVerdict.Text
