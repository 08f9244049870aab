import Mathlib.Data.List.Induction
import LintVerdict.Proofs.Text.ByteOrder
import LintVerdict.Proofs.Text.Split
import LintVerdict.Text.Bytes

/-!
# Texts and their bytes

The bytes of a text are read as the text. So a text of the system that is UTF-8 stands for one text,
and it is that text's encoding. A character of ASCII is one byte, and no other character has such a
byte. So texts that are joined by slashes are encoded one by one.

## Main results

* `Text.lossy_toUTF8`: bytes that are a text are read as it.
* `Text.decoded_encoded`: an encoded text is shown as it is.
* `Text.decoded?_eq_some_iff`: what is UTF-8 is the encoding of its text.
* `Text.encoded_joinWith`: pieces are encoded one by one.
-/

namespace LintVerdict.Text

/-! ### Reading

The bytes of a text are read character by character. How many bytes a character takes is told by
the first one of them. -/

variable {a b c d : Nat} {ch : Char} {rest : List Nat}

/-- Bytes that have been read are passed over. -/
theorem lossyBehind_length (more rest : List Nat) :
    lossyBehind more.length (more ++ rest) = lossyChars rest := by
  induction more with
  | nil => rfl
  | cons b more ih => rw [List.length_cons, List.cons_append, lossyBehind, ih]

/-- The rest is read on behind the bytes of the first character. -/
theorem lossyChars_of_firstChar (more : List Nat)
    (h : firstChar (a :: (more ++ rest)) = (ch, more.length + 1)) :
    lossyChars (a :: (more ++ rest)) = ch :: lossyChars rest := by
  rw [lossyChars, lossyBehind, h]
  dsimp only
  rw [Nat.add_sub_cancel, lossyBehind_length]

/-- A byte may follow a first one if it continues it and is not out of the bounds that four first
bytes have. -/
theorem pairs_of_bounds (hb : 0x80 ≤ b ∧ b ≤ 0xBF) (hoverlong₃ : a = 0xE0 → 0xA0 ≤ b)
    (hsurrogate : a = 0xED → b ≤ 0x9F) (hoverlong₄ : a = 0xF0 → 0x90 ≤ b)
    (hlarge : a = 0xF4 → b ≤ 0x8F) : pairs a b = true := by
  unfold pairs continues
  split_ifs <;> simp only [Bool.and_eq_true, decide_eq_true_eq] <;> omega

theorem firstChar_one (ha : a < 0x80) : firstChar (a :: rest) = (Char.ofNat a, 1) := by
  rw [firstChar.eq_def]
  exact if_pos ha

theorem firstChar_two (ha : 0xC2 ≤ a ∧ a < 0xE0) (hb : pairs a b = true) :
    firstChar (a :: b :: rest) = (Char.ofNat ((a - 0xC0) * 64 + (b - 0x80)), 2) := by
  rw [firstChar.eq_def]
  dsimp only
  rw [if_neg (by omega), if_neg (by simp; omega), hb, if_neg (by simp), if_pos ha.2]

theorem firstChar_three (ha : 0xE0 ≤ a ∧ a < 0xF0) (hb : pairs a b = true)
    (hc : continues c = true) :
    firstChar (a :: b :: c :: rest) =
      (Char.ofNat ((a - 0xE0) * 4096 + (b - 0x80) * 64 + (c - 0x80)), 3) := by
  rw [firstChar.eq_def]
  dsimp only
  rw [if_neg (by omega), if_neg (by simp; omega), hb, if_neg (by simp), if_neg (by omega), hc,
    if_neg (by simp), if_pos ha.2]

theorem firstChar_four (ha : 0xF0 ≤ a ∧ a ≤ 0xF4) (hb : pairs a b = true)
    (hc : continues c = true) (hd : continues d = true) :
    firstChar (a :: b :: c :: d :: rest) =
      (Char.ofNat ((a - 0xF0) * 262144 + (b - 0x80) * 4096 + (c - 0x80) * 64 + (d - 0x80)), 4) := by
  rw [firstChar.eq_def]
  dsimp only
  rw [if_neg (by omega), if_neg (by simp; omega), hb, if_neg (by simp), if_neg (by omega), hc,
    if_neg (by simp), if_neg (by omega), hd, if_neg (by simp)]

/-- The last bytes of a character continue it. -/
theorem continues_digit (n : Nat) : continues (n % 64 + 128) = true := by
  simp only [continues, Bool.and_eq_true, decide_eq_true_eq]
  omega

/-- The bytes of a character are read as the character, whatever follows. -/
theorem lossyChars_encodeChar (ch : Char) (rest : List Nat) :
    lossyChars ((String.utf8EncodeChar ch).map UInt8.toNat ++ rest) = ch :: lossyChars rest := by
  have hvalid : ch.val.toNat < 0xD800 ∨ 0xDFFF < ch.val.toNat ∧ ch.val.toNat < 0x110000 := ch.valid
  have hch : Char.ofNat ch.val.toNat = ch := Char.ofNat_toNat ch
  have hbyte {n : Nat} (h : n < 256) : (UInt8.ofNat n).toNat = n :=
    (UInt8.toNat_ofNat_of_lt' h)
  unfold String.utf8EncodeChar
  generalize ch.val.toNat = n at hvalid hch
  dsimp only
  split_ifs with h₁ h₂ h₃
  · rw [List.map_singleton, hbyte (by omega), List.singleton_append]
    refine lossyChars_of_firstChar [] ?_
    rw [List.nil_append, firstChar_one (by omega), hch]
    rfl
  · have hlow : n / 64 % 32 = n / 64 := by omega
    have hpairs : pairs (n / 64 + 192) (n % 64 + 128) = true :=
      pairs_of_bounds (by omega) (by omega) (by omega) (by omega) (by omega)
    have hsum : (n / 64 + 192 - 192) * 64 + (n % 64 + 128 - 128) = n := by omega
    simp only [List.map_cons, List.map_nil, hlow]
    rw [hbyte (by omega), hbyte (by omega)]
    refine lossyChars_of_firstChar [n % 64 + 128] ?_
    rw [List.singleton_append, firstChar_two (by omega) hpairs, hsum, hch]
    rfl
  · have hlow : n / 4096 % 16 = n / 4096 := by omega
    have hpairs : pairs (n / 4096 + 224) (n / 64 % 64 + 128) = true :=
      pairs_of_bounds (by omega) (by omega) (by omega) (by omega) (by omega)
    have hsum : (n / 4096 + 224 - 224) * 4096 + (n / 64 % 64 + 128 - 128) * 64 +
        (n % 64 + 128 - 128) = n := by omega
    simp only [List.map_cons, List.map_nil, hlow]
    rw [hbyte (by omega), hbyte (by omega), hbyte (by omega)]
    refine lossyChars_of_firstChar [n / 64 % 64 + 128, n % 64 + 128] ?_
    rw [List.cons_append, List.singleton_append,
      firstChar_three (by omega) hpairs (continues_digit n), hsum, hch]
    rfl
  · have hlow : n / 262144 % 8 = n / 262144 := by omega
    have hpairs : pairs (n / 262144 + 240) (n / 4096 % 64 + 128) = true :=
      pairs_of_bounds (by omega) (by omega) (by omega) (by omega) (by omega)
    have hsum : (n / 262144 + 240 - 240) * 262144 + (n / 4096 % 64 + 128 - 128) * 4096 +
        (n / 64 % 64 + 128 - 128) * 64 + (n % 64 + 128 - 128) = n := by omega
    simp only [List.map_cons, List.map_nil, hlow]
    rw [hbyte (by omega), hbyte (by omega), hbyte (by omega), hbyte (by omega)]
    refine lossyChars_of_firstChar [n / 4096 % 64 + 128, n / 64 % 64 + 128, n % 64 + 128] ?_
    rw [List.cons_append, List.cons_append, List.singleton_append,
      firstChar_four (by omega) hpairs (continues_digit _) (continues_digit n), hsum, hch]
    rfl

theorem lossyChars_flatMap (cs : List Char) :
    lossyChars ((cs.flatMap String.utf8EncodeChar).map UInt8.toNat) = cs := by
  induction cs with
  | nil => rfl
  | cons c cs ih => rw [List.flatMap_cons, List.map_append, lossyChars_encodeChar, ih]

/-- The bytes of an array that are still to be listed. -/
theorem toList_loop (bytes : ByteArray) (left : Nat) {i : Nat} (h : i + left = bytes.size)
    (front : List UInt8) :
    ByteArray.toList.loop bytes i front = front.reverse ++ bytes.data.toList.drop i := by
  induction left generalizing i front with
  | zero =>
      have hall : bytes.data.toList.length ≤ i := by
        rw [Array.length_toList]
        exact h.ge
      rw [ByteArray.toList.loop, if_neg (by omega), List.drop_eq_nil_of_le hall, List.append_nil]
  | succ left ih =>
      have hi : i < bytes.data.toList.length := by
        rw [Array.length_toList]
        exact (by omega : i < bytes.size)
      have hbyte : bytes.get! i = bytes.data.toList[i] := by
        rw [ByteArray.get!, getElem!_pos bytes.data i (by simpa using hi), Array.getElem_toList]
      rw [ByteArray.toList.loop, if_pos (by omega), ih (by omega), List.reverse_cons,
        List.append_assoc, List.singleton_append, hbyte, List.getElem_cons_drop]

/-- **A text that was printed is read as it was.** -/
theorem lossy_toUTF8 (text : String) : lossy text.toUTF8 = text := by
  have hbytes : text.toUTF8.toList = utf8 text := by
    rw [ByteArray.toList, toList_loop _ _ (Nat.zero_add _)]
    rfl
  rw [lossy, hbytes, utf8_eq, lossyChars_flatMap, String.ofList_toList]

/-! ### Encoded texts -/

/-- The bytes of characters, each as a character below 256. -/
def encodedChars (cs : List Char) : List Char :=
  (cs.flatMap String.utf8EncodeChar).map fun b => Char.ofNat b.toNat

variable {c sep : Char} {cs ds : List Char} {text text' : String}

theorem toList_encoded (text : String) : (encoded text).toList = encodedChars text.toList := by
  rw [encoded, String.toList_ofList, encodedChars]

theorem encodedChars_append (cs ds : List Char) :
    encodedChars (cs ++ ds) = encodedChars cs ++ encodedChars ds := by
  rw [encodedChars, List.flatMap_append, List.map_append, encodedChars, encodedChars]

theorem encoded_append (text text' : String) :
    encoded (text ++ text') = encoded text ++ encoded text' := by
  simp only [← String.toList_inj, String.toList_append, toList_encoded, encodedChars_append]

/-- A byte is the number of its character. -/
theorem toNat_ofNat_byte (b : UInt8) : (Char.ofNat b.toNat).toNat = b.toNat := by
  have hvalid : b.toNat.isValidChar := Or.inl (b.toNat_lt.trans (by decide))
  rw [Char.ofNat, dif_pos hvalid]
  rfl

theorem map_toNat_encodedChars (cs : List Char) :
    (encodedChars cs).map Char.toNat = (cs.flatMap String.utf8EncodeChar).map UInt8.toNat := by
  rw [encodedChars, List.map_map]
  exact List.map_congr_left fun b _ => toNat_ofNat_byte b

/-- **An encoded text is shown as it is.** -/
@[simp]
theorem decoded_encoded (text : String) : decoded (encoded text) = text := by
  rw [decoded, toList_encoded, map_toNat_encodedChars, lossyChars_flatMap, String.ofList_toList]

theorem encoded_injective : Function.Injective encoded :=
  Function.LeftInverse.injective decoded_encoded

theorem encodedChars_injective : Function.Injective encodedChars := by
  intro cs ds h
  have hencoded : encoded (String.ofList cs) = encoded (String.ofList ds) := by
    rw [← String.toList_inj, toList_encoded, toList_encoded, String.toList_ofList,
      String.toList_ofList, h]
  exact String.ofList_inj.mp (encoded_injective hencoded)

/-- **What is UTF-8 is the encoding of its text.** -/
theorem decoded?_eq_some_iff {s : SystemText} : decoded? s = some text ↔ s = encoded text := by
  rw [decoded?]
  constructor
  · intro h
    split at h
    · next henc => exact Option.some.inj h ▸ henc.symm
    · cases h
  · rintro rfl
    rw [decoded_encoded]
    exact if_pos rfl

@[simp]
theorem decoded?_encoded (text : String) : decoded? (encoded text) = some text :=
  decoded?_eq_some_iff.mpr rfl

/-! ### ASCII -/

/-- A character of ASCII is its own byte. -/
theorem encodedChars_ascii (hc : c.toNat < 128) : encodedChars [c] = [c] := by
  have hsize : c.utf8Size = 1 := by
    rw [Char.utf8Size_eq_one_iff, UInt32.le_iff_toNat_le]
    exact Nat.le_of_lt_succ hc
  have hbyte : c.val.toUInt8.toNat = c.toNat := Nat.mod_eq_of_lt (hc.trans (by decide))
  rw [encodedChars, List.flatMap_cons, String.utf8EncodeChar_eq_singleton hsize, List.flatMap_nil,
    List.append_nil, List.map_singleton, hbyte, Char.ofNat_toNat]

/-- No other character has a byte of ASCII. -/
theorem le_of_mem_encodedChars {d : Char} (hc : 128 ≤ c.toNat) (hd : d ∈ encodedChars [c]) :
    128 ≤ d.toNat := by
  rw [encodedChars, List.flatMap_singleton, List.mem_map] at hd
  obtain ⟨b, hb, rfl⟩ := hd
  rw [toNat_ofNat_byte]
  have hlarge : ¬ c.val.toNat ≤ 127 := Nat.not_le.mpr hc
  have hbyte : ∀ {n k : Nat}, 128 ≤ k → n + k < 256 → 128 ≤ (UInt8.ofNat (n + k)).toNat := by
    intro n k hk hn
    rw [UInt8.toNat_ofNat_of_lt' hn]
    omega
  unfold String.utf8EncodeChar at hb
  generalize c.val.toNat = n at hb hlarge
  dsimp only at hb
  rw [if_neg hlarge] at hb
  split_ifs at hb <;> simp only [List.mem_cons, List.not_mem_nil, or_false] at hb <;>
    (rcases hb with rfl | rfl | rfl | rfl) <;> exact hbyte (by decide) (by omega)

theorem encodedChars_cons (c : Char) (cs : List Char) :
    encodedChars (c :: cs) = encodedChars [c] ++ encodedChars cs :=
  encodedChars_append [c] cs

theorem encodedChars_ne_nil (c : Char) : encodedChars [c] ≠ [] := by
  rw [encodedChars, List.flatMap_singleton]
  exact mt List.map_eq_nil_iff.mp String.utf8EncodeChar_ne_nil

/-- A character has a byte of ASCII only if it is the byte. -/
theorem mem_encodedChars_singleton {d : Char} (hd : d.toNat < 128) :
    d ∈ encodedChars [c] ↔ c = d := by
  by_cases hc : c.toNat < 128
  · rw [encodedChars_ascii hc, List.mem_singleton, eq_comm]
  · refine iff_of_false (fun hmem => ?_) fun heq => hc (heq ▸ hd)
    exact absurd (le_of_mem_encodedChars (Nat.le_of_not_lt hc) hmem) (Nat.not_le.mpr hd)

/-- A character of ASCII is among the bytes of a text if it is in the text. -/
theorem mem_encodedChars_iff (hc : c.toNat < 128) : c ∈ encodedChars cs ↔ c ∈ cs := by
  induction cs with
  | nil => rfl
  | cons d cs ih =>
      rw [encodedChars_cons, List.mem_append, mem_encodedChars_singleton hc, ih, List.mem_cons,
        eq_comm]

/-- Characters of ASCII are their own bytes. -/
theorem encodedChars_of_ascii (h : ∀ c ∈ cs, c.toNat < 128) : encodedChars cs = cs := by
  induction cs with
  | nil => rfl
  | cons c cs ih =>
      obtain ⟨hc, hcs⟩ := List.forall_mem_cons.mp h
      rw [encodedChars_cons, encodedChars_ascii hc, ih hcs, List.singleton_append]

/-- Whether all characters of a text are of ASCII. -/
def isAscii (text : String) : Bool := text.toList.all fun c => c.toNat < 128

/-- A text of ASCII is its own encoding. -/
theorem encoded_of_ascii (h : isAscii text = true) : encoded text = text := by
  rw [← String.toList_inj, toList_encoded, encodedChars_of_ascii (by simpa [isAscii] using h)]

/-- A text of ASCII is UTF-8. -/
theorem decoded?_of_ascii (h : isAscii text = true) : decoded? text = some text :=
  decoded?_eq_some_iff.mpr (encoded_of_ascii h).symm

/-- A text of ASCII is shown as it is. -/
theorem decoded_of_ascii (h : isAscii text = true) : decoded text = text := by
  conv_lhs => rw [← encoded_of_ascii h]
  exact decoded_encoded text

theorem encodedChars_eq_ascii_iff (h : ∀ c ∈ ds, c.toNat < 128) :
    encodedChars cs = ds ↔ cs = ds := by
  conv_lhs => rw [← encodedChars_of_ascii h]
  exact encodedChars_injective.eq_iff

/-- The bytes of a text end in characters of ASCII if the text does. -/
theorem suffix_encodedChars_iff (h : ∀ c ∈ ds, c.toNat < 128) :
    ds <:+ encodedChars cs ↔ ds <:+ cs := by
  constructor
  · induction ds using List.reverseRecOn generalizing cs with
    | nil => exact fun _ => List.nil_suffix
    | append_singleton ds d ih =>
        rintro ⟨front, hfront⟩
        obtain ⟨hds, hd⟩ := List.forall_mem_append.mp h
        replace hd := hd d (List.mem_singleton_self d)
        cases cs using List.reverseRecOn with
        | nil => simp [encodedChars] at hfront
        | append_singleton cs c =>
            rw [encodedChars_append, ← List.append_assoc] at hfront
            obtain ⟨bytes, b, hbytes⟩ :=
              (List.eq_nil_or_concat (encodedChars [c])).resolve_left (encodedChars_ne_nil c)
            rw [List.concat_eq_append] at hbytes
            rw [hbytes, ← List.append_assoc] at hfront
            obtain ⟨hbefore, hlast⟩ := List.append_inj' hfront rfl
            obtain rfl := List.singleton_inj.mp hlast
            have hmem : d ∈ encodedChars [c] := hbytes ▸ List.mem_append_right _ List.mem_cons_self
            obtain rfl := (mem_encodedChars_singleton hd).mp hmem
            rw [encodedChars_ascii hd] at hbytes
            obtain rfl : bytes = [] := by simpa using congrArg List.length hbytes
            rw [List.append_nil] at hbefore
            obtain ⟨more, rfl⟩ := ih hds ⟨front, hbefore⟩
            exact ⟨more, by rw [List.append_assoc]⟩
  · rintro ⟨front, rfl⟩
    rw [encodedChars_append, encodedChars_of_ascii h]
    exact List.suffix_append _ _

/-- The last byte of a text is a character of ASCII if the last character of the text is it. -/
theorem getLast?_encoded_iff (hc : c.toNat < 128) :
    (encoded text).toList.getLast? = some c ↔ text.toList.getLast? = some c := by
  have hlast (ds : List Char) : ds.getLast? = some c ↔ [c] <:+ ds := by
    rw [List.getLast?_eq_some_iff]
    exact exists_congr fun front => eq_comm
  rw [hlast, hlast, toList_encoded, suffix_encodedChars_iff (List.forall_mem_singleton.mpr hc)]

/-! ### Pieces -/

/-- Pieces are encoded one by one. -/
theorem encoded_joinWith (hsep : sep.toNat < 128) (parts : List String) :
    encoded (joinWith (String.ofList [sep]) parts) =
      joinWith (String.ofList [sep]) (parts.map encoded) := by
  rw [← String.toList_inj, toList_encoded, toList_joinWith, toList_joinWith, List.map_map]
  induction parts with
  | nil => rfl
  | cons p ps ih =>
      cases ps with
      | nil => simp [toList_encoded]
      | cons q qs =>
          simp only [List.map_cons, List.intercalate_cons_cons, Function.comp_apply,
            encodedChars_append, encodedChars_ascii hsep, toList_encoded] at ih ⊢
          rw [ih]

end LintVerdict.Text
