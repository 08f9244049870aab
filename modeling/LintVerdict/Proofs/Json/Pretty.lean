import LintVerdict.Proofs.Json.Grammar

/-!
# Printed values

A value is printed by the rules of JSON texts: quotes, backslashes and control characters are
escaped, and the elements and members stand on lines of their own. So the reader gives every value
back from its text, and no two values have one text.

## Main results

* `Json.spells_quote`: a text is spelled between its quotes.
* `Json.written_prettyAt`: a value is written by its text.
* `Json.read?_pretty`: a value is read from its text.
-/

namespace LintVerdict.Json

variable {c : Char} {cs ws : List Char} {depth : Nat}

/-! ### Texts and numbers -/

theorem hexValue?_hexDigit {n : Nat} (h : n < 16) : hexValue? (hexDigit n) = some n := by
  have hall : ∀ n < 16, hexValue? (hexDigit n) = some n := by decide
  exact hall n h

theorem hex4?_hexDigit {n : Nat} (h : n < 256) :
    hex4? ['0', '0', hexDigit (n / 16), hexDigit (n % 16)] = some (n, []) := by
  have hzero : hexValue? '0' = some 0 := rfl
  have hvalue : ((0 * 16 + 0) * 16 + n / 16) * 16 + n % 16 = n := by omega
  simp only [hex4?, hzero, hexValue?_hexDigit (show n / 16 < 16 by omega),
    hexValue?_hexDigit (show n % 16 < 16 by omega), Option.pure_def, Option.bind_eq_bind,
    Option.bind_some, hvalue]

theorem Spells.letter_of_eq {d e : Char} (he : shortEscape? e = some d) (h : Spells cs ws)
    (hc : c = d) : Spells (c :: cs) ('\\' :: e :: ws) := by
  subst hc
  exact .letter he h

/-- A character is spelled by its escape. -/
theorem Spells.escapeChar (c : Char) (h : Spells cs ws) :
    Spells (c :: cs) (Json.escapeChar c ++ ws) := by
  unfold Json.escapeChar
  split
  · next hc => exact .letter_of_eq rfl h hc
  split
  · next hc => exact .letter_of_eq rfl h hc
  split
  · next hc => exact .letter_of_eq rfl h hc
  split
  · next hc => exact .letter_of_eq rfl h hc
  split
  · next hc => exact .letter_of_eq rfl h hc
  split
  · next hc => exact .letter_of_eq rfl h hc
  split
  · next hc => exact .letter_of_eq rfl h hc
  next hquote hslash _ _ _ _ _ =>
  split
  · next hcontrol =>
    -- a control character has a code of two digits
    have hspells := Spells.code (hex4?_hexDigit (show c.toNat < 256 by omega)) (by omega) h
    rwa [Char.ofNat_toNat] at hspells
  · next hplain => exact .plain hquote hslash (Nat.not_lt.mp hplain) h

theorem spells_escaped (cs : List Char) : Spells cs (cs.flatMap escapeChar) := by
  induction cs with
  | nil => exact .nil
  | cons c cs ih => exact ih.escapeChar c

theorem toList_quote (s : String) :
    (quote s).toList = '\x22' :: (s.toList.flatMap escapeChar ++ ['\x22']) := by
  simp [quote]

theorem digits_toString (n : Nat) : Digits (toString n).toList n where
  decimal?_eq := Decimal.decimal?_toString n
  noZero := by
    intro hzero
    by_cases hn : n = 0
    · subst hn
      rfl
    · exact absurd hzero (Decimal.head?_toString_ne hn)

theorem whole_toString (n : Int) : Whole n (toString n).toList := by
  cases n with
  | ofNat n => exact .nat (digits_toString n)
  | negSucc n =>
      have htext : toString (Int.negSucc n) = "-" ++ toString (n + 1) := rfl
      rw [htext, String.toList_append]
      exact .neg (digits_toString (n + 1))

theorem written_decimalText (n : Decimal.Numeral) :
    Written (.value (decimal n)) (decimalText n).toList := by
  obtain ⟨negative, mantissa, exponent⟩ := n
  have hdigits := digits_toString mantissa
  have hwhole := whole_toString exponent
  cases negative with
  | false => simpa [decimalText] using Written.decimal hdigits hwhole
  | true => simpa [decimalText] using Written.negDecimal hdigits hwhole

/-! ### Layout -/

theorem toList_newline (depth : Nat) :
    (newline depth).toList = '\n' :: List.replicate (2 * depth) ' ' := by
  simp [newline]

theorem blank_newline (depth : Nat) : Blank (newline depth).toList := by
  intro c hc
  rw [toList_newline, List.mem_cons, List.mem_replicate] at hc
  obtain rfl | ⟨-, rfl⟩ := hc <;> rfl

theorem blank_nil : Blank [] :=
  List.forall_mem_nil _

/-- The lines of the parts of a block, with the line of its closing bracket. -/
def lines (closing : String) (depth : Nat) (parts : List String) : String :=
  newline (depth + 1) ++ ("," ++ newline (depth + 1)).intercalate parts ++ newline depth ++ closing

variable {opening closing text : String} {parts : List String}

theorem block_of_ne_nil (h : parts ≠ []) :
    block opening closing depth parts = opening ++ lines closing depth parts := by
  cases parts with
  | nil => exact absurd rfl h
  | cons text parts => simp only [block, lines, String.append_assoc]

theorem toList_lines_singleton : (lines closing depth [text]).toList =
    (newline (depth + 1)).toList ++
      (text.toList ++ ((newline depth).toList ++ closing.toList)) := by
  simp only [lines, String.intercalate_singleton, String.toList_append, List.append_assoc]

theorem toList_lines_cons (h : parts ≠ []) : (lines closing depth (text :: parts)).toList =
    (newline (depth + 1)).toList ++
      (text.toList ++ ([] ++ ',' :: (lines closing depth parts).toList)) := by
  simp only [lines, String.intercalate_cons_of_ne_nil h, String.toList_append, List.append_assoc,
    List.nil_append]
  rfl

theorem prettyItems_eq (depth : Nat) (vs : List Json) :
    prettyItems depth vs = vs.map (prettyAt depth) := by
  induction vs with
  | nil => rfl
  | cons v vs ih => rw [prettyItems, ih, List.map_cons]

theorem prettyMembers_eq (depth : Nat) (ms : List (String × Json)) :
    prettyMembers depth ms = ms.map fun m => quote m.1 ++ ": " ++ prettyAt depth m.2 := by
  induction ms with
  | nil => rfl
  | cons m ms ih => rw [prettyMembers, ih, List.map_cons]

/-- The elements of a list are written by their lines. -/
theorem written_items {vs : List Json} (hne : vs ≠ [])
    (h : ∀ v ∈ vs, Written (.value v) (prettyAt (depth + 1) v).toList) :
    Written (.items vs) (lines "]" depth (vs.map (prettyAt (depth + 1)))).toList := by
  induction vs with
  | nil => exact absurd rfl hne
  | cons v vs ih =>
      rw [List.forall_mem_cons] at h
      rw [List.map_cons]
      by_cases hvs : vs = []
      · subst hvs
        rw [List.map_nil, toList_lines_singleton]
        exact .lastItem (blank_newline _) h.1 (blank_newline depth)
      · rw [toList_lines_cons (by simpa using hvs)]
        exact .item (blank_newline _) h.1 blank_nil (ih hvs h.2)

/-- The members of an object are written by their lines. -/
theorem written_members {ms : List (String × Json)} (hne : ms ≠ [])
    (h : ∀ m ∈ ms, Written (.value m.2) (prettyAt (depth + 1) m.2).toList) :
    Written (.members ms) (lines "\x7d" depth
      (ms.map fun m => quote m.1 ++ ": " ++ prettyAt (depth + 1) m.2)).toList := by
  have hspace : Blank [' '] := by simp [Blank, isSpace]
  induction ms with
  | nil => exact absurd rfl hne
  | cons m ms ih =>
      rw [List.forall_mem_cons] at h
      rw [List.map_cons]
      by_cases hms : ms = []
      · subst hms
        have hlast := Written.lastMember (blank_newline (depth + 1)) (spells_escaped m.1.toList)
          blank_nil hspace h.1 (blank_newline depth)
        rw [List.map_nil, toList_lines_singleton]
        simpa [toList_quote] using hlast
      · have hmember := Written.member (blank_newline (depth + 1)) (spells_escaped m.1.toList)
          blank_nil hspace h.1 blank_nil (ih hms h.2)
        rw [toList_lines_cons (by simpa using hms)]
        simpa [toList_quote] using hmember

/-- **A value is written by its text**, at every depth. -/
theorem written_prettyAt (depth : Nat) : ∀ v, Written (.value v) (prettyAt depth v).toList
  | null => by simpa [prettyAt] using Written.null
  | bool true => by simpa [prettyAt] using Written.boolTrue
  | bool false => by simpa [prettyAt] using Written.boolFalse
  | int n => by
      rw [prettyAt]
      exact .int (whole_toString n)
  | decimal n => by
      rw [prettyAt]
      exact written_decimalText n
  | str s => by
      rw [prettyAt, toList_quote]
      exact .str (spells_escaped s.toList)
  | arr vs => by
      rw [prettyAt, prettyItems_eq]
      by_cases hvs : vs = []
      · subst hvs
        simpa [block] using Written.noItems blank_nil
      · rw [block_of_ne_nil (by simpa using hvs), String.toList_append]
        exact .arr (written_items hvs fun v hv => written_prettyAt (depth + 1) v)
  | obj ms => by
      rw [prettyAt, prettyMembers_eq]
      by_cases hms : ms = []
      · subst hms
        simpa [block] using Written.noMembers blank_nil
      · rw [block_of_ne_nil (by simpa using hms), String.toList_append]
        exact .obj (written_members hms fun m hm => written_prettyAt (depth + 1) m.2)
termination_by v => sizeOf v
decreasing_by
  · have := List.sizeOf_lt_of_mem hv
    simp only [arr.sizeOf_spec]
    omega
  · have := List.sizeOf_lt_of_mem hm
    obtain ⟨k, v⟩ := m
    simp only [obj.sizeOf_spec, Prod.mk.sizeOf_spec] at *
    omega

/-- **A value is read from its text.** -/
theorem read?_pretty (v : Json) : read? v.pretty = some v :=
  read?_of_written (written_prettyAt 0 v)

end LintVerdict.Json
