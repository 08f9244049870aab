import Mathlib.Data.List.TakeDrop
import LintVerdict.Json.Reader
import LintVerdict.Proofs.Decimal
import LintVerdict.Proofs.Text

/-!
# JSON texts

A JSON text is written by rules: a value is a word, a number, a text in quotes, or a list of parts
between brackets, with blanks around each part. The file states these rules as a relation between
values and texts, which shares only the tables of blanks and escapes with the reader, and says that
the reader gives back the value of every text that is written by them.

Of the ways to write a number and a character, the rules have those that need neither a fraction nor
a pair of surrogates.

## Main definitions

* `Json.Spells`: what stands between the quotes of a text.
* `Json.Part`: a value, or the parts of a list or an object with the bracket behind them.
* `Json.Written`: the texts of a part.

## Main results

* `Json.Written.isRead`: a part is read, whatever stands behind it.
* `Json.read?_of_written`: a text is read as its value.
-/

namespace LintVerdict.Json

open Decimal (decimal? isDigit readDigits)

/-! ### The rules -/

/-- Blanks that may stand between tokens. -/
def Blank (gap : List Char) : Prop := ∀ c ∈ gap, isSpace c = true

/-- What stands between quotes for a text: a character stands for itself unless it is a quote, a
backslash or a control character, and any may be escaped by a letter or a code. -/
inductive Spells : List Char → List Char → Prop
  | nil : Spells [] []
  | plain {c : Char} {cs ws : List Char} :
      c ≠ '\x22' → c ≠ '\\' → 32 ≤ c.toNat → Spells cs ws → Spells (c :: cs) (c :: ws)
  | letter {c e : Char} {cs ws : List Char} :
      shortEscape? e = some c → Spells cs ws → Spells (c :: cs) ('\\' :: e :: ws)
  | code {w x y z : Char} {n : Nat} {cs ws : List Char} :
      hex4? [w, x, y, z] = some (n, []) → n < 0xD800 → Spells cs ws →
      Spells (Char.ofNat n :: cs) ('\\' :: 'u' :: w :: x :: y :: z :: ws)

/-- The digits of a natural number, with no zero before them. -/
structure Digits (ds : List Char) (n : Nat) : Prop where
  decimal?_eq : decimal? ds = some n
  noZero : ds.head? = some '0' → ds.length = 1

/-- The text of a whole number: digits, with a minus sign before them if it is below zero. -/
inductive Whole : Int → List Char → Prop
  | nat {n : Nat} {ds : List Char} : Digits ds n → Whole n ds
  | neg {n : Nat} {ds : List Char} : Digits ds (n + 1) → Whole (-(n + 1 : Nat)) ('-' :: ds)

/-- What a text can stand for: a value, or the parts of a list or an object. -/
inductive Part where
  /-- One value. -/
  | value (v : Json)
  /-- The elements of a list, at least one. -/
  | items (vs : List Json)
  /-- The members of an object, at least one. -/
  | members (ms : List (String × Json))

/-- The texts of a part. The text of the elements of a list, and of the members of an object, ends
with the closing bracket. -/
inductive Written : Part → List Char → Prop
  | null : Written (.value null) ['n', 'u', 'l', 'l']
  | boolTrue : Written (.value (bool true)) ['t', 'r', 'u', 'e']
  | boolFalse : Written (.value (bool false)) ['f', 'a', 'l', 's', 'e']
  | int {n : Int} {ws : List Char} : Whole n ws → Written (.value (int n)) ws
  | decimal {m : Nat} {e : Int} {ds ws : List Char} :
      Digits ds m → Whole e ws → Written (.value (decimal ⟨false, m, e⟩)) (ds ++ 'e' :: ws)
  | negDecimal {m : Nat} {e : Int} {ds ws : List Char} :
      Digits ds m → Whole e ws →
      Written (.value (decimal ⟨true, m, e⟩)) ('-' :: (ds ++ 'e' :: ws))
  | str {s : String} {ws : List Char} :
      Spells s.toList ws → Written (.value (str s)) ('\x22' :: (ws ++ ['\x22']))
  | noItems {gap : List Char} : Blank gap → Written (.value (arr [])) ('[' :: (gap ++ [']']))
  | arr {vs : List Json} {ws : List Char} :
      Written (.items vs) ws → Written (.value (arr vs)) ('[' :: ws)
  | noMembers {gap : List Char} :
      Blank gap → Written (.value (obj [])) ('\x7b' :: (gap ++ ['\x7d']))
  | obj {ms : List (String × Json)} {ws : List Char} :
      Written (.members ms) ws → Written (.value (obj ms)) ('\x7b' :: ws)
  | lastItem {v : Json} {before ws behind : List Char} :
      Blank before → Written (.value v) ws → Blank behind →
      Written (.items [v]) (before ++ (ws ++ (behind ++ [']'])))
  | item {v : Json} {vs : List Json} {before ws behind more : List Char} :
      Blank before → Written (.value v) ws → Blank behind → Written (.items vs) more →
      Written (.items (v :: vs)) (before ++ (ws ++ (behind ++ ',' :: more)))
  | lastMember {k : String} {v : Json} {before ks gap between ws behind : List Char} :
      Blank before → Spells k.toList ks → Blank gap → Blank between → Written (.value v) ws →
      Blank behind →
      Written (.members [(k, v)]) (before ++ '\x22' :: (ks ++ '\x22' :: (gap ++ ':' ::
        (between ++ (ws ++ (behind ++ ['\x7d']))))))
  | member {k : String} {v : Json} {ms : List (String × Json)}
      {before ks gap between ws behind more : List Char} :
      Blank before → Spells k.toList ks → Blank gap → Blank between → Written (.value v) ws →
      Blank behind → Written (.members ms) more →
      Written (.members ((k, v) :: ms)) (before ++ '\x22' :: (ks ++ '\x22' :: (gap ++ ':' ::
        (between ++ (ws ++ (behind ++ ',' :: more))))))

/-- What it means that the reader takes a part from the front of a text and leaves the rest. -/
def Part.IsRead (budget : Nat) (cs rest : List Char) : Part → Prop
  | value v => readValue budget cs = some (v, rest)
  | items vs => ∀ acc, readItems budget acc cs = some (.arr (acc.reverse ++ vs), rest)
  | members ms => ∀ acc, readMembers budget acc cs = some (.obj (acc.reverse ++ ms), rest)

/-- A character with which a number goes on. -/
def goesOn (c : Char) : Bool := isDigit c || c = '.' || c = 'e' || c = 'E'

variable {c : Char} {cs ds ws gap rest : List Char} {n m budget : Nat} {v : Json}

/-! ### Blanks -/

theorem skip_blank (h : Blank gap) (cs : List Char) : skip (gap ++ cs) = skip cs :=
  List.dropWhile_append_of_pos h

theorem skip_cons (h : isSpace c = false) (cs : List Char) : skip (c :: cs) = c :: cs :=
  List.dropWhile_cons_of_neg (Bool.eq_false_iff.mp h)

theorem skip_blank_cons (hgap : Blank gap) (h : isSpace c = false) (cs : List Char) :
    skip (gap ++ c :: cs) = c :: cs := by
  rw [skip_blank hgap, skip_cons h]

theorem readValue_blank (h : Blank gap) (budget : Nat) (cs : List Char) :
    readValue budget (gap ++ cs) = readValue budget cs := by
  cases budget with
  | zero => rw [readValue, readValue]
  | succ budget => rw [readValue, readValue, skip_blank h]

/-- A blank does not go on with a number. -/
theorem goesOn_blank (hgap : Blank gap) (h : goesOn c = false) (cs : List Char) :
    (gap ++ c :: cs).head?.any goesOn = false := by
  cases gap with
  | nil => exact h
  | cons d gap =>
      have hd : isSpace d = true := hgap d List.mem_cons_self
      simp only [isSpace, Bool.or_eq_true, decide_eq_true_eq] at hd
      obtain ((rfl | rfl) | rfl) | rfl := hd <;> rfl

/-! ### Texts in quotes -/

theorem Spells.length_le (h : Spells cs ws) : cs.length ≤ ws.length := by
  induction h with
  | nil => exact Nat.le_refl 0
  | plain _ _ _ _ ih => simpa using ih
  | letter _ _ ih =>
      simp only [List.length_cons]
      omega
  | code _ _ _ ih =>
      simp only [List.length_cons]
      omega

theorem codeEscape?_of_hex4? {w x y z : Char} (h : hex4? [w, x, y, z] = some (n, []))
    (hn : n < 0xD800) (rest : List Char) :
    codeEscape? (w :: x :: y :: z :: rest) = some (Char.ofNat n, rest) := by
  have hrest : hex4? (w :: x :: y :: z :: rest) = some (n, rest) := by
    simp only [hex4?, Option.pure_def, Option.bind_eq_bind, Option.bind_eq_some_iff,
      Option.some.injEq, Prod.mk.injEq] at h ⊢
    obtain ⟨a, ha, b, hb, c, hc, d, hd, hval, -⟩ := h
    exact ⟨a, ha, b, hb, c, hc, d, hd, hval, trivial⟩
  rw [codeEscape?, hrest]
  simp [show ¬ (0xD800 ≤ n ∧ n < 0xDC00) by omega, show ¬ (0xDC00 ≤ n ∧ n < 0xE000) by omega]

section ReadText

variable {acc : List Char} {e : Char}

theorem readText_quote : readText (budget + 1) acc ('\x22' :: rest) =
    some (String.ofList acc.reverse, rest) :=
  rfl

theorem readText_plain (hquote : c ≠ '\x22') (hslash : c ≠ '\\') (hcontrol : 32 ≤ c.toNat) :
    readText (budget + 1) acc (c :: rest) = readText budget (c :: acc) rest := by
  rw [readText.eq_def]
  dsimp only
  rw [if_neg hquote, if_neg hslash, if_neg (Nat.not_lt.mpr hcontrol)]

theorem readText_letter (h : shortEscape? e = some c) :
    readText (budget + 1) acc ('\\' :: e :: rest) = readText budget (c :: acc) rest := by
  have he : e ≠ 'u' := by
    rintro rfl
    exact absurd h nofun
  rw [readText, if_neg (by decide), if_pos rfl]
  · rw [h]
  · exact he

theorem readText_code {w x y z : Char} (h : hex4? [w, x, y, z] = some (n, [])) (hn : n < 0xD800) :
    readText (budget + 1) acc ('\\' :: 'u' :: w :: x :: y :: z :: rest) =
      readText budget (Char.ofNat n :: acc) rest := by
  rw [readText, if_neg (by decide), if_pos rfl]
  simp [codeEscape?_of_hex4? h hn]

/-- **A text in quotes is read** up to the quote behind it. -/
theorem Spells.readText_eq (h : Spells cs ws) (hbudget : cs.length < budget)
    (acc rest : List Char) :
    readText budget acc (ws ++ '\x22' :: rest) =
      some (String.ofList (acc.reverse ++ cs), rest) := by
  induction h generalizing budget acc with
  | nil =>
      obtain ⟨budget, rfl⟩ := Nat.exists_eq_add_of_lt hbudget
      rw [List.nil_append, List.append_nil, readText_quote]
  | plain hquote hslash hcontrol _ ih =>
      obtain ⟨budget, rfl⟩ := Nat.exists_eq_add_of_lt hbudget
      rw [List.cons_append, readText_plain hquote hslash hcontrol, ih (by simp; omega)]
      simp
  | letter hescape _ ih =>
      obtain ⟨budget, rfl⟩ := Nat.exists_eq_add_of_lt hbudget
      rw [List.cons_append, List.cons_append, readText_letter hescape, ih (by simp; omega)]
      simp
  | code hcode hn _ ih =>
      obtain ⟨budget, rfl⟩ := Nat.exists_eq_add_of_lt hbudget
      simp only [List.cons_append]
      rw [readText_code hcode hn, ih (by simp; omega)]
      simp

/-- The budget of the reader covers what stands between the quotes. -/
theorem Spells.readText_quoted {s : String} (h : Spells s.toList ws) (rest : List Char) :
    readText ((ws ++ '\x22' :: rest).length + 1) [] (ws ++ '\x22' :: rest) = some (s, rest) := by
  have hlength : s.toList.length < (ws ++ '\x22' :: rest).length + 1 := by
    have := h.length_le
    simp only [List.length_append]
    omega
  rw [h.readText_eq hlength, List.reverse_nil, List.nil_append, String.ofList_toList]

end ReadText

/-! ### Numbers -/

theorem digits?_append (hne : ds ≠ []) (hds : ∀ c ∈ ds, isDigit c = true)
    (hrest : rest.head?.any isDigit = false) : digits? (ds ++ rest) = some (ds, rest) := by
  rw [digits?, List.span_eq_takeWhile_dropWhile, takeWhile_run hds hrest, dropWhile_run hds hrest]
  split
  · next h => exact absurd (Prod.mk.inj h).1 hne
  · rfl

theorem fraction?_of_head (h : rest.head? ≠ some '.') : fraction? rest = some ([], rest) := by
  rw [fraction?]
  rintro tail rfl
  exact h rfl

theorem exponent?_of_head (h : rest.head?.any goesOn = false) :
    exponent? rest = some (none, rest) := by
  cases rest with
  | nil => rfl
  | cons c rest =>
      have he : (c = 'e' || c = 'E') = false := by
        simp_all [goesOn]
      unfold exponent?
      dsimp only
      rw [if_neg (Bool.eq_false_iff.mp he)]

theorem isDigit_of_goesOn (h : rest.head?.any goesOn = false) :
    rest.head?.any isDigit = false := by
  cases rest with
  | nil => rfl
  | cons c rest => simp_all [goesOn]

theorem Digits.ne_nil (h : Digits ds n) : ds ≠ [] :=
  (Decimal.decimal?_eq_some_iff.mp h.decimal?_eq).1.1

theorem Digits.isDigit (h : Digits ds n) : ∀ c ∈ ds, isDigit c = true :=
  (Decimal.decimal?_eq_some_iff.mp h.decimal?_eq).1.2

theorem Digits.readDigits_eq (h : Digits ds n) : readDigits 0 ds = n :=
  (Decimal.decimal?_eq_some_iff.mp h.decimal?_eq).2

theorem Digits.exists_cons (h : Digits ds n) :
    ∃ d tail, ds = d :: tail ∧ Decimal.isDigit d = true := by
  obtain ⟨d, tail, rfl⟩ := List.exists_cons_of_ne_nil h.ne_nil
  exact ⟨d, tail, rfl, h.isDigit d List.mem_cons_self⟩

theorem exponent?_whole {e : Int} (h : Whole e ws) (hrest : rest.head?.any goesOn = false) :
    exponent? ('e' :: (ws ++ rest)) = some (some e, rest) := by
  have hdigit := isDigit_of_goesOn hrest
  cases h with
  | nat hds =>
      obtain ⟨d, tail, htail, hd⟩ := hds.exists_cons
      have hread := digits?_append hds.ne_nil hds.isDigit hdigit
      have hvalue := hds.readDigits_eq
      subst htail
      have hminus : d ≠ '-' := by
        rintro rfl
        exact absurd hd (by decide)
      have hplus : d ≠ '+' := by
        rintro rfl
        exact absurd hd (by decide)
      rw [List.cons_append] at hread ⊢
      simp [exponent?, hread, hvalue, hminus, hplus]
  | neg hds =>
      have hread := digits?_append hds.ne_nil hds.isDigit hdigit
      simp [exponent?, hread, hds.readDigits_eq]

/-- Digits with nothing behind them are a whole number. -/
theorem readNumber_whole (negative : Bool) (h : Digits ds n) (hn : negative = true → n ≠ 0)
    (hrest : rest.head?.any goesOn = false) :
    readNumber negative (ds ++ rest) = some (.int (if negative then -(n : Int) else n), rest) := by
  have hdot : rest.head? ≠ some '.' := by
    intro hhead
    rw [hhead] at hrest
    exact absurd hrest (by decide)
  rw [readNumber, digits?_append h.ne_nil h.isDigit (isDigit_of_goesOn hrest)]
  simpa [fraction?_of_head hdot, exponent?_of_head hrest, h.readDigits_eq] using ⟨h.noZero, hn⟩

/-- Digits and an exponent. -/
theorem readNumber_decimal {e : Int} (negative : Bool) (h : Digits ds m) (he : Whole e ws)
    (hrest : rest.head?.any goesOn = false) :
    readNumber negative (ds ++ 'e' :: (ws ++ rest)) = some (.decimal ⟨negative, m, e⟩, rest) := by
  have hfraction : fraction? ('e' :: (ws ++ rest)) = some ([], 'e' :: (ws ++ rest)) := rfl
  rw [readNumber, digits?_append h.ne_nil h.isDigit rfl]
  simpa [hfraction, exponent?_whole he hrest, h.readDigits_eq] using h.noZero

/-! ### Values -/

theorem isSpace_of_isDigit (h : isDigit c = true) : isSpace c = false := by
  rw [Bool.eq_false_iff]
  intro hc
  simp only [isSpace, Bool.or_eq_true, decide_eq_true_eq] at hc
  obtain ((rfl | rfl) | rfl) | rfl := hc <;> exact absurd h (by decide)

/-- A digit begins a number. -/
theorem readValue_digit (h : isDigit c = true) (cs : List Char) :
    readValue (budget + 1) (c :: cs) = readNumber false (c :: cs) := by
  rw [readValue, skip_cons (isSpace_of_isDigit h)]
  split
  case h_8 => rfl
  all_goals next heq => exact absurd h ((List.cons.inj heq).1 ▸ by decide)

theorem readValue_minus (cs : List Char) :
    readValue (budget + 1) ('-' :: cs) = readNumber true cs :=
  rfl

theorem readValue_quote (cs : List Char) :
    readValue (budget + 1) ('\x22' :: cs) =
      (readText (cs.length + 1) [] cs).map fun (s, rest) => (str s, rest) :=
  rfl

theorem readValue_bracket (cs : List Char) :
    readValue (budget + 1) ('[' :: cs) =
      match skip cs with
      | ']' :: rest => some (arr [], rest)
      | _ => readItems budget [] cs :=
  rfl

theorem readValue_brace (cs : List Char) :
    readValue (budget + 1) ('\x7b' :: cs) =
      match skip cs with
      | '\x7d' :: rest => some (obj [], rest)
      | _ => readMembers budget [] cs :=
  rfl

theorem readItems_last (h : readValue budget cs = some (v, gap ++ ']' :: rest)) (hgap : Blank gap)
    (acc : List Json) : readItems (budget + 1) acc cs = some (arr (acc.reverse ++ [v]), rest) := by
  rw [readItems, h, ← List.reverse_cons]
  simp only [skip_blank_cons hgap (show isSpace ']' = false from rfl)]

theorem readItems_next (h : readValue budget cs = some (v, gap ++ ',' :: rest)) (hgap : Blank gap)
    (acc : List Json) : readItems (budget + 1) acc cs = readItems budget (v :: acc) rest := by
  rw [readItems, h]
  simp only [skip_blank_cons hgap (show isSpace ',' = false from rfl)]

section Members

variable {k : String} {ks before colonGap tail : List Char}

theorem readMembers_last (hks : Spells k.toList ks) (hbefore : Blank before)
    (hcolon : Blank colonGap) (h : readValue budget tail = some (v, gap ++ '\x7d' :: rest))
    (hgap : Blank gap) (acc : List (String × Json)) :
    readMembers (budget + 1) acc
        (before ++ '\x22' :: (ks ++ '\x22' :: (colonGap ++ ':' :: tail))) =
      some (obj (acc.reverse ++ [(k, v)]), rest) := by
  rw [readMembers, skip_blank_cons hbefore rfl, ← List.reverse_cons]
  simp only [hks.readText_quoted, skip_blank_cons hcolon (show isSpace ':' = false from rfl), h,
    skip_blank_cons hgap (show isSpace '\x7d' = false from rfl)]

theorem readMembers_next (hks : Spells k.toList ks) (hbefore : Blank before)
    (hcolon : Blank colonGap) (h : readValue budget tail = some (v, gap ++ ',' :: rest))
    (hgap : Blank gap) (acc : List (String × Json)) :
    readMembers (budget + 1) acc
        (before ++ '\x22' :: (ks ++ '\x22' :: (colonGap ++ ':' :: tail))) =
      readMembers budget ((k, v) :: acc) rest := by
  rw [readMembers, skip_blank_cons hbefore rfl]
  simp only [hks.readText_quoted, skip_blank_cons hcolon (show isSpace ':' = false from rfl), h,
    skip_blank_cons hgap (show isSpace ',' = false from rfl)]

end Members

/-- The first character of a value is neither a blank nor the end of a list. -/
theorem Written.exists_cons (h : Written (.value v) ws) :
    ∃ c tail, ws = c :: tail ∧ isSpace c = false ∧ c ≠ ']' := by
  have hdigits : ∀ {ds : List Char} {n : Nat}, Digits ds n → ∀ tail,
      ∃ c tail', ds ++ tail = c :: tail' ∧ isSpace c = false ∧ c ≠ ']' := by
    intro ds n hds tail
    obtain ⟨d, ds, rfl, hd⟩ := hds.exists_cons
    refine ⟨d, ds ++ tail, rfl, isSpace_of_isDigit hd, ?_⟩
    rintro rfl
    exact absurd hd (by decide)
  cases h with
  | int hn =>
      cases hn with
      | nat hds => simpa using hdigits hds []
      | neg hds => exact ⟨_, _, rfl, rfl, by decide⟩
  | decimal hds _ => exact hdigits hds _
  | _ => exact ⟨_, _, rfl, rfl, by decide⟩

/-- The elements of a list do not begin with its end. -/
theorem Written.exists_skip_items {vs : List Json} (h : Written (.items vs) ws)
    (rest : List Char) : ∃ c tail, skip (ws ++ rest) = c :: tail ∧ c ≠ ']' := by
  have hvalue : ∀ {before ws more : List Char} {v : Json}, Blank before → Written (.value v) ws →
      ∃ c tail, skip (before ++ (ws ++ more) ++ rest) = c :: tail ∧ c ≠ ']' := by
    intro before ws more v hbefore hv
    obtain ⟨c, tail, rfl, hspace, hc⟩ := hv.exists_cons
    exact ⟨c, tail ++ more ++ rest, by simp [skip_blank hbefore, skip_cons hspace], hc⟩
  cases h with
  | lastItem hbefore hv _ => exact hvalue hbefore hv
  | item hbefore hv _ _ => exact hvalue hbefore hv

/-- The members of an object begin with a quote. -/
theorem Written.exists_skip_members {ms : List (String × Json)} (h : Written (.members ms) ws)
    (rest : List Char) : ∃ tail, skip (ws ++ rest) = '\x22' :: tail := by
  cases h with
  | lastMember hbefore => exact ⟨_, by rw [List.append_assoc]; exact skip_blank_cons hbefore rfl _⟩
  | member hbefore => exact ⟨_, by rw [List.append_assoc]; exact skip_blank_cons hbefore rfl _⟩

/-- **A part is read**, whatever stands behind it, with a budget that covers its text. -/
theorem Written.isRead {part : Part} (h : Written part ws) (hbudget : ws.length < budget)
    (hrest : rest.head?.any goesOn = false) : part.IsRead budget (ws ++ rest) rest := by
  induction h generalizing budget rest with
  | null =>
      obtain ⟨budget, rfl⟩ := Nat.exists_eq_add_of_lt hbudget
      rfl
  | boolTrue =>
      obtain ⟨budget, rfl⟩ := Nat.exists_eq_add_of_lt hbudget
      rfl
  | boolFalse =>
      obtain ⟨budget, rfl⟩ := Nat.exists_eq_add_of_lt hbudget
      rfl
  | int hn =>
      obtain ⟨budget, rfl⟩ := Nat.exists_eq_add_of_lt hbudget
      cases hn with
      | nat hds =>
          have hread := readNumber_whole false hds nofun hrest
          obtain ⟨d, tail, rfl, hd⟩ := hds.exists_cons
          rw [Part.IsRead, List.cons_append, readValue_digit hd, ← List.cons_append, hread]
          rfl
      | neg hds =>
          have hread := readNumber_whole true hds (fun _ => Nat.succ_ne_zero _) hrest
          rw [Part.IsRead, List.cons_append, readValue_minus, hread]
          rfl
  | decimal hds he =>
      obtain ⟨budget, rfl⟩ := Nat.exists_eq_add_of_lt hbudget
      have hread := readNumber_decimal false hds he hrest
      obtain ⟨d, tail, rfl, hd⟩ := hds.exists_cons
      simp only [List.cons_append, List.append_assoc] at hread ⊢
      rw [Part.IsRead, readValue_digit hd, hread]
  | negDecimal hds he =>
      obtain ⟨budget, rfl⟩ := Nat.exists_eq_add_of_lt hbudget
      have hread := readNumber_decimal true hds he hrest
      simp only [List.cons_append, List.append_assoc]
      rw [Part.IsRead, readValue_minus, hread]
  | str hs =>
      obtain ⟨budget, rfl⟩ := Nat.exists_eq_add_of_lt hbudget
      simp only [List.cons_append, List.append_assoc, List.nil_append]
      rw [Part.IsRead, readValue_quote, hs.readText_quoted]
      rfl
  | noItems hgap =>
      obtain ⟨budget, rfl⟩ := Nat.exists_eq_add_of_lt hbudget
      simp only [List.cons_append, List.append_assoc, List.nil_append]
      rw [Part.IsRead, readValue_bracket, skip_blank_cons hgap rfl]
      rfl
  | arr hitems ih =>
      obtain ⟨budget, rfl⟩ := Nat.exists_eq_add_of_lt hbudget
      obtain ⟨c, tail, hskip, hc⟩ := hitems.exists_skip_items rest
      rw [Part.IsRead, List.cons_append, readValue_bracket, hskip]
      split
      · next heq => exact absurd (List.cons.inj heq).1 hc
      · exact ih (by simp only [List.length_cons]; omega) hrest []
  | noMembers hgap =>
      obtain ⟨budget, rfl⟩ := Nat.exists_eq_add_of_lt hbudget
      simp only [List.cons_append, List.append_assoc, List.nil_append]
      rw [Part.IsRead, readValue_brace, skip_blank_cons hgap rfl]
      rfl
  | obj hmembers ih =>
      obtain ⟨budget, rfl⟩ := Nat.exists_eq_add_of_lt hbudget
      obtain ⟨tail, hskip⟩ := hmembers.exists_skip_members rest
      rw [Part.IsRead, List.cons_append, readValue_brace, hskip]
      exact ih (by simp only [List.length_cons]; omega) hrest []
  | @lastItem v before ws behind hbefore _ hbehind ih =>
      obtain ⟨budget, rfl⟩ : ∃ b, budget = b + 1 := ⟨budget - 1, by omega⟩
      simp only [List.length_append, List.length_singleton] at hbudget
      have hv : readValue budget (before ++ (ws ++ (behind ++ ']' :: rest))) =
          some (v, behind ++ ']' :: rest) := by
        rw [readValue_blank hbefore]
        exact ih (by omega) (goesOn_blank hbehind rfl rest)
      intro acc
      simp only [List.append_assoc, List.cons_append, List.nil_append]
      exact readItems_last hv hbehind acc
  | @item v vs before ws behind more hbefore _ hbehind _ ihv ihvs =>
      obtain ⟨budget, rfl⟩ : ∃ b, budget = b + 1 := ⟨budget - 1, by omega⟩
      simp only [List.length_append, List.length_cons] at hbudget
      have hv : readValue budget (before ++ (ws ++ (behind ++ ',' :: (more ++ rest)))) =
          some (v, behind ++ ',' :: (more ++ rest)) := by
        rw [readValue_blank hbefore]
        exact ihv (by omega) (goesOn_blank hbehind rfl _)
      have hvs : ∀ acc, readItems budget acc (more ++ rest) =
          some (.arr (acc.reverse ++ vs), rest) :=
        ihvs (by omega) hrest
      intro acc
      simp only [List.append_assoc, List.cons_append]
      rw [readItems_next hv hbehind, hvs, List.reverse_cons, List.append_assoc,
        List.singleton_append]
  | @lastMember k v before ks gap between ws behind hbefore hks hgap hbetween _ hbehind ih =>
      obtain ⟨budget, rfl⟩ : ∃ b, budget = b + 1 := ⟨budget - 1, by omega⟩
      simp only [List.length_append, List.length_cons] at hbudget
      have hv : readValue budget (between ++ (ws ++ (behind ++ '\x7d' :: rest))) =
          some (v, behind ++ '\x7d' :: rest) := by
        rw [readValue_blank hbetween]
        exact ih (by omega) (goesOn_blank hbehind rfl rest)
      intro acc
      simp only [List.append_assoc, List.cons_append, List.nil_append]
      exact readMembers_last hks hbefore hgap hv hbehind acc
  | @member k v ms before ks gap between ws behind more hbefore hks hgap hbetween _ hbehind _ ihv
      ihms =>
      obtain ⟨budget, rfl⟩ : ∃ b, budget = b + 1 := ⟨budget - 1, by omega⟩
      simp only [List.length_append, List.length_cons] at hbudget
      have hv : readValue budget (between ++ (ws ++ (behind ++ ',' :: (more ++ rest)))) =
          some (v, behind ++ ',' :: (more ++ rest)) := by
        rw [readValue_blank hbetween]
        exact ihv (by omega) (goesOn_blank hbehind rfl _)
      have hms : ∀ acc, readMembers budget acc (more ++ rest) =
          some (.obj (acc.reverse ++ ms), rest) :=
        ihms (by omega) hrest
      intro acc
      simp only [List.append_assoc, List.cons_append]
      rw [readMembers_next hks hbefore hgap hv hbehind, hms, List.reverse_cons, List.append_assoc,
        List.singleton_append]

/-- **A text is read as its value.** -/
theorem read?_of_written {s : String} (h : Written (.value v) s.toList) : read? s = some v := by
  have hread : readValue (s.toList.length + 1) (s.toList ++ []) = some (v, []) :=
    h.isRead (Nat.lt_succ_self _) rfl
  rw [List.append_nil] at hread
  rw [read?, hread]
  rfl

end LintVerdict.Json
