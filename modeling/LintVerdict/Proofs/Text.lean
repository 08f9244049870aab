import Mathlib.Data.List.TakeWhile
import LintVerdict.Text.Blank

/-!
# Runs, trimmed texts and words

A text is a run of characters of one kind and a rest that does not go on with it. The file says
what trimming leaves of a text, and that the words of a text are the runs between its blanks.

## Main definitions

* `Text.Worded`: a text written out as blanks and words.

## Main results

* `exists_run`: the run at the start of a text.
* `Text.trimChars_eq_nil_iff`: nothing is left of blanks only.
* `Text.trimChars_eq_self`: all is left of a text without blanks at its ends.
* `Text.worded_iff`: a text is written out in its words, and in no other way.
* `Text.wordChars_intercalate`: words with a space between them are read back.
-/

namespace LintVerdict

/-! ### Runs of characters -/

section Runs

variable {α : Type} {p : α → Bool} {run rest : List α}

theorem takeWhile_run (hrun : ∀ c ∈ run, p c = true) (hrest : rest.head?.any p = false) :
    (run ++ rest).takeWhile p = run := by
  rw [List.takeWhile_append_of_pos hrun]
  cases rest with
  | nil => exact List.append_nil run
  | cons c rest => rw [List.takeWhile_cons_of_neg (by simpa using hrest), List.append_nil]

theorem dropWhile_run (hrun : ∀ c ∈ run, p c = true) (hrest : rest.head?.any p = false) :
    (run ++ rest).dropWhile p = rest := by
  rw [List.dropWhile_append_of_pos hrun]
  cases rest with
  | nil => rfl
  | cons c rest => exact List.dropWhile_cons_of_neg (by simpa using hrest)

theorem head?_dropWhile_any (p : Char → Bool) (cs : List Char) :
    (cs.dropWhile p).head?.any p = false := by
  have h := List.head?_dropWhile_not p cs
  cases hd : (cs.dropWhile p).head? with
  | none => rfl
  | some c => simpa [hd] using h

/-- A text is a run of characters and a rest that does not go on with it. -/
theorem exists_run (p : Char → Bool) (cs : List Char) :
    ∃ run rest, cs = run ++ rest ∧ (∀ c ∈ run, p c = true) ∧ rest.head?.any p = false :=
  ⟨cs.takeWhile p, cs.dropWhile p, List.takeWhile_append_dropWhile.symm,
    fun _ => List.mem_takeWhile_imp, head?_dropWhile_any p cs⟩

/-! ### The first place of a character -/

variable [DecidableEq α] {a : α}

theorem takeWhile_ne_append (h : a ∉ run) : (run ++ a :: rest).takeWhile (· ≠ a) = run :=
  takeWhile_run (fun c hc => decide_eq_true fun heq => h (heq ▸ hc)) (by simp)

theorem dropWhile_ne_append (h : a ∉ run) :
    (run ++ a :: rest).dropWhile (· ≠ a) = a :: rest :=
  dropWhile_run (fun c hc => decide_eq_true fun heq => h (heq ▸ hc)) (by simp)

theorem takeWhile_ne_self (h : a ∉ run) : run.takeWhile (· ≠ a) = run :=
  List.takeWhile_eq_self_iff.mpr fun _ hc => decide_eq_true fun heq => h (heq ▸ hc)

theorem dropWhile_ne_self (h : a ∉ run) : run.dropWhile (· ≠ a) = [] :=
  List.dropWhile_eq_nil_iff.mpr fun _ hc => decide_eq_true fun heq => h (heq ▸ hc)

/-- A text does not hold a character, or it can be cut at the first place of it. -/
theorem notMem_or_cut (a : Char) (cs : List Char) :
    a ∉ cs ∨ ∃ run rest, a ∉ run ∧ cs = run ++ a :: rest := by
  by_cases h : a ∈ cs
  · obtain ⟨run, rest, hcs, hrun⟩ := List.eq_append_cons_of_mem h
    exact Or.inr ⟨run, rest, hrun, hcs⟩
  · exact Or.inl h

end Runs

namespace Text

variable {cs : List Char}

/-! ### Trimmed texts -/

/-- Nothing is left of a text exactly if it holds blanks only. -/
theorem trimChars_eq_nil_iff : trimChars cs = [] ↔ ∀ c ∈ cs, isBlank c = true := by
  rw [trimChars, List.reverse_eq_nil_iff, dropBlanks, List.dropWhile_eq_nil_iff]
  constructor
  · intro h c hc
    rw [← List.takeWhile_append_dropWhile (p := isBlank) (l := cs), List.mem_append] at hc
    obtain hc | hc := hc
    · exact List.mem_takeWhile_imp hc
    · exact h c (List.mem_reverse.mpr hc)
  · intro h c hc
    exact h c ((List.dropWhile_sublist isBlank).subset (List.mem_reverse.mp hc))

/-- A text without blanks at its ends is left as it is. -/
theorem trimChars_eq_self (hhead : cs.head?.any isBlank = false)
    (hlast : cs.getLast?.any isBlank = false) : trimChars cs = cs := by
  have hdrop : ∀ {l : List Char}, l.head?.any isBlank = false → dropBlanks l = l := by
    intro l h
    cases l with
    | nil => rfl
    | cons c l => exact List.dropWhile_cons_of_neg (by simpa using h)
  rw [trimChars, hdrop hhead, hdrop (by rwa [List.head?_reverse]), List.reverse_reverse]

/-- A text without blanks is left as it is. -/
theorem trimChars_of_no_blank (h : ∀ c ∈ cs, isBlank c = false) : trimChars cs = cs := by
  refine trimChars_eq_self ?_ ?_
  · cases hc : cs.head? with
    | none => rfl
    | some c => exact h c (List.mem_of_head? hc)
  · cases hc : cs.getLast? with
    | none => rfl
    | some c => exact h c (List.mem_of_getLast? hc)

/-- Behind the blanks at the start of a text stands what is left of it. -/
theorem trimChars_prefix_dropBlanks (cs : List Char) : trimChars cs <+: dropBlanks cs := by
  rw [trimChars, ← List.reverse_suffix, List.reverse_reverse]
  exact List.dropWhile_suffix isBlank

/-- What is left of a text does not begin with a blank. -/
theorem head?_trimChars_any (cs : List Char) : (trimChars cs).head?.any isBlank = false := by
  obtain ⟨after, hafter⟩ := trimChars_prefix_dropBlanks cs
  have hhead : (dropBlanks cs).head?.any isBlank = false := head?_dropWhile_any isBlank cs
  cases htrim : trimChars cs with
  | nil => rfl
  | cons c trimmed => simpa [← hafter, htrim] using hhead

/-- What is left of a text does not end with a blank. -/
theorem getLast?_trimChars_any (cs : List Char) : (trimChars cs).getLast?.any isBlank = false := by
  rw [trimChars, List.getLast?_reverse]
  exact head?_dropWhile_any isBlank _

/-- A text is what is left of it, between blanks. -/
theorem exists_blanks (cs : List Char) :
    ∃ before after, cs = before ++ (trimChars cs ++ after) ∧ (∀ c ∈ before, isBlank c = true) ∧
      ∀ c ∈ after, isBlank c = true := by
  refine ⟨cs.takeWhile isBlank, ((dropBlanks cs).reverse.takeWhile isBlank).reverse, ?_,
    fun _ => List.mem_takeWhile_imp, fun c hc => List.mem_takeWhile_imp (List.mem_reverse.mp hc)⟩
  have hback : (dropBlanks cs).reverse.takeWhile isBlank ++ dropBlanks (dropBlanks cs).reverse =
      (dropBlanks cs).reverse := List.takeWhile_append_dropWhile
  rw [trimChars, ← List.reverse_append, hback, List.reverse_reverse, dropBlanks,
    List.takeWhile_append_dropWhile]

/-- Blanks around a text are trimmed away. -/
theorem trimChars_between {before after : List Char} (hbefore : ∀ c ∈ before, isBlank c = true)
    (hafter : ∀ c ∈ after, isBlank c = true) (cs : List Char) :
    trimChars (before ++ (cs ++ after)) = trimChars cs := by
  have hdrop : ∀ {gap : List Char}, (∀ c ∈ gap, isBlank c = true) →
      ∀ rest, dropBlanks (gap ++ rest) = dropBlanks rest :=
    fun hgap _ => List.dropWhile_append_of_pos hgap
  have hreverse : ∀ c ∈ after.reverse, isBlank c = true :=
    fun c hc => hafter c (List.mem_reverse.mp hc)
  have hnil : dropBlanks after = [] := List.dropWhile_eq_nil_iff.mpr hafter
  rw [trimChars, trimChars, hdrop hbefore]
  by_cases hcs : dropBlanks cs = []
  · have hall : ∀ c ∈ cs, isBlank c = true := List.dropWhile_eq_nil_iff.mp hcs
    rw [hdrop hall, hnil, hcs]
  · have hfront : dropBlanks (cs ++ after) = dropBlanks cs ++ after := by
      have hfull : ¬ (cs.dropWhile isBlank).isEmpty = true :=
        fun h => hcs (List.isEmpty_iff.mp h)
      rw [dropBlanks, List.dropWhile_append, if_neg hfull, dropBlanks]
    rw [hfront, List.reverse_append, hdrop hreverse]

/-- A blank at the end is trimmed away. -/
theorem trimChars_concat {c : Char} (h : isBlank c = true) (cs : List Char) :
    trimChars (cs ++ [c]) = trimChars cs := by
  have hnone : ∀ d ∈ ([] : List Char), isBlank d = true := List.forall_mem_nil _
  exact trimChars_between hnone (List.forall_mem_singleton.mpr h) cs

/-- What is left of a text stands in it. -/
theorem isInfix_trimChars (cs : List Char) : trimChars cs <:+: cs := by
  have hfront : dropBlanks cs <:+ cs := List.dropWhile_suffix isBlank
  exact (trimChars_prefix_dropBlanks cs).isInfix.trans hfront.isInfix

/-- Nothing is added to a text. -/
theorem trimChars_subset (cs : List Char) : trimChars cs ⊆ cs := (isInfix_trimChars cs).subset

/-! ### Words -/

/-- A text written out as blanks and words: no word is empty or holds a blank, and behind a word
stands a blank or the end of the text. -/
inductive Worded : List Char → List (List Char) → Prop
  /-- Blanks hold no word. -/
  | blank {gap : List Char} : (∀ c ∈ gap, isBlank c = true) → Worded gap []
  /-- Blanks, a word, and a rest that does not go on with the word. -/
  | word {gap word rest : List Char} {words : List (List Char)} :
      (∀ c ∈ gap, isBlank c = true) → word ≠ [] → (∀ c ∈ word, isBlank c = false) →
      rest.head?.all isBlank = true → Worded rest words →
      Worded (gap ++ (word ++ rest)) (word :: words)

theorem wordStep_of_blank {c : Char} (h : isBlank c = true) (s : Bool × List (List Char)) :
    wordStep c s = (false, s.2) :=
  if_pos h

theorem wordStep_of_begin {c : Char} (h : isBlank c = false) (ws : List (List Char)) :
    wordStep c (false, ws) = (true, [c] :: ws) :=
  if_neg (Bool.eq_false_iff.mp h)

theorem wordStep_of_word {c : Char} (h : isBlank c = false) (w : List Char)
    (ws : List (List Char)) : wordStep c (true, w :: ws) = (true, (c :: w) :: ws) :=
  if_neg (Bool.eq_false_iff.mp h)

theorem wordChars_gap {gap rest : List Char} (h : ∀ c ∈ gap, isBlank c = true) :
    wordChars (gap ++ rest) = wordChars rest := by
  induction gap with
  | nil => rfl
  | cons c gap ih =>
      rw [List.forall_mem_cons] at h
      rw [← ih h.2, List.cons_append, wordChars, List.foldr_cons, wordStep_of_blank h.1, wordChars]

/-- Before a word, the split from the right has not begun one. -/
theorem foldr_wordStep_rest {rest : List Char} (hrest : rest.head?.all isBlank = true) :
    rest.foldr wordStep (false, []) = (false, wordChars rest) := by
  cases rest with
  | nil => rfl
  | cons c rest => rw [wordChars, List.foldr_cons, wordStep_of_blank (by simpa using hrest)]

/-- Within a word, the split from the right is about to go on with it. -/
theorem foldr_wordStep_word {word rest : List Char} (hne : word ≠ [])
    (hword : ∀ c ∈ word, isBlank c = false) (hrest : rest.head?.all isBlank = true) :
    (word ++ rest).foldr wordStep (false, []) = (true, word :: wordChars rest) := by
  induction word with
  | nil => exact absurd rfl hne
  | cons c word ih =>
      rw [List.forall_mem_cons] at hword
      rw [List.cons_append, List.foldr_cons]
      cases word with
      | nil => rw [List.nil_append, foldr_wordStep_rest hrest, wordStep_of_begin hword.1]
      | cons d word => rw [ih (List.cons_ne_nil d word) hword.2, wordStep_of_word hword.1]

theorem wordChars_word {word rest : List Char} (hne : word ≠ [])
    (hword : ∀ c ∈ word, isBlank c = false) (hrest : rest.head?.all isBlank = true) :
    wordChars (word ++ rest) = word :: wordChars rest := by
  rw [wordChars, foldr_wordStep_word hne hword hrest]

/-- A text is written out in its words. -/
theorem worded_wordChars (cs : List Char) : Worded cs (wordChars cs) := by
  induction hk : cs.length using Nat.strong_induction_on generalizing cs with
  | _ k ih =>
      obtain ⟨gap, begun, rfl, hgap, hbegun⟩ := exists_run isBlank cs
      obtain ⟨word, rest, rfl, hword, hrest⟩ := exists_run (fun c => !isBlank c) begun
      simp only [Bool.not_eq_true'] at hword
      have hblank : rest.head?.all isBlank = true := by
        cases rest with
        | nil => rfl
        | cons c rest => simpa using hrest
      rw [wordChars_gap hgap]
      by_cases hne : word = []
      · -- without a word there are blanks only
        subst hne
        have hnil : rest = [] := by
          cases rest with
          | nil => rfl
          | cons c rest => simp_all
        subst hnil
        exact .blank (by simpa using hgap)
      · rw [wordChars_word hne hword hblank]
        refine .word hgap hne hword hblank (ih rest.length ?_ rest rfl)
        have := List.length_pos_iff.mpr hne
        simp only [List.length_append] at hk
        omega

/-- **A text is written out in its words**, and in no other way. -/
theorem worded_iff {ws : List (List Char)} : Worded cs ws ↔ ws = wordChars cs := by
  constructor
  · intro h
    induction h with
    | @blank gap hgap =>
        rw [← List.append_nil gap, wordChars_gap hgap]
        rfl
    | word hgap hne hword hrest _ ih =>
        rw [wordChars_gap hgap, wordChars_word hne hword hrest, ih]
  · rintro rfl
    exact worded_wordChars cs

/-- No word is empty. -/
theorem ne_nil_of_mem_wordChars {word : List Char} (h : word ∈ wordChars cs) : word ≠ [] := by
  generalize hws : wordChars cs = ws at h
  have hworded := worded_iff.mpr hws.symm
  clear hws
  induction hworded with
  | blank _ => exact absurd h List.not_mem_nil
  | word _ hne _ _ _ ih =>
      rcases List.mem_cons.mp h with rfl | h
      · exact hne
      · exact ih h

/-- No word holds a blank. -/
theorem no_blank_of_mem_wordChars {word : List Char} (h : word ∈ wordChars cs) :
    ∀ c ∈ word, isBlank c = false := by
  generalize hws : wordChars cs = ws at h
  have hworded := worded_iff.mpr hws.symm
  clear hws
  induction hworded with
  | blank _ => exact absurd h List.not_mem_nil
  | word _ _ hword _ _ ih =>
      obtain rfl | h := List.mem_cons.mp h
      · exact hword
      · exact ih h

/-- **Words with a space between them are read back.** -/
theorem wordChars_intercalate {ws : List (List Char)} (hne : ∀ w ∈ ws, w ≠ [])
    (hblank : ∀ w ∈ ws, ∀ c ∈ w, isBlank c = false) :
    wordChars (List.intercalate [' '] ws) = ws := by
  induction ws with
  | nil => rfl
  | cons w ws ih =>
      rw [List.forall_mem_cons] at hne hblank
      have hrest := ih hne.2 hblank.2
      cases ws with
      | nil =>
          have hword : wordChars (w ++ []) = w :: wordChars [] :=
            wordChars_word hne.1 hblank.1 rfl
          rw [List.append_nil] at hword
          rw [List.intercalate_singleton, hword]
          rfl
      | cons v ws =>
          have hspace : ∀ c ∈ [' '], isBlank c = true := by
            intro c hc
            obtain rfl := List.mem_singleton.mp hc
            rfl
          rw [List.intercalate_cons_cons, List.append_assoc,
            wordChars_word hne.1 hblank.1 rfl, wordChars_gap hspace, hrest]

end Text

end LintVerdict
