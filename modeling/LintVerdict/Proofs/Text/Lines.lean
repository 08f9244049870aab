import Mathlib.Data.List.Basic
import LintVerdict.Proofs.Text

/-!
# Lines

A line feed ends a line, and the end of the text ends the last one, unless nothing stands behind the
last line feed. A text is taken line by line: it has no line feed, or it begins with a line and a
line feed.

## Main definitions

* `Text.closing`: what ends the last line of a text.

## Main results

* `Text.feed_induction`: induction along the line feeds of a text.
* `Text.feedLines_line`, `Text.feedLines_last`: the lines of a text, one at a time.
* `Text.feedLines_append_closing`: the lines of two texts, one behind the other.
* `Text.map_trimChars_lineChars`: a carriage return at the end of a line is trimmed away.
-/

namespace LintVerdict.Text

variable {cs line rest : List Char}

/-- Induction along the line feeds of a text. -/
@[elab_as_elim]
theorem feed_induction {P : List Char → Prop} (last : ∀ line, '\n' ∉ line → P line)
    (feed : ∀ line rest, '\n' ∉ line → P rest → P (line ++ '\n' :: rest)) (cs : List Char) :
    P cs := by
  induction hk : cs.length using Nat.strong_induction_on generalizing cs with
  | _ k ih =>
      obtain hnone | ⟨line, rest, hline, rfl⟩ := notMem_or_cut '\n' cs
      · exact last cs hnone
      · refine feed line rest hline (ih rest.length ?_ rest rfl)
        simp only [List.length_append, List.length_cons] at hk
        omega

/-! ### Line by line -/

/-- The lines of a text that begins with a line and a line feed. -/
theorem feedLines_line (h : '\n' ∉ line) :
    feedLines (line ++ '\n' :: rest) = line :: feedLines rest := by
  induction line with
  | nil => rfl
  | cons c line ih =>
      rw [List.mem_cons, not_or] at h
      rw [List.cons_append, feedLines, List.foldr_cons, ← feedLines, ih h.2]
      exact if_neg (Ne.symm h.1)

/-- A text without a line feed is a line, unless it is empty. -/
theorem feedLines_last (h : '\n' ∉ line) (hne : line ≠ []) : feedLines line = [line] := by
  induction line with
  | nil => exact absurd rfl hne
  | cons c line ih =>
      rw [List.mem_cons, not_or] at h
      have hc : ¬ c = '\n' := Ne.symm h.1
      cases line with
      | nil => exact if_neg hc
      | cons d line =>
          rw [feedLines, List.foldr_cons, ← feedLines, ih h.2 (List.cons_ne_nil d line)]
          exact if_neg hc

/-! ### One text behind another -/

/-- What ends the last line of a text: a line feed, unless the text is empty or ends with one. -/
def closing (cs : List Char) : List Char :=
  if cs = [] ∨ cs.getLast? = some '\n' then [] else ['\n']

/-- The last line of a text is that of what stands behind a line feed. -/
theorem closing_feed (line rest : List Char) : closing (line ++ '\n' :: rest) = closing rest := by
  cases rest with
  | nil => exact (if_pos (Or.inr List.getLast?_concat)).trans (if_pos (Or.inl rfl)).symm
  | cons c rest =>
      have hlast : (line ++ '\n' :: c :: rest).getLast? = (c :: rest).getLast? := by
        rw [List.getLast?_append_of_ne_nil _ (List.cons_ne_nil _ _), List.getLast?_cons_cons]
      simp only [closing, hlast, List.append_eq_nil_iff, List.cons_ne_nil, and_false]

/-- **Behind a text whose last line is ended**, a text keeps its lines. -/
theorem feedLines_append_closing (cs rest : List Char) :
    feedLines (cs ++ (closing cs ++ rest)) = feedLines cs ++ feedLines rest := by
  induction cs using feed_induction with
  | last line hline =>
      by_cases hempty : line = []
      · rw [hempty]
        rfl
      · have hopen : ¬ (line = [] ∨ line.getLast? = some '\n') :=
          not_or.mpr ⟨hempty, fun h => hline (List.mem_of_getLast? h)⟩
        rw [closing, if_neg hopen, List.singleton_append, feedLines_line hline,
          feedLines_last hline hempty, List.singleton_append]
  | feed line more hline ih =>
      rw [closing_feed, List.append_assoc, List.cons_append, feedLines_line hline, ih,
        feedLines_line hline, List.cons_append]

/-! ### Trimmed lines -/

/-- A line ends with a carriage return, or it is left as it is. -/
theorem dropReturn_cases (line : List Char) :
    (∃ front, line = front ++ ['\r'] ∧ dropReturn line = front) ∨
      (line.getLast? ≠ some '\r' ∧ dropReturn line = line) := by
  rw [dropReturn]
  split
  · next h =>
    obtain ⟨front, rfl⟩ := List.getLast?_eq_some_iff.mp h
    exact Or.inl ⟨front, rfl, List.dropLast_concat⟩
  · next h => exact Or.inr ⟨h, rfl⟩

/-- A carriage return at the end of a line is trimmed away in any case. -/
theorem trimChars_dropReturn (line : List Char) : trimChars (dropReturn line) = trimChars line := by
  obtain ⟨front, rfl, hdrop⟩ | ⟨-, hdrop⟩ := dropReturn_cases line
  · rw [hdrop, trimChars_concat (by decide)]
  · rw [hdrop]

/-- Trimmed lines do not tell whether a carriage return belonged to the line's end. -/
theorem map_trimChars_lineChars (cs : List Char) :
    (lineChars cs).map trimChars = (feedLines cs).map trimChars := by
  have hdrop (ls : List (List Char)) :
      (ls.map dropReturn).map trimChars = ls.map trimChars := by
    rw [List.map_map]
    exact List.map_congr_left fun l _ => trimChars_dropReturn l
  rw [lineChars]
  split
  · next hnil => rw [hnil]
  · next l ls hlines =>
    rw [hlines]
    dsimp only
    split
    · exact hdrop (l :: ls)
    · rw [List.map_append, hdrop, ← List.map_append,
        List.getLast?_eq_some_getLast (List.cons_ne_nil l ls), Option.toList_some,
        List.dropLast_concat_getLast]

end LintVerdict.Text
