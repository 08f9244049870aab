import LintVerdict.Text.Blank

/-!
# Pieces between separators

A text is split at a separator and glued together with it again. The two undo each other, and no
piece holds the separator.

## Main results

* `Text.splitChars_eq_splitOn`: the split is that of lists.
* `Text.splitAt_joinWith`: pieces that are glued together are split again.
-/

namespace LintVerdict.Text

variable {sep : Char} {cs piece : List Char}

theorem splitChars_eq_splitOn (sep : Char) (cs : List Char) :
    splitChars sep cs = cs.splitOn sep := by
  induction cs with
  | nil => rfl
  | cons c cs ih =>
      obtain ⟨p, ps, hps⟩ := List.exists_cons_of_ne_nil (List.splitOn_ne_nil sep cs)
      rw [hps] at ih
      rw [splitChars, List.foldr_cons, ← splitChars, ih, List.splitOn_cons_eq_if_modifyHead, hps]
      by_cases hc : c = sep <;> simp [splitStep, hc]

/-- Pieces that each stand behind a separator are split again. -/
theorem splitChars_append_flatMap {pieces : List (List Char)} (hpiece : sep ∉ piece)
    (hpieces : ∀ p ∈ pieces, sep ∉ p) :
    splitChars sep (piece ++ pieces.flatMap (sep :: ·)) = piece :: pieces := by
  rw [splitChars_eq_splitOn]
  induction pieces generalizing piece with
  | nil => rw [List.flatMap_nil, List.append_nil, List.splitOn_eq_singleton hpiece]
  | cons p ps ih =>
      obtain ⟨hp, hps⟩ := List.forall_mem_cons.mp hpieces
      rw [List.flatMap_cons, List.cons_append, List.splitOn_append_cons_self_of_not_mem hpiece,
        ih hp hps]

/-- A text with a separator in it splits into the pieces before the separator and those behind. -/
theorem splitAt_of_toList {text before behind : String}
    (h : text.toList = before.toList ++ sep :: behind.toList) :
    splitAt sep text = splitAt sep before ++ splitAt sep behind := by
  simp only [splitAt, splitChars_eq_splitOn]
  rw [h, List.splitOn_append_cons_self, List.map_append]

/-- No piece holds the separator. -/
theorem notMem_of_mem_splitOn (h : piece ∈ cs.splitOn sep) : sep ∉ piece := by
  induction cs generalizing piece with
  | nil =>
      obtain rfl := List.mem_singleton.mp h
      exact List.not_mem_nil
  | cons c cs ih =>
      rw [List.splitOn_cons_eq_if_modifyHead] at h
      split at h
      · obtain rfl | h := List.mem_cons.mp h
        · exact List.not_mem_nil
        · exact ih h
      · next hc =>
        obtain ⟨p, ps, hps⟩ := List.exists_cons_of_ne_nil (List.splitOn_ne_nil sep cs)
        rw [hps, List.modifyHead_cons] at h
        rw [hps] at ih
        obtain rfl | h := List.mem_cons.mp h
        · have hp := ih List.mem_cons_self
          simp only [beq_iff_eq] at hc
          simp [Ne.symm hc, hp]
        · exact ih (List.mem_cons_of_mem p h)

theorem toList_joinWith (sep : Char) (parts : List String) :
    (joinWith (String.ofList [sep]) parts).toList =
      List.intercalate [sep] (parts.map String.toList) := by
  rw [joinWith, String.toList_intercalate, String.toList_ofList]

/-- Pieces that are glued together are split again. -/
theorem splitAt_joinWith {parts : List String} (hne : parts ≠ [])
    (h : ∀ p ∈ parts, sep ∉ p.toList) :
    splitAt sep (joinWith (String.ofList [sep]) parts) = parts := by
  rw [splitAt, toList_joinWith, splitChars_eq_splitOn, List.splitOn_intercalate]
  · simp
  · simpa using h
  · simpa using hne

end LintVerdict.Text
