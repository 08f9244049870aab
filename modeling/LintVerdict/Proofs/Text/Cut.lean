import Mathlib.Data.String.Basic

/-!
# Cuts at byte offsets

A text is searched for a character and cut at a number of bytes. The bytes of a character belong
together: a cut leaves two texts only in front of a character or at the end. A character that is
found has such an offset, and so has what follows it, one byte further if the character has one.

## Main definitions

* `Text.offset?`: how many bytes stand before the first place of a character.
* `Text.Cut`: a text and the offset of a cut, with the two parts of it.
* `Text.Cut.OnBoundary`: a cut that goes through no character.

## Main results

* `Text.offset?_of_cut`, `Text.offset?_of_notMem`: what the search finds.
* `Text.Cut.onBoundary_of_append`, `Text.Cut.before_of_append`, `Text.Cut.behind_of_append`: a cut
  between characters and its parts.
* `Text.Cut.around`: the cuts before and behind a character of one byte.
-/

namespace LintVerdict.Text

/-- How many bytes stand before the first place of a character. -/
def offset? (c : Char) (s : String) : Option Nat := (s.find? c).map fun p => p.offset.byteIdx

/-- A text and how many of its bytes stand before the cut. -/
structure Cut where
  /-- The text. -/
  text : String
  /-- The number of bytes. -/
  offset : Nat

namespace Cut

/-- The cut is in front of a character or at the end of the text. -/
def OnBoundary (cut : Cut) : Prop := String.Pos.Raw.IsValid cut.text ⟨cut.offset⟩

/-- The bytes before the cut. -/
def before (cut : Cut) : String := String.Pos.Raw.extract cut.text 0 ⟨cut.offset⟩

/-- The bytes behind the cut. -/
def behind (cut : Cut) : String :=
  String.Pos.Raw.extract cut.text ⟨cut.offset⟩ cut.text.rawEndPos

end Cut

variable {c : Char} {s : String} {front back : List Char}

/-! ### The search -/

theorem offset?_of_cut (h : s.toList = front ++ c :: back) (hfront : c ∉ front) :
    offset? c s = some (String.utf8Len front) := by
  have hs : s = String.ofList front ++ (String.singleton c ++ String.ofList back) := by
    rw [← String.toList_inj]
    simpa using h
  have hvalid : String.Pos.Raw.IsValid s (String.ofList front).rawEndPos :=
    String.Pos.Raw.isValid_iff_exists_append.mpr ⟨_, _, hs, rfl⟩
  have hfind : s.find? c = some ⟨_, hvalid⟩ :=
    String.find?_char_eq_some_iff_splits.mpr ⟨_, _, ⟨hs, rfl⟩, by simpa using hfront⟩
  rw [offset?, hfind]
  simp

theorem offset?_of_notMem (h : c ∉ s.toList) : offset? c s = none := by
  rw [offset?, Option.map_eq_none_iff, Option.eq_none_iff_forall_ne_some]
  intro p hp
  obtain ⟨t, u, hsplits, -⟩ := String.find?_char_eq_some_iff_splits.mp hp
  refine h ?_
  rw [hsplits.eq_append]
  simp

/-! ### Between characters -/

namespace Cut

variable {n : Nat}

theorem onBoundary_of_append (h : s.toList = front ++ back) (hn : String.utf8Len front = n) :
    OnBoundary ⟨s, n⟩ := by
  have hs : s = String.ofList front ++ String.ofList back := by
    rw [← String.toList_inj]
    simpa using h
  refine String.Pos.Raw.isValid_iff_exists_append.mpr ⟨_, _, hs, ?_⟩
  rw [String.rawEndPos_ofList, hn]

theorem before_of_append (h : s.toList = front ++ back) (hn : String.utf8Len front = n) :
    before ⟨s, n⟩ = String.ofList front := by
  have hextract := String.extract_of_valid [] front back
  rw [List.nil_append, ← h, String.ofList_toList, String.utf8Len_nil, Nat.zero_add, hn] at hextract
  exact hextract

theorem behind_of_append (h : s.toList = front ++ back) (hn : String.utf8Len front = n) :
    behind ⟨s, n⟩ = String.ofList back := by
  have hend : s.rawEndPos = ⟨String.utf8Len front + String.utf8Len back⟩ := by
    rw [← String.utf8Len_append, ← h, ← String.rawEndPos_ofList, String.ofList_toList]
  have hextract := String.extract_of_valid front back []
  rw [List.append_nil, ← h, String.ofList_toList, hn] at hextract
  rw [behind, hend, hn]
  exact hextract

/-- The cuts around a character of one byte leave what stands before it and what stands behind. -/
theorem around (hc : c.utf8Size = 1) (h : s.toList = front ++ c :: back) :
    (∀ cut ∈ [Cut.mk s (String.utf8Len front), Cut.mk s (String.utf8Len front + 1)],
        cut.OnBoundary) ∧
      before ⟨s, String.utf8Len front⟩ = String.ofList front ∧
      behind ⟨s, String.utf8Len front + 1⟩ = String.ofList back := by
  have happend : s.toList = (front ++ [c]) ++ back := by
    rw [h, List.append_assoc, List.singleton_append]
  have hlen : String.utf8Len (front ++ [c]) = String.utf8Len front + 1 := by
    simp [hc]
  refine ⟨?_, before_of_append h rfl, behind_of_append happend hlen⟩
  simp only [List.forall_mem_cons, List.not_mem_nil]
  exact ⟨onBoundary_of_append h rfl, onBoundary_of_append happend hlen, nofun⟩

end Cut

end LintVerdict.Text
