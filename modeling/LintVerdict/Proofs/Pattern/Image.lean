import LintVerdict.Proofs.Decimal
import LintVerdict.Proofs.Pattern.Entries
import LintVerdict.Proofs.Pattern.Findings
import LintVerdict.Proofs.Pattern.Numbering
import LintVerdict.Proofs.Pattern.Successive

/-!
# Findings as the image of the matches

Whatever expression a pattern is, its findings are those of the successive matches of an output, in
order. A match has a finding if its path took part and is not blank, and a match without one keeps
no later match from having its own. Path, line, column and message of a finding are each told by
the group of that name alone.

## Main definitions

* `IsNumeral`: an optional plus sign and ASCII digits, with their value.
* `OutputPattern.MessageIs`: the message that a match gives to its finding.
* `OutputPattern.Shows`: what a finding says of its match.
* `OutputPattern.showsPath`: whether a match has a finding.

## Main results

* `OutputPattern.number?_eq_some_iff`: when a group holds a number.
* `OutputPattern.finding?_cases`: the finding of a match.
* `OutputPattern.findings_image`: the findings of an output.
-/

namespace LintVerdict

open Pattern (Match Regex Successive)

/-- A text is an optional plus sign and one or more ASCII digits with a value below `2 ^ 64`. -/
structure IsNumeral (cs : List Char) (n : Nat) : Prop where
  /-- The digits, and the sign before them. -/
  digits : ∃ ds, (cs = ds ∨ cs = '+' :: ds) ∧ ds ≠ [] ∧ (∀ c ∈ ds, Decimal.isDigit c = true) ∧
    Decimal.readDigits 0 ds = n
  /-- The value fits in a machine word. -/
  lt : n < Decimal.word64

namespace OutputPattern

variable {p : OutputPattern} {linter output : String} {fallback : Option String}
  {text : Array Char} {m : Match} {f : Finding} {cs : List Char} {n : Nat}

/-- **When a group holds a number.** -/
theorem number?_eq_some_iff : number? cs = some n ↔ IsNumeral cs n := by
  rw [number?, Decimal.boundedNat?, Option.filter_eq_some_iff, Decimal.decimal?_eq_some_iff,
    decide_eq_true_iff]
  constructor
  · rintro ⟨⟨⟨hne, hdigits⟩, hvalue⟩, hlt⟩
    refine ⟨⟨Decimal.dropPlus cs, ?_, hne, hdigits, hvalue⟩, hlt⟩
    unfold Decimal.dropPlus
    split
    · exact Or.inr rfl
    · exact Or.inl rfl
  · rintro ⟨⟨ds, hcs, hne, hdigits, hvalue⟩, hlt⟩
    have hplus : '+' ∉ ds := fun hmem => absurd (hdigits '+' hmem) (by decide)
    have hdrop : Decimal.dropPlus cs = ds := by
      obtain rfl | rfl := hcs
      · exact Decimal.dropPlus_of_notMem hplus
      · rfl
    rw [hdrop]
    exact ⟨⟨⟨hne, hdigits⟩, hvalue⟩, hlt⟩

/-- A group took part in a match and its text is not blank. -/
def HoldsText (p : OutputPattern) (text : Array Char) (m : Match) (name : String)
    (cs : List Char) : Prop :=
  p.groupText? text m name = some cs ∧ ∃ c ∈ cs, Text.isBlank c = false

/-- The message that a match gives to its finding: the trimmed text of the group for it if that
took part and is not blank, else the fallback if there is one, else a fixed text. -/
inductive MessageIs (p : OutputPattern) (fallback : Option String) (text : Array Char)
    (m : Match) : String → Prop
  /-- The group holds a text. -/
  | message {cs : List Char} :
      p.HoldsText text m "message" cs →
      MessageIs p fallback text m (String.ofList (Text.trimChars cs))
  /-- The group holds none, and there is a fallback. -/
  | fallback {told : String} :
      (∀ cs, ¬ p.HoldsText text m "message" cs) → fallback = some told →
      MessageIs p fallback text m told
  /-- The group holds none, and there is no fallback. -/
  | fixed :
      (∀ cs, ¬ p.HoldsText text m "message" cs) → fallback = none →
      MessageIs p fallback text m "issue reported"

/-- What a finding says of its match. -/
structure Shows (p : OutputPattern) (linter : String) (fallback : Option String)
    (text : Array Char) (m : Match) (f : Finding) : Prop where
  /-- It names the linter. -/
  linter : f.linter = linter
  /-- Its path is the trimmed text of the group for it, of which something is left. -/
  path : ∃ cs, p.HoldsText text m "path" cs ∧ f.path.toList = Text.trimChars cs
  /-- It has a line exactly if the group for it took part and holds a number. -/
  line : ∀ n, f.line = some n ↔ ∃ cs, p.groupText? text m "line" = some cs ∧ IsNumeral cs n
  /-- It has a column exactly if the group for it took part and holds a number. -/
  column : ∀ n, f.column = some n ↔ ∃ cs, p.groupText? text m "col" = some cs ∧ IsNumeral cs n
  /-- Its message. -/
  message : p.MessageIs fallback text m f.message

/-- Whether a match has a finding: its path took part and is not blank. -/
def showsPath (p : OutputPattern) (text : Array Char) (m : Match) : Bool :=
  (p.groupText? text m "path").any fun cs => cs.any fun c => !Text.isBlank c

/-! ### The groups of a match -/

theorem trimChars_ne_nil_iff :
    Text.trimChars cs ≠ [] ↔ ∃ c ∈ cs, Text.isBlank c = false := by
  rw [Ne, Text.trimChars_eq_nil_iff]
  simp

theorem nonempty?_trimChars_eq_some_iff {path : List Char} :
    nonempty? (Text.trimChars cs) = some path ↔
      Text.trimChars cs = path ∧ ∃ c ∈ cs, Text.isBlank c = false := by
  rw [nonempty?_eq_some_iff, ← trimChars_ne_nil_iff]
  exact and_congr_right fun h => by rw [h]

/-- A trimmed group is left over when it holds a text. -/
theorem trimmed_eq_some_iff {name : String} {path : List Char} :
    ((p.groupText? text m name).bind fun cs => nonempty? (Text.trimChars cs)) = some path ↔
      ∃ cs, p.HoldsText text m name cs ∧ path = Text.trimChars cs := by
  rw [Option.bind_eq_some_iff]
  refine exists_congr fun cs => ?_
  rw [nonempty?_trimChars_eq_some_iff, HoldsText, and_assoc]
  exact and_congr_right fun _ => and_comm.trans (and_congr_right fun _ => eq_comm)

theorem showsPath_eq_true_iff : p.showsPath text m = true ↔ ∃ cs, p.HoldsText text m "path" cs := by
  rw [showsPath, Option.any_eq_true]
  refine exists_congr fun cs => and_congr_right fun _ => ?_
  simp

/-- A number is read from the text of its group alone. -/
theorem number_eq_some_iff {name : String} :
    (p.groupText? text m name).bind number? = some n ↔
      ∃ cs, p.groupText? text m name = some cs ∧ IsNumeral cs n := by
  rw [Option.bind_eq_some_iff]
  exact exists_congr fun cs => and_congr_right fun _ => number?_eq_some_iff

/-- The message of a finding is what its match tells. -/
theorem messageIs_of_match :
    p.MessageIs fallback text m
      ((((p.groupText? text m "message").bind fun cs => nonempty? (Text.trimChars cs)).map
        String.ofList).getD (defaultMessage fallback)) := by
  cases hmessage : (p.groupText? text m "message").bind fun cs => nonempty? (Text.trimChars cs) with
  | some told =>
      obtain ⟨cs, hholds, rfl⟩ := trimmed_eq_some_iff.mp hmessage
      exact .message hholds
  | none =>
      have hsilent : ∀ cs, ¬ p.HoldsText text m "message" cs := by
        intro cs hholds
        have hsome := trimmed_eq_some_iff.mpr ⟨cs, hholds, rfl⟩
        exact absurd (hmessage.symm.trans hsome) (by simp)
      cases fallback with
      | some told => exact .fallback hsilent rfl
      | none => exact .fixed hsilent rfl

/-! ### The findings of an output -/

/-- **The finding of a match**: there is one exactly if the match shows a path, and it says what
its match does. -/
theorem finding?_cases (p : OutputPattern) (linter : String) (fallback : Option String)
    (text : Array Char) (m : Match) :
    (p.showsPath text m = true ∧
        ∃ f, p.finding? linter fallback text m = some f ∧ p.Shows linter fallback text m f) ∨
      (p.showsPath text m = false ∧ p.finding? linter fallback text m = none) := by
  have hpath : (p.finding? linter fallback text m).map (fun f => f.path.toList) =
      p.path? text m := path_finding?
  cases hfinding : p.finding? linter fallback text m with
  | some f =>
      rw [hfinding, Option.map_some, eq_comm, path?, trimmed_eq_some_iff] at hpath
      obtain ⟨cs, hholds, hcs⟩ := hpath
      refine Or.inl ⟨showsPath_eq_true_iff.mpr ⟨cs, hholds⟩, f, rfl, ?_⟩
      rw [finding?] at hfinding
      simp only [Option.bind_eq_bind, Option.bind_eq_some_iff] at hfinding
      obtain ⟨_, _, _, _, hf⟩ := hfinding
      obtain rfl := Option.some.inj hf
      exact ⟨rfl, ⟨cs, hholds, hcs⟩, fun n => number_eq_some_iff, fun n => number_eq_some_iff,
        messageIs_of_match⟩
  | none =>
      rw [hfinding, Option.map_none, eq_comm, path?] at hpath
      refine Or.inr ⟨?_, rfl⟩
      rw [Bool.eq_false_iff, Ne, showsPath_eq_true_iff]
      rintro ⟨cs, hholds⟩
      exact absurd (hpath.symm.trans (trimmed_eq_some_iff.mpr ⟨cs, hholds, rfl⟩)) (by simp)

/-- The findings of some matches are those of the matches that show a path, in order. -/
theorem forall₂_shows (p : OutputPattern) (linter : String) (fallback : Option String)
    (text : Array Char) (ms : List Match) :
    List.Forall₂ (p.Shows linter fallback text) (ms.filter (p.showsPath text))
      (ms.filterMap (p.finding? linter fallback text)) := by
  induction ms with
  | nil => exact .nil
  | cons m ms ih =>
      obtain ⟨hshows, f, hfinding, hf⟩ | ⟨hshows, hfinding⟩ :=
        p.finding?_cases linter fallback text m
      · rw [List.filter_cons_of_pos hshows, List.filterMap_cons_some hfinding]
        exact .cons hf ih
      · rw [List.filter_cons_of_neg (by simp [hshows]), List.filterMap_cons_none hfinding]
        exact ih

/-- The text of a group stands in the text that was searched. -/
theorem isInfix_groupText? {name : String} (h : p.groupText? text m name = some cs) :
    cs <:+: text.toList := by
  obtain ⟨_, first, last, _, _, rfl⟩ := groupText?_eq_some h
  rw [Array.toList_extract, List.extract_eq_take_drop]
  exact (List.take_prefix _ _).isInfix.trans (List.drop_suffix _ _).isInfix

/-- A path is a text of the output that is not empty. -/
theorem Shows.isInfix_path (h : p.Shows linter fallback text m f) :
    f.path ≠ "" ∧ f.path.toList <:+: text.toList := by
  obtain ⟨cs, ⟨hcs, hholds⟩, hpath⟩ := h.path
  refine ⟨?_, hpath ▸ (Text.isInfix_trimChars cs).trans (isInfix_groupText? hcs)⟩
  rintro hempty
  rw [hempty] at hpath
  exact trimChars_ne_nil_iff.mpr hholds hpath.symm

/-- The findings of a pattern in an output are the image of the matches. -/
structure Image (p : OutputPattern) (linter output : String) (fallback : Option String) :
    Prop where
  /-- The matches follow each other from the start of the output. -/
  successive : Successive p.regex output.toList.toArray 0 none
    (p.matchesIn output.toList.toArray)
  /-- Each spans a way through the expression. -/
  spans : ∀ m ∈ p.matchesIn output.toList.toArray,
    ∃ w ∈ p.regex.ways output.toList.toArray m.span.1, w.stop = m.span.2
  /-- It is the first of these ways if all loops of the expression advance. -/
  first : p.regex.loopsAdvance = true → ∀ m ∈ p.matchesIn output.toList.toArray,
    p.regex.matchAt? output.toList.toArray m.span.1 = some m
  /-- No two overlap. -/
  apart : (p.matchesIn output.toList.toArray).Pairwise fun m m' =>
    m.span.2 ≤ m'.span.1 ∧ m.span.2 < m'.span.2
  /-- There is at most one more than there are characters. -/
  length_le : (p.matchesIn output.toList.toArray).length ≤ output.toList.length + 1
  /-- Those that show a path have one finding each, in order, and no other has one. -/
  shown : List.Forall₂ (p.Shows linter fallback output.toList.toArray)
    ((p.matchesIn output.toList.toArray).filter (p.showsPath output.toList.toArray))
    (p.findings linter output fallback)
  /-- The path of a finding is a text of the output that is not empty. -/
  paths : ∀ f ∈ p.findings linter output fallback,
    f.path ≠ "" ∧ f.path.toList <:+: output.toList

/-- **The findings of a usable pattern are the image of its matches**: of all of them that show a
path, in order. -/
theorem findings_image {declared : String} (h : OutputPattern.parse declared = .ok p)
    (linter output : String) (fallback : Option String) : p.Image linter output fallback := by
  have h0 := zero_notMem_groups h
  have hms : Successive p.regex output.toList.toArray 0 none (p.matchesIn output.toList.toArray) :=
    Pattern.Program.successive_allMatches h0 output.toList.toArray
  have hshown := p.forall₂_shows linter fallback output.toList.toArray
    (p.matchesIn output.toList.toArray)
  have hlength := hms.length_le h0
  rw [List.size_toArray] at hlength
  refine ⟨hms, fun m hm => ?_, fun hloops m hm => ?_, hms.pairwise h0, hlength, hshown,
    fun f hf => ?_⟩
  · obtain ⟨w, hw, hspan⟩ := Regex.span_of_preferred? h0 (hms.preferred?_eq h0 hm)
    exact ⟨w, hw, (congrArg Prod.snd hspan).symm⟩
  · have hpreferred := hms.preferred?_eq h0 hm
    have hsize := (Regex.exists_way_of_preferred? hpreferred).1
    rwa [Regex.preferred?_eq_matchAt? hloops hsize] at hpreferred
  · obtain ⟨m, _, hm⟩ := exists_of_forall₂_right hshown hf
    exact hm.isInfix_path

/-- Digits of another writing system and no message: the column and the fallback are shown. -/
theorem findings_image_shorthand :
    ∃ p, OutputPattern.parse "PATH:LINE:COL:MESSAGE" = .ok p ∧
      p.Image "x" "a.go:٣:7:" (some "issue") ∧
      p.findings "x" "a.go:٣:7:" (some "issue") = [⟨"x", "a.go", none, some 7, "issue"⟩] := by
  have hparse := Shorthand.lineAndColumn.parse_name
  refine ⟨_, hparse, findings_image hparse "x" "a.go:٣:7:" (some "issue"), ?_⟩
  have hloc : Shorthand.lineAndColumn.location? "a.go:٣:7:".toList =
      some ⟨"a.go".toList, ['٣'], some ['7'], []⟩ := by decide
  have hbehind : Shorthand.lineAndColumn.behind "a.go:٣:7:".toList = [] := by
    rw [Shorthand.behind, hloc]
    decide
  rw [findings_eq, entries_eq, hloc, hbehind, List.tail_nil, entries_nil]
  rfl

end OutputPattern

end LintVerdict
