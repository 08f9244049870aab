import LintVerdict.Proofs.Template.Grammar
import LintVerdict.Proofs.Text.Split

/-!
# Templates as they are shown

A template is shown as its program and the texts of its argument tokens, with a space between
each two. The blanks between the tokens are all that this forgets: what is shown is read as the
same template again, and two texts are read as the same template exactly if their tokens are the
same. A token is kept in its segments as well, and these spell it out again.

## Main definitions

* `Segment.spelled`: the text of a segment, with the braces of a placeholder.

## Main results

* `Token.Spells.flatMap_spelled`: the segments of a token spell it out.
* `display_parse_inverse`: showing a template undoes reading it, up to the blanks between tokens.
-/

namespace LintVerdict

/-- The text of a segment: a placeholder stands between braces, its default behind an equals
sign. -/
def Segment.spelled : Segment → List Char
  | .literal text => text
  | .placeholder p none => '\x7b' :: (p.name.toList ++ ['\x7d'])
  | .placeholder p (some default) => '\x7b' :: (p.name.toList ++ '=' :: default ++ ['\x7d'])

/-! ### Segments -/

variable {cs inner : List Char} {ss : List Segment} {p : Segment}

theorem flatMap_spelled_literalOf (text : List Char) :
    (literalOf text).flatMap Segment.spelled = text := by
  cases text with
  | nil => rfl
  | cons c text => exact List.flatMap_singleton _ _

/-- A placeholder is spelled as it stands between its braces. -/
theorem Placeholder.Spells.spelled_eq (h : Placeholder.Spells inner p) :
    p.spelled = '\x7b' :: (inner ++ ['\x7d']) := by
  rcases h with ⟨hdeclares, -⟩
  cases hdeclares <;> rfl

/-- **The segments of a token spell it out.** -/
theorem Token.Spells.flatMap_spelled (h : Token.Spells cs ss) :
    ss.flatMap Segment.spelled = cs := by
  induction h with
  | text _ => exact flatMap_spelled_literalOf _
  | placeholder _ _ hp _ ih =>
      rw [List.flatMap_append, List.flatMap_cons, flatMap_spelled_literalOf, hp.spelled_eq, ih]
      simp

/-! ### Templates -/

namespace CommandTemplate

variable {template other : String} {t u : CommandTemplate}

/-- Only the tokens of a text count for the template that is read from it. -/
theorem parse_congr (h : Text.wordChars template.toList = Text.wordChars other.toList) :
    parse template = parse other := by
  rw [parse, parse, h]

/-- The tokens of an accepted text are the program and the arguments. -/
theorem wordChars_of_parse (h : parse template = .ok t) :
    Text.wordChars template.toList = t.program.toList :: t.args.map Token.raw :=
  (spells_of_parse h).tokens_eq

/-- An accepted template is shown as the tokens of its text with a space between each two. -/
theorem toList_display (h : parse template = .ok t) :
    t.display.toList = List.intercalate [' '] (Text.wordChars template.toList) := by
  have hraw : t.args.map (String.toList ∘ fun a => String.ofList a.raw) =
      t.args.map Token.raw := by
    refine List.map_congr_left ?_
    intro a _
    exact String.toList_ofList
  rw [wordChars_of_parse h, display, show " " = String.ofList [' '] from rfl,
    Text.toList_joinWith, List.map_cons, List.map_map, hraw]

/-- What is shown of an accepted template has the tokens of its text. -/
theorem wordChars_display (h : parse template = .ok t) :
    Text.wordChars t.display.toList = Text.wordChars template.toList := by
  rw [toList_display h]
  refine Text.wordChars_intercalate ?_ ?_
  · intro w hw
    exact Text.ne_nil_of_mem_wordChars hw
  · intro w hw
    exact Text.no_blank_of_mem_wordChars hw

/-- What is shown of an accepted template is read as the same template. -/
theorem parse_display (h : parse template = .ok t) : parse t.display = .ok t := by
  rw [parse_congr (wordChars_display h), h]

/-- **Accepted texts give the same template** exactly if they have the same tokens. -/
theorem eq_iff_of_parse (h : parse template = .ok t) (hother : parse other = .ok u) :
    t = u ↔ Text.wordChars template.toList = Text.wordChars other.toList := by
  constructor
  · rintro rfl
    rw [wordChars_of_parse h, wordChars_of_parse hother]
  · intro hwords
    rw [parse_congr hwords, hother] at h
    exact (Except.ok.inj h).symm

end CommandTemplate

/-- **Showing a template undoes reading it.** An accepted text is a row of tokens between blanks.
Its template is shown as these tokens with one space between each two, its arguments keep every
character of them in their segments, and what is shown is read as the same template again.
Another accepted text gives the same template exactly if it is a row of the same tokens. -/
theorem display_parse_inverse {template : String} {t : CommandTemplate}
    (h : CommandTemplate.parse template = .ok t) :
    ∃ tokens, Text.Worded template.toList tokens ∧
      t.display.toList = List.intercalate [' '] tokens ∧
      tokens = t.program.toList :: t.args.map (fun a => a.segments.flatMap Segment.spelled) ∧
      CommandTemplate.parse t.display = .ok t ∧
      ∀ other u, CommandTemplate.parse other = .ok u →
        (t = u ↔ Text.Worded other.toList tokens) := by
  have hsegments : t.args.map (fun a => a.segments.flatMap Segment.spelled) =
      t.args.map Token.raw := by
    refine List.map_congr_left ?_
    intro a ha
    exact ((CommandTemplate.spells_of_parse h).args a ha).flatMap_spelled
  refine ⟨_, Text.worded_wordChars _, CommandTemplate.toList_display h, ?_,
    CommandTemplate.parse_display h, ?_⟩
  · rw [hsegments]
    exact CommandTemplate.wordChars_of_parse h
  · intro other u hother
    rw [CommandTemplate.eq_iff_of_parse h hother, Text.worded_iff]

/-- A template with tokens between blanks of several kinds, one of them with a default that holds
an opening brace. -/
def CommandTemplate.bracedDefault : CommandTemplate where
  program := "lint"
  args := [
    ⟨"-n\x7bmincyclo=\x7b=\x7d".toList,
      [.literal "-n".toList, .placeholder .mincyclo (some "\x7b=".toList)]⟩,
    ⟨"\x7btests=-t\x7d".toList, [.placeholder .tests (some "-t".toList)]⟩]

/-- What is shown has single spaces, and is read as the same template. -/
theorem display_parse_inverse_braced :
    CommandTemplate.parse "\tlint  -n\x7bmincyclo=\x7b=\x7d\u2003\x7btests=-t\x7d\n" =
        .ok .bracedDefault ∧
      CommandTemplate.bracedDefault.display = "lint -n\x7bmincyclo=\x7b=\x7d \x7btests=-t\x7d" ∧
      CommandTemplate.parse CommandTemplate.bracedDefault.display = .ok .bracedDefault := by
  have hparse : CommandTemplate.parse
      "\tlint  -n\x7bmincyclo=\x7b=\x7d\u2003\x7btests=-t\x7d\n" = .ok .bracedDefault := by
    decide +kernel
  obtain ⟨_, -, -, -, hback, -⟩ := display_parse_inverse hparse
  exact ⟨hparse, by decide +kernel, hback⟩

end LintVerdict
