import Mathlib.Data.List.Chain
import LintVerdict.Proofs.Template.Braces
import LintVerdict.Proofs.Template.Display
import LintVerdict.Proofs.Text.Cut

/-!
# The rounds of reading a token

A token is read in rounds. A round looks for the next opening brace and for the closing brace behind
it, cuts the bytes there, and leaves the rest to the next round. Each round uses up an opening
brace, so there are no more rounds than opening braces, and braces have one byte, so no cut goes
through a character. What the rounds collect is all there is to know of a token without blanks: its
segments are the only separated ones that spell it.

## Main definitions

* `Token.Separated`: segments as they come from a token.
* `Token.round?`: one round, with its cuts at byte offsets.
* `Token.Run`: the rounds that a text takes, and what they come to.

## Main results

* `Token.spells_iff_separated`: the separated segments that spell a token are its segments.
* `Token.round_advances`, `Token.exists_run`: what one round does, and all of them.
* `token_lossless`: reading a token loses nothing and ends.
-/

namespace LintVerdict

/-- A segment as it comes from a token. A text is not empty and holds no opening brace. A
placeholder has one of the known names and a default without a closing brace, and a flag declares a
text that is not empty. -/
def Segment.Sound : Segment → Prop
  | .literal text => text ≠ [] ∧ '\x7b' ∉ text
  | .placeholder p default =>
    p.name ∈ Placeholder.all.map Placeholder.name ∧
      (∀ text, default = some text → '\x7d' ∉ text) ∧
      (p = .tests → ∃ text, default = some text ∧ text ≠ [])

/-- Segments as they come from a token: each one is sound, and no two texts are neighbours. -/
structure Token.Separated (ss : List Segment) : Prop where
  /-- Each segment is sound. -/
  sound : ∀ s ∈ ss, s.Sound
  /-- No two texts are neighbours. -/
  apart : ss.IsChain fun s t => ¬ (s.isLiteral = true ∧ t.isLiteral = true)

/-! ### Segments that spell a token -/

section Segments

variable {cs text inner : List Char} {ss : List Segment} {p : Segment}

theorem sound_literalOf (h : '\x7b' ∉ text) : ∀ s ∈ literalOf text, s.Sound := by
  intro s hs
  rw [literalOf] at hs
  split at hs
  · exact absurd hs List.not_mem_nil
  · next hne =>
    obtain rfl := List.mem_singleton.mp hs
    exact ⟨by simpa using hne, h⟩

namespace Placeholder

theorem name_mem_names (p : Placeholder) : p.name ∈ all.map name := by
  cases p <;> decide

theorem Spells.sound (h : Spells inner p) (hinner : '\x7d' ∉ inner) : p.Sound := by
  obtain ⟨hdeclares, htext⟩ := h
  refine ⟨name_mem_names _, ?_, htext⟩
  rintro text rfl hbrace
  exact hinner (hdeclares.default_subset hbrace)

theorem Spells.isLiteral_eq_false (h : Spells inner p) : p.isLiteral = false := by
  cases h
  rfl

/-- A sound placeholder is spelled between braces, and the first closing brace ends it. -/
theorem exists_spells {p : Placeholder} {default : Option (List Char)}
    (h : (Segment.placeholder p default).Sound) :
    ∃ inner, Spells inner (.placeholder p default) ∧ '\x7d' ∉ inner := by
  obtain ⟨-, hbrace, htext⟩ := h
  have hname : '=' ∉ p.name.toList ∧ '\x7d' ∉ p.name.toList := by
    cases p <;> decide
  cases default with
  | none => exact ⟨_, .mk (.bare hname.1) htext, hname.2⟩
  | some text =>
      refine ⟨_, .mk (.withDefault hname.1) htext, ?_⟩
      simp [hname.2, hbrace text rfl]

end Placeholder

namespace Token

/-- **The segments of a token are separated.** -/
theorem Spells.separated (h : Spells cs ss) : Separated ss := by
  have hliteral : ∀ text, (literalOf text).IsChain
      fun s t => ¬ (s.isLiteral = true ∧ t.isLiteral = true) := by
    intro text
    rw [literalOf]
    split
    · exact .nil
    · exact .singleton _
  induction h with
  | text htext => exact ⟨sound_literalOf htext, hliteral _⟩
  | @placeholder text inner rest p more htext hinner hp _ ih =>
      have hp' := hp.isLiteral_eq_false
      refine ⟨?_, List.isChain_append.mpr ⟨hliteral text, ?_, ?_⟩⟩
      · exact List.forall_mem_append.mpr
          ⟨sound_literalOf htext, List.forall_mem_cons.mpr ⟨hp.sound hinner, ih.sound⟩⟩
      · exact List.isChain_cons.mpr ⟨fun t _ => by simp [hp'], ih.apart⟩
      · simp [hp']

/-- A text in front of a token that begins with a placeholder. -/
theorem Spells.cons_literal (h : Spells cs ss) (hs : (Segment.literal text).Sound)
    (hhead : ∀ s ∈ ss.head?, s.isLiteral = false) :
    Spells (text ++ cs) (.literal text :: ss) := by
  have htext : literalOf text = [.literal text] := if_neg (by simpa using hs.1)
  cases h with
  | text _ =>
      cases cs with
      | nil =>
          rw [List.append_nil]
          exact htext ▸ .text hs.2
      | cons c cs => exact absurd (hhead _ rfl) nofun
  | @placeholder front inner rest p more _ hinner hp hmore =>
      cases front with
      | nil =>
          have hspells := Spells.placeholder hs.2 hinner hp hmore
          rwa [htext] at hspells
      | cons c front => exact absurd (hhead _ rfl) nofun

/-- A placeholder in front of a token. -/
theorem Spells.cons_placeholder (h : Spells cs ss) (hp : Placeholder.Spells inner p)
    (hinner : '\x7d' ∉ inner) : Spells (p.spelled ++ cs) (p :: ss) := by
  rw [hp.spelled_eq, List.cons_append, List.append_assoc]
  exact .placeholder List.not_mem_nil hinner hp h

/-- Separated segments are those of the token that they spell. -/
theorem Separated.spells (h : Separated ss) : Spells (ss.flatMap Segment.spelled) ss := by
  induction ss with
  | nil => exact .text List.not_mem_nil
  | cons s ss ih =>
      obtain ⟨hs, hsound⟩ := List.forall_mem_cons.mp h.sound
      obtain ⟨hhead, happart⟩ := List.isChain_cons.mp h.apart
      have hss := ih ⟨hsound, happart⟩
      cases s with
      | literal text =>
          refine hss.cons_literal hs ?_
          intro t ht
          simpa [Segment.isLiteral] using hhead t ht
      | placeholder p default =>
          obtain ⟨inner, hp, hinner⟩ := Placeholder.exists_spells hs
          exact hss.cons_placeholder hp hinner

/-- **The segments of a token** are the separated ones that spell it. -/
theorem spells_iff_separated :
    Spells cs ss ↔ ss.flatMap Segment.spelled = cs ∧ Separated ss := by
  constructor
  · intro h
    exact ⟨h.flatMap_spelled, h.separated⟩
  · rintro ⟨rfl, h⟩
    exact h.spells

/-- A token without blanks is read as its segments. -/
theorem parse_eq_ok_iff {t : Token} (hblank : ∀ c ∈ cs, Text.isBlank c = false) :
    parse cs = .ok t ↔ t.raw = cs ∧ Spells cs t.segments := by
  constructor
  · intro h
    obtain ⟨ss, hss⟩ | ⟨e, he⟩ := spells_or_fault cs cs
    · rw [parse_of_spells hblank hss] at h
      obtain rfl := Except.ok.inj h
      exact ⟨rfl, hss⟩
    · rw [parse_of_firstFault hblank he] at h
      exact absurd h nofun
  · rintro ⟨rfl, h⟩
    exact parse_of_spells hblank h

end Token

end Segments

/-! ### One round -/

namespace Token

/-- What one round does: where it cuts, and the segments that it reads with the text that it leaves,
or the fault that it finds. -/
structure Round where
  /-- The cuts, also those whose parts turn out not to be needed. -/
  cuts : List Text.Cut
  /-- The segments and the text that is left, or the fault. -/
  outcome : Except TemplateError (List Segment × String)

/-- The round that a text takes, none without an opening brace. What stands before the brace is a
text, what stands up to the next closing brace is a placeholder, and what stands behind that is
left. -/
def round? (token rest : String) : Option Round :=
  (Text.offset? '\x7b' rest).map fun opening =>
    let text : Text.Cut := ⟨rest, opening⟩
    let after : Text.Cut := ⟨rest, opening + 1⟩
    match Text.offset? '\x7d' after.behind with
    | none => ⟨[text, after], .error (.unclosed token)⟩
    | some closing =>
      let inner : Text.Cut := ⟨after.behind, closing⟩
      let left : Text.Cut := ⟨after.behind, closing + 1⟩
      ⟨[text, after, inner, left], do
        let p ← parsePlaceholder inner.before.toList
        return (literalOf text.before.toList ++ [p], left.behind)⟩

/-- A round does its share of the reading, and uses up an opening brace. -/
structure Round.Advances (token rest : String) (r : Round) : Prop where
  /-- No cut goes through a character. -/
  cuts : ∀ cut ∈ r.cuts, cut.OnBoundary
  /-- The fault that the round finds is that of the whole text. -/
  fails : ∀ e, r.outcome = .error e → parseSegments token.toList rest.toList = .error e
  /-- The segments that the round reads stand before those of the text that it leaves. -/
  goes : ∀ segments left, r.outcome = .ok (segments, left) →
    parseSegments token.toList rest.toList =
        (parseSegments token.toList left.toList).map (segments ++ ·) ∧
      left.toList.count '\x7b' < rest.toList.count '\x7b'

section Rounds

variable {token rest : String} {text after inner left : List Char}

theorem round?_of_notMem (h : '\x7b' ∉ rest.toList) : round? token rest = none := by
  rw [round?, Text.offset?_of_notMem h]
  rfl

/-- The round of a text whose first placeholder is not closed. -/
theorem round?_unclosed (h : rest.toList = text ++ '\x7b' :: after) (htext : '\x7b' ∉ text)
    (hafter : '\x7d' ∉ after) :
    round? token rest =
      some ⟨[⟨rest, String.utf8Len text⟩, ⟨rest, String.utf8Len text + 1⟩],
        .error (.unclosed token)⟩ := by
  obtain ⟨-, -, hbehind⟩ := Text.Cut.around rfl h
  have hnone : Text.offset? '\x7d' (String.ofList after) = none :=
    Text.offset?_of_notMem (by simpa using hafter)
  rw [round?, Text.offset?_of_cut h htext, Option.map_some]
  dsimp only
  rw [hbehind, hnone]

/-- The round of a text whose first placeholder is closed. -/
theorem round?_closed (h : rest.toList = text ++ '\x7b' :: after) (htext : '\x7b' ∉ text)
    (hafter : after = inner ++ '\x7d' :: left) (hinner : '\x7d' ∉ inner) :
    round? token rest =
      some ⟨[⟨rest, String.utf8Len text⟩, ⟨rest, String.utf8Len text + 1⟩,
          ⟨String.ofList after, String.utf8Len inner⟩,
          ⟨String.ofList after, String.utf8Len inner + 1⟩],
        do
          let p ← parsePlaceholder inner
          return (literalOf text ++ [p], String.ofList left)⟩ := by
  have hbehind : (String.ofList after).toList = inner ++ '\x7d' :: left := by
    rw [String.toList_ofList, hafter]
  obtain ⟨-, htextcut, haftercut⟩ := Text.Cut.around rfl h
  obtain ⟨-, hinnercut, hleftcut⟩ := Text.Cut.around rfl hbehind
  rw [round?, Text.offset?_of_cut h htext, Option.map_some]
  dsimp only
  rw [haftercut, Text.offset?_of_cut hbehind hinner]
  dsimp only
  rw [htextcut, hinnercut, hleftcut, String.toList_ofList, String.toList_ofList]

/-- A round that meets no closing brace has found the fault of the text. -/
theorem round_advances_unclosed (h : rest.toList = text ++ '\x7b' :: after) (htext : '\x7b' ∉ text)
    (hafter : '\x7d' ∉ after) :
    ∃ r, round? token rest = some r ∧ r.Advances token rest := by
  refine ⟨_, round?_unclosed h htext hafter, (Text.Cut.around rfl h).1, ?_, nofun⟩
  rintro e ⟨⟩
  rw [h, parseSegments_unclosed htext hafter, String.ofList_toList]

/-- A round that meets both braces reads what stands between them. -/
theorem round_advances_closed (h : rest.toList = text ++ '\x7b' :: (inner ++ '\x7d' :: left))
    (htext : '\x7b' ∉ text) (hinner : '\x7d' ∉ inner) :
    ∃ r, round? token rest = some r ∧ r.Advances token rest := by
  have hbehind : (String.ofList (inner ++ '\x7d' :: left)).toList = inner ++ '\x7d' :: left :=
    String.toList_ofList
  have hcuts := List.forall_mem_append.mpr
    ⟨(Text.Cut.around rfl h).1, (Text.Cut.around rfl hbehind).1⟩
  refine ⟨_, round?_closed h htext rfl hinner, hcuts, ?_, ?_⟩
  · intro e he
    obtain hp | ⟨p, -, hok⟩ := bind_eq_error_iff.mp he
    · rw [h, parseSegments_placeholder htext hinner, hp]
      rfl
    · exact absurd hok nofun
  · intro segments behind hgoes
    obtain ⟨p, hp, hok⟩ := bind_eq_ok_iff.mp hgoes
    obtain ⟨rfl, rfl⟩ := Prod.mk.inj (Except.ok.inj hok)
    rw [h, parseSegments_placeholder htext hinner, hp, String.toList_ofList]
    constructor
    · cases parseSegments token.toList left with
      | error e => rfl
      | ok more => exact congrArg Except.ok (List.append_cons _ p more)
    · have hcount : ('\x7d' :: left).count '\x7b' = left.count '\x7b' :=
        List.count_cons_of_ne (by decide)
      simp only [List.count_append, List.count_cons_self, hcount]
      omega

/-- **What a round does**: there is one as long as there is an opening brace. -/
theorem round_advances (token : String) (h : '\x7b' ∈ rest.toList) :
    ∃ r, round? token rest = some r ∧ r.Advances token rest := by
  obtain hnone | ⟨text, after, htext, hrest⟩ := notMem_or_cut '\x7b' rest.toList
  · exact absurd h hnone
  obtain hafter | ⟨inner, left, hinner, rfl⟩ := notMem_or_cut '\x7d' after
  · exact round_advances_unclosed hrest htext hafter
  · exact round_advances_closed hrest htext hinner

end Rounds

/-! ### All rounds -/

/-- The rounds that a text takes, and what they come to: the segments that they read and the text
behind the last closing brace, or the fault of the last round. -/
inductive Run (token : String) : String → List Round → Except TemplateError (List Segment) → Prop
  /-- No opening brace is left. -/
  | ends {rest : String} :
      round? token rest = none → Run token rest [] (.ok (literalOf rest.toList))
  /-- A round finds a fault. -/
  | fails {rest : String} {r : Round} {e : TemplateError} :
      round? token rest = some r → r.outcome = .error e → Run token rest [r] (.error e)
  /-- A round leaves a text to the next. -/
  | goes {rest left : String} {r : Round} {rounds : List Round} {segments : List Segment}
      {result : Except TemplateError (List Segment)} :
      round? token rest = some r → r.outcome = .ok (segments, left) →
      Run token left rounds result → Run token rest (r :: rounds) (result.map (segments ++ ·))

section Runs

variable {token rest : String} {rounds rounds' : List Round}
  {result result' : Except TemplateError (List Segment)}

/-- The rounds of a text and their result are determined. -/
theorem Run.unique (h : Run token rest rounds result) (h' : Run token rest rounds' result') :
    rounds = rounds' ∧ result = result' := by
  induction h generalizing rounds' result' with
  | ends hnone =>
      cases h' with
      | ends _ => exact ⟨rfl, rfl⟩
      | fails hsome _ => cases hnone.symm.trans hsome
      | goes hsome _ _ => cases hnone.symm.trans hsome
  | fails hsome herror =>
      cases h' with
      | ends hnone => cases hnone.symm.trans hsome
      | fails hsome' herror' =>
          cases hsome.symm.trans hsome'
          cases herror.symm.trans herror'
          exact ⟨rfl, rfl⟩
      | goes hsome' hok _ =>
          cases hsome.symm.trans hsome'
          cases herror.symm.trans hok
  | goes hsome hok _ ih =>
      cases h' with
      | ends hnone => cases hnone.symm.trans hsome
      | fails hsome' herror =>
          cases hsome.symm.trans hsome'
          cases herror.symm.trans hok
      | goes hsome' hok' hrun =>
          cases hsome.symm.trans hsome'
          cases hok.symm.trans hok'
          obtain ⟨rfl, rfl⟩ := ih hrun
          exact ⟨rfl, rfl⟩

/-- **The rounds of a text** come to its segments or its first fault. There are no more of them than
opening braces, and no cut of theirs goes through a character. -/
theorem exists_run (token rest : String) :
    ∃ rounds, Run token rest rounds (parseSegments token.toList rest.toList) ∧
      rounds.length ≤ rest.toList.count '\x7b' ∧
      ∀ r ∈ rounds, ∀ cut ∈ r.cuts, cut.OnBoundary := by
  -- Each round uses up an opening brace.
  induction hk : rest.toList.count '\x7b' using Nat.strong_induction_on generalizing rest with
  | _ k ih =>
      subst hk
      by_cases hbrace : '\x7b' ∈ rest.toList
      · obtain ⟨r, hr, hadvances⟩ := round_advances token hbrace
        have hpos := List.count_pos_iff.mpr hbrace
        cases houtcome : r.outcome with
        | error e =>
            rw [hadvances.fails e houtcome]
            exact ⟨[r], .fails hr houtcome, hpos, by simpa using hadvances.cuts⟩
        | ok next =>
            obtain ⟨segments, left⟩ := next
            obtain ⟨hparse, hlt⟩ := hadvances.goes segments left houtcome
            obtain ⟨rounds, hrun, hlength, hcuts⟩ := ih _ hlt left rfl
            rw [hparse]
            refine ⟨r :: rounds, .goes hr houtcome hrun, ?_, ?_⟩
            · rw [List.length_cons]
              omega
            · exact List.forall_mem_cons.mpr ⟨hadvances.cuts, hcuts⟩
      · rw [parseSegments_text hbrace]
        exact ⟨[], .ends (round?_of_notMem hbrace), Nat.zero_le _, by simp⟩

end Runs

end Token

/-- **Reading a token loses nothing and ends.** A token without blanks is read as the separated
segments that spell it, whenever there are such segments. Any token whatever is read in rounds, and
in one way: what they come to is the answer, there are no more of them than opening braces, and no
cut of theirs goes through a character. -/
theorem token_lossless (token : String) :
    ((∀ c ∈ token.toList, Text.isBlank c = false) → ∀ t,
        (Token.parse token.toList = .ok t ↔
          t.raw = token.toList ∧ t.segments.flatMap Segment.spelled = token.toList ∧
            Token.Separated t.segments)) ∧
      (∃ rounds result, Token.Run token token rounds result) ∧
      ∀ rounds result, Token.Run token token rounds result →
        Token.parse token.toList = result.map (Token.mk token.toList) ∧
          rounds.length ≤ token.toList.count '\x7b' ∧
          ∀ r ∈ rounds, ∀ cut ∈ r.cuts, cut.OnBoundary := by
  obtain ⟨rounds, hrun, hlength, hcuts⟩ := Token.exists_run token token
  refine ⟨fun hblank t => ?_, ⟨rounds, _, hrun⟩, fun rounds' result hrun' => ?_⟩
  · rw [Token.parse_eq_ok_iff hblank, Token.spells_iff_separated]
  · obtain ⟨rfl, rfl⟩ := hrun.unique hrun'
    refine ⟨?_, hlength, hcuts⟩
    rw [Token.parse]
    cases parseSegments token.toList token.toList <;> rfl

/-- A token with characters of two and of three bytes, and with an opening brace in a default. -/
def Token.accented : Token where
  raw := "é\x7bmincyclo=ß\x7b1\x7d→\x7btests=-t\x7d".toList
  segments := [.literal ['é'], .placeholder .mincyclo (some "ß\x7b1".toList), .literal ['→'],
    .placeholder .tests (some "-t".toList)]

/-- No round looks for the opening brace in the default: the token has three of them. -/
theorem token_lossless_accented :
    (∀ c ∈ Token.accented.raw, Text.isBlank c = false) ∧
      Token.parse Token.accented.raw = .ok .accented ∧
      Token.accented.segments.flatMap Segment.spelled = Token.accented.raw ∧
      Token.Separated Token.accented.segments ∧
      ∃ rounds, Token.Run (String.ofList Token.accented.raw) (String.ofList Token.accented.raw)
          rounds (.ok Token.accented.segments) ∧
        rounds.length ≤ 3 ∧ ∀ r ∈ rounds, ∀ cut ∈ r.cuts, cut.OnBoundary := by
  have hblank : ∀ c ∈ Token.accented.raw, Text.isBlank c = false := by
    have hnone : Token.accented.raw.any Text.isBlank = false := by decide +kernel
    simpa [List.any_eq_false] using hnone
  have hparse : Token.parse Token.accented.raw = .ok .accented := by decide +kernel
  obtain ⟨hread, ⟨rounds, result, hrun⟩, hruns⟩ :=
    token_lossless (String.ofList Token.accented.raw)
  obtain ⟨hanswer, hlength, hcuts⟩ := hruns rounds result hrun
  rw [String.toList_ofList] at hread hanswer hlength
  obtain ⟨-, hspelled, hseparated⟩ := (hread hblank _).mp hparse
  refine ⟨hblank, hparse, hspelled, hseparated, rounds, ?_, hlength, hcuts⟩
  cases result with
  | error e => exact absurd (hparse.symm.trans hanswer) nofun
  | ok segments =>
      cases hparse.symm.trans hanswer
      exact hrun

end LintVerdict
