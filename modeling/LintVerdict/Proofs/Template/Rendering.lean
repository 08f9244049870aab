import LintVerdict.Proofs.Decimal.Written
import LintVerdict.Proofs.Template.Grammar

/-!
# What a template renders to

Under given options a segment contributes a text, is a flag that is off, or is a placeholder that
lacks a value. The first segment of a token that contributes no text decides about the token: a
flag that is off drops it, and a missing value ends the rendering. The file says this without the
function that renders, and shows that the function does it.

## Main definitions

* `Segment.Contributes`: what a segment contributes, one rule for each kind of segment and option.
* `Token.ComesTo`: what the segments of a token come to.
* `CommandTemplate.Renders`, `CommandTemplate.Fails`: the arguments of a template, and the first
  placeholder that lacks a value.

## Main results

* `Token.render_of_comesTo`: a token is rendered to what its segments come to.
* `Token.exists_comesTo`: the segments of an accepted token come to something.
* `render_exact`: what an accepted template renders to, and the command that is built from it.
-/

namespace LintVerdict

/-! ### The rules -/

namespace Options

/-- The value of an option that is a whole number. -/
def number? (o : Options) : Placeholder → Option Nat
  | .threshold => o.threshold
  | .minOccurrences => o.minOccurrences
  | .mincyclo => o.mincyclo
  | .maxLineLength => o.maxLineLength
  | .minConfidence => none
  | .tests => none

/-- Whether an option is set, to whatever value. -/
def Sets (o : Options) : Placeholder → Prop
  | .minConfidence => o.minConfidence ≠ none
  | .tests => o.tests ≠ none
  | p => o.number? p ≠ none

end Options

/-- What a segment, or a whole token, comes to. -/
inductive Contribution where
  /-- A text. -/
  | text (cs : List Char)
  /-- A flag that is off. -/
  | off
  /-- A placeholder of this name lacks a value. -/
  | missing (name : String)

/-- What a segment contributes under the options. -/
inductive Segment.Contributes (o : Options) : Segment → Contribution → Prop
  /-- A text stands for itself. -/
  | literal {text : List Char} : Contributes o (.literal text) (.text text)
  /-- A whole number is written in decimal. -/
  | number {p : Placeholder} {n : Nat} {default : Option (List Char)} :
      o.number? p = some n → Contributes o (.placeholder p default) (.text (toString n).toList)
  /-- The confidence is written with the shortest digits that round to it. -/
  | confidence {x : Float} {text : String} {default : Option (List Char)} :
      o.minConfidence = some x → Decimal.WrittenShortest x text →
      Contributes o (.placeholder .minConfidence default) (.text text.toList)
  /-- A flag that is on has its declared text. -/
  | on {text : List Char} :
      o.tests = some true → Contributes o (.placeholder .tests (some text)) (.text text)
  /-- A flag that is off has none. -/
  | off {default : Option (List Char)} :
      o.tests = some false → Contributes o (.placeholder .tests default) .off
  /-- An option that is not set has the declared default. -/
  | default {p : Placeholder} {text : List Char} :
      ¬ o.Sets p → Contributes o (.placeholder p (some text)) (.text text)
  /-- Without a default its value is missing. -/
  | missing {p : Placeholder} :
      ¬ o.Sets p → Contributes o (.placeholder p none) (.missing p.name)

/-- What the segments of a token come to: all their texts one after the other, or what the first
segment without a text says. -/
inductive Token.ComesTo (o : Options) : List Segment → Contribution → Prop
  | text {ss : List Segment} {texts : List (List Char)} :
      List.Forall₂ (fun s cs => s.Contributes o (.text cs)) ss texts →
      ComesTo o ss (.text texts.flatten)
  | off {front back : List Segment} {texts : List (List Char)} {s : Segment} :
      List.Forall₂ (fun s cs => s.Contributes o (.text cs)) front texts →
      s.Contributes o .off → ComesTo o (front ++ s :: back) .off
  | missing {front back : List Segment} {texts : List (List Char)} {s : Segment} {name : String} :
      List.Forall₂ (fun s cs => s.Contributes o (.text cs)) front texts →
      s.Contributes o (.missing name) → ComesTo o (front ++ s :: back) (.missing name)

namespace Contribution

/-- The argument that a token gives: its text, unless that is empty. -/
def argument? : Contribution → Option String
  | text [] => none
  | text cs => some (String.ofList cs)
  | off => none
  | missing _ => none

/-- Whether a value is missing. -/
def Lacks : Contribution → Prop
  | missing _ => True
  | _ => False

/-- The answer about a token. -/
def answer (linter : String) : Contribution → Except TemplateError (Option String)
  | missing name => .error (.missing linter name)
  | c => .ok c.argument?

end Contribution

namespace CommandTemplate

/-- The arguments of a template: those of its tokens in their order, when none lacks a value. -/
def Renders (t : CommandTemplate) (o : Options) (args : List String) : Prop :=
  ∃ cs, List.Forall₂ (fun a c => Token.ComesTo o a.segments c ∧ ¬ c.Lacks) t.args cs ∧
    args = cs.filterMap Contribution.argument?

/-- The first placeholder of a template that lacks a value: no token before its own lacks one. -/
def Fails (t : CommandTemplate) (o : Options) (name : String) : Prop :=
  ∃ front a back, t.args = front ++ a :: back ∧
    (∀ b ∈ front, ∃ c, Token.ComesTo o b.segments c ∧ ¬ c.Lacks) ∧
    Token.ComesTo o a.segments (.missing name)

end CommandTemplate

/-! ### Segments -/

section Segments

variable {o : Options} {linter : String} {s : Segment} {ss front back : List Segment}
  {texts : List (List Char)} {out cs : List Char} {name : String} {p : Placeholder}
  {default : Option (List Char)}

/-- What the options say about a whole number. -/
theorem Options.value?_of_number? {n : Nat} (h : o.number? p = some n) :
    o.value? p = some (.text (toString n)) := by
  cases p <;> simp_all [number?, value?]

theorem Options.value?_of_minConfidence {x : Float} (h : o.minConfidence = some x) :
    o.value? .minConfidence = some (.text (Decimal.floatText x)) := by
  simp [value?, h]

theorem Options.value?_of_tests {on : Bool} (h : o.tests = some on) :
    o.value? .tests = some (.flag on) := by
  simp [value?, h]

/-- The options say nothing about an option that is not set. -/
theorem Options.value?_eq_none_iff : o.value? p = none ↔ ¬ o.Sets p := by
  cases p <;> simp [value?, Sets, number?]

/-- A placeholder with a text as its value shows this text, whatever its default is. -/
theorem renderSegments_value {v : String} (h : o.value? p = some (.text v)) :
    renderSegments linter o (.placeholder p default :: back) out =
      renderSegments linter o back (out ++ v.toList) := by
  rw [renderSegments.eq_def]
  dsimp only
  rw [h]

theorem renderSegments_text (h : s.Contributes o (.text cs)) :
    renderSegments linter o (s :: back) out = renderSegments linter o back (out ++ cs) := by
  cases h with
  | literal => rw [renderSegments]
  | number h => exact renderSegments_value (Options.value?_of_number? h)
  | confidence h hwritten =>
      rw [← Decimal.floatText_eq_iff.mpr hwritten]
      exact renderSegments_value (Options.value?_of_minConfidence h)
  | on h =>
      rw [renderSegments, Options.value?_of_tests h]
      rfl
  | default h => rw [renderSegments, Options.value?_eq_none_iff.mpr h]

theorem renderSegments_off (h : s.Contributes o .off) :
    renderSegments linter o (s :: back) out = .ok none := by
  cases h with
  | off h =>
      rw [renderSegments.eq_def]
      dsimp only
      rw [Options.value?_of_tests h]

theorem renderSegments_missing (h : s.Contributes o (.missing name)) :
    renderSegments linter o (s :: back) out = .error (.missing linter name) := by
  cases h with
  | missing h => rw [renderSegments, Options.value?_eq_none_iff.mpr h]

/-- **Segments with a text are rendered one after the other**, whatever follows them. -/
theorem renderSegments_append
    (h : List.Forall₂ (fun s cs => s.Contributes o (.text cs)) front texts) :
    renderSegments linter o (front ++ back) out =
      renderSegments linter o back (out ++ texts.flatten) := by
  induction h generalizing out with
  | nil => simp
  | @cons s cs front texts hs _ ih =>
      rw [List.cons_append, renderSegments_text hs, ih, List.flatten_cons, List.append_assoc]

/-- A segment as it is read contributes something: a flag that is on has a declared text. -/
theorem Segment.exists_contributes
    (h : ∀ default, s = .placeholder .tests default → ∃ text, default = some text) :
    ∃ c, s.Contributes o c := by
  cases s with
  | literal text => exact ⟨_, .literal⟩
  | placeholder p default =>
      by_cases hset : o.Sets p
      · cases p with
        | minConfidence =>
            obtain ⟨x, hx⟩ := Option.ne_none_iff_exists'.mp hset
            exact ⟨_, .confidence hx (Decimal.floatText_eq_iff.mp rfl)⟩
        | tests =>
            obtain ⟨text, rfl⟩ := h default rfl
            obtain ⟨on, hon⟩ := Option.ne_none_iff_exists'.mp hset
            cases on with
            | true => exact ⟨_, .on hon⟩
            | false => exact ⟨_, .off hon⟩
        | _ =>
            obtain ⟨n, hn⟩ := Option.ne_none_iff_exists'.mp hset
            exact ⟨_, .number hn⟩
      · cases default with
        | none => exact ⟨_, .missing hset⟩
        | some text => exact ⟨_, .default hset⟩

end Segments

/-! ### Tokens -/

namespace Token

variable {o : Options} {linter : String} {raw : List Char} {ss : List Segment} {c : Contribution}

/-- **A token is rendered to what its segments come to.** -/
theorem render_of_comesTo (h : ComesTo o ss c) : render ⟨raw, ss⟩ linter o = c.answer linter := by
  rw [render]
  cases h with
  | @text ss texts htexts =>
      have hshown : renderSegments linter o ss [] = .ok (some texts.flatten) := by
        rw [← List.append_nil ss, renderSegments_append htexts, renderSegments, List.nil_append]
      rw [hshown]
      cases texts.flatten <;> rfl
  | off htexts hoff =>
      rw [renderSegments_append htexts, renderSegments_off hoff]
      rfl
  | missing htexts hmissing =>
      rw [renderSegments_append htexts, renderSegments_missing hmissing]
      rfl

/-- **The segments of an accepted token come to something.** -/
theorem exists_comesTo (h : ∀ s ∈ ss, ∃ c, s.Contributes o c) : ∃ c, ComesTo o ss c := by
  suffices hsplit : (∃ texts, List.Forall₂ (fun s cs => s.Contributes o (.text cs)) ss texts) ∨
      ∃ front s back texts, ss = front ++ s :: back ∧
        List.Forall₂ (fun s cs => s.Contributes o (.text cs)) front texts ∧
        (s.Contributes o .off ∨ ∃ name, s.Contributes o (.missing name)) by
    obtain ⟨texts, htexts⟩ | ⟨front, s, back, texts, rfl, htexts, hoff | ⟨name, hmissing⟩⟩ := hsplit
    · exact ⟨_, .text htexts⟩
    · exact ⟨_, .off htexts hoff⟩
    · exact ⟨_, .missing htexts hmissing⟩
  induction ss with
  | nil => exact Or.inl ⟨[], .nil⟩
  | cons s ss ih =>
      obtain ⟨⟨c, hc⟩, hss⟩ := List.forall_mem_cons.mp h
      cases c with
      | off => exact Or.inr ⟨[], s, ss, [], rfl, .nil, Or.inl hc⟩
      | missing name => exact Or.inr ⟨[], s, ss, [], rfl, .nil, Or.inr ⟨name, hc⟩⟩
      | text cs =>
          obtain ⟨texts, htexts⟩ | ⟨front, s', back, texts, rfl, htexts, hs'⟩ := ih hss
          · exact Or.inl ⟨cs :: texts, .cons hc htexts⟩
          · exact Or.inr ⟨s :: front, s', back, cs :: texts, rfl, .cons hc htexts, hs'⟩

/-- Every flag of an accepted token declares a text. -/
theorem Spells.flag_text {cs : List Char} (h : Spells cs ss) :
    ∀ s ∈ ss, ∀ default, s = .placeholder .tests default → ∃ text, default = some text := by
  have hliteral : ∀ text : List Char, ∀ s ∈ literalOf text, ∀ default,
      s = .placeholder .tests default → ∃ text, default = some text := by
    rintro text s hs default rfl
    rw [literalOf] at hs
    split at hs <;> simp at hs
  induction h with
  | text _ => exact hliteral _
  | placeholder _ _ hp _ ih =>
      intro s hs
      obtain hs | hs := List.mem_append.mp hs
      · exact hliteral _ s hs
      obtain rfl | hs := List.mem_cons.mp hs
      · cases hp with
        | mk _ htext =>
            rintro default ⟨⟩
            obtain ⟨text, rfl, -⟩ := htext rfl
            exact ⟨text, rfl⟩
      · exact ih s hs

end Token

namespace Contribution

variable {linter : String} {c : Contribution} {out : Option String} {e : TemplateError}

theorem answer_eq_ok_iff : c.answer linter = .ok out ↔ ¬ c.Lacks ∧ c.argument? = out := by
  cases c <;> simp [answer, Lacks]

theorem answer_eq_error_iff :
    c.answer linter = .error e ↔ ∃ name, c = .missing name ∧ e = .missing linter name := by
  cases c <;> simp [answer, eq_comm]

end Contribution

/-! ### Templates -/

section Templates

variable {o : Options} {linter : String} {a : Token} {t : CommandTemplate}

/-- A token whose segments come to something gives an argument or none, unless a value is
missing. -/
theorem Token.render_eq_ok_iff (h : ∃ c, ComesTo o a.segments c) {out : Option String} :
    a.render linter o = .ok out ↔
      ∃ c, (ComesTo o a.segments c ∧ ¬ c.Lacks) ∧ c.argument? = out := by
  constructor
  · intro hout
    obtain ⟨c, hc⟩ := h
    obtain ⟨hlacks, hargument⟩ :=
      Contribution.answer_eq_ok_iff.mp ((render_of_comesTo hc).symm.trans hout)
    exact ⟨c, ⟨hc, hlacks⟩, hargument⟩
  · rintro ⟨c, ⟨hc, hlacks⟩, hargument⟩
    exact (render_of_comesTo hc).trans (Contribution.answer_eq_ok_iff.mpr ⟨hlacks, hargument⟩)

/-- Its rendering fails exactly if a value is missing. -/
theorem Token.render_eq_error_iff (h : ∃ c, ComesTo o a.segments c) {e : TemplateError} :
    a.render linter o = .error e ↔
      ∃ name, ComesTo o a.segments (.missing name) ∧ e = .missing linter name := by
  constructor
  · intro he
    obtain ⟨c, hc⟩ := h
    obtain ⟨name, rfl, rfl⟩ :=
      Contribution.answer_eq_error_iff.mp ((render_of_comesTo hc).symm.trans he)
    exact ⟨name, hc, rfl⟩
  · rintro ⟨name, hname, rfl⟩
    exact render_of_comesTo hname

namespace CommandTemplate

/-- The tokens of an accepted template come to something. -/
theorem exists_comesTo {template : String} (h : parse template = .ok t) (o : Options) :
    ∀ a ∈ t.args, ∃ c, Token.ComesTo o a.segments c := by
  intro a ha
  refine Token.exists_comesTo fun s hs => Segment.exists_contributes ?_
  exact ((spells_of_parse h).args a ha).flag_text s hs

/-- **The arguments of a template** are those of its tokens. -/
theorem render_eq_ok_iff (h : ∀ a ∈ t.args, ∃ c, Token.ComesTo o a.segments c)
    {args : List String} : t.render linter o = .ok args ↔ t.Renders o args := by
  have houts : ∀ outs, t.args.mapM (fun a => a.render linter o) = .ok outs ↔
      ∃ cs, List.Forall₂ (fun a c => Token.ComesTo o a.segments c ∧ ¬ c.Lacks) t.args cs ∧
        cs.map Contribution.argument? = outs := by
    intro outs
    rw [mapM_eq_ok_iff, forall₂_congr_of_mem fun a ha _ => Token.render_eq_ok_iff (h a ha),
      forall₂_exists_map_iff]
  rw [render, Renders, bind_eq_ok_iff]
  constructor
  · rintro ⟨outs, hmapM, hargs⟩
    obtain ⟨cs, hcs, rfl⟩ := (houts outs).mp hmapM
    refine ⟨cs, hcs, ?_⟩
    rw [← Except.ok.inj hargs, List.filterMap_map, Function.id_comp]
  · rintro ⟨cs, hcs, rfl⟩
    refine ⟨_, (houts _).mpr ⟨cs, hcs, rfl⟩, ?_⟩
    rw [List.filterMap_map, Function.id_comp]
    rfl

/-- **The error of a template** is the first missing value. -/
theorem render_eq_error_iff (h : ∀ a ∈ t.args, ∃ c, Token.ComesTo o a.segments c)
    {e : TemplateError} :
    t.render linter o = .error e ↔ ∃ name, t.Fails o name ∧ e = .missing linter name := by
  have hfront : ∀ b ∈ t.args, (∃ out, b.render linter o = .ok out) ↔
      ∃ c, Token.ComesTo o b.segments c ∧ ¬ c.Lacks := by
    intro b hb
    simp only [Token.render_eq_ok_iff (h b hb)]
    exact ⟨fun ⟨_, c, hc, _⟩ => ⟨c, hc⟩, fun ⟨c, hc⟩ => ⟨_, c, hc, rfl⟩⟩
  have hmapM : t.render linter o = .error e ↔
      t.args.mapM (fun a => a.render linter o) = .error e := by
    rw [render, bind_eq_error_iff]
    exact or_iff_left nofun
  rw [hmapM, mapM_eq_error_iff]
  constructor
  · rintro ⟨front, a, back, hsplit, hok, herror⟩
    have hmem : ∀ b ∈ front ++ [a], b ∈ t.args := fun b hb => by
      rw [hsplit, List.append_cons]
      exact List.mem_append_left back hb
    obtain ⟨name, hname, rfl⟩ := (Token.render_eq_error_iff (h a (hmem a (by simp)))).mp herror
    refine ⟨name, ⟨front, a, back, hsplit, fun b hb => ?_, hname⟩, rfl⟩
    exact (hfront b (hmem b (by simp [hb]))).mp (hok b hb)
  · rintro ⟨name, ⟨front, a, back, hsplit, hkept, hname⟩, rfl⟩
    refine ⟨front, a, back, hsplit, fun b hb => ?_, Token.render_of_comesTo hname⟩
    have hmem : b ∈ t.args := hsplit ▸ List.mem_append_left _ hb
    exact (hfront b hmem).mpr (hkept b hb)

end CommandTemplate

end Templates

/-- **What an accepted template renders to.** Its tokens are gone through in their order. The
result is the arguments of the tokens that are kept, unless a placeholder lacks a value: then it is
the error that names the first such placeholder and the linter. The command that is built for a
target is the program, these arguments and the target. -/
theorem render_exact {template : String} {t : CommandTemplate}
    (hparse : CommandTemplate.parse template = .ok t) (linter : String) (o : Options) :
    (∀ args, t.render linter o = .ok args ↔ t.Renders o args) ∧
      (∀ e, t.render linter o = .error e ↔ ∃ name, t.Fails o name ∧ e = .missing linter name) ∧
      ∀ target, (t.build linter target o).map Command.argv =
        (t.render linter o).map fun args => t.program :: (args ++ target) := by
  have hcomes := CommandTemplate.exists_comesTo hparse o
  refine ⟨fun args => CommandTemplate.render_eq_ok_iff hcomes,
    fun e => CommandTemplate.render_eq_error_iff hcomes, fun target => ?_⟩
  rw [CommandTemplate.build]
  cases t.render linter o <;> rfl

/-- A template with a token of a flag and a placeholder without a default, one that comes out empty
by its default, and two that do not. -/
def CommandTemplate.mixedText : String :=
  "lint \x7btests=-t\x7d\x7bmincyclo\x7d \x7bthreshold=\x7d -n\x7bmincyclo=3\x7d " ++
    "-c\x7bmin_confidence\x7d"

/-- The same template as it is read. -/
def CommandTemplate.mixed : CommandTemplate where
  program := "lint"
  args := [
    ⟨"\x7btests=-t\x7d\x7bmincyclo\x7d".toList,
      [.placeholder .tests (some "-t".toList), .placeholder .mincyclo none]⟩,
    ⟨"\x7bthreshold=\x7d".toList, [.placeholder .threshold (some [])]⟩,
    ⟨"-n\x7bmincyclo=3\x7d".toList,
      [.literal "-n".toList, .placeholder .mincyclo (some "3".toList)]⟩,
    ⟨"-c\x7bmin_confidence\x7d".toList,
      [.literal "-c".toList, .placeholder .minConfidence none]⟩]

/-- Options with a flag that is off and a confidence. -/
def Options.confident : Options :=
  { Options.unset with tests := some false, minConfidence := some 0.8 }

/-- The flag that is off drops its token before the missing value is met, the empty token is left
out, and the confidence is written with its one digit. With the flag not set, the missing value ends
the rendering. -/
theorem render_exact_mixed :
    CommandTemplate.parse CommandTemplate.mixedText = .ok .mixed ∧
      CommandTemplate.mixed.Renders .confident ["-n3", "-c0.8"] ∧
      CommandTemplate.mixed.Fails .unset "mincyclo" := by
  have hparse : CommandTemplate.parse CommandTemplate.mixedText = .ok .mixed := by
    decide +kernel
  obtain ⟨name, hfails, hname⟩ := ((render_exact hparse "x" .unset).2.1 _).mp rfl
  obtain ⟨-, rfl⟩ := TemplateError.missing.inj hname
  have hrenders : CommandTemplate.mixed.render "x" .confident = .ok ["-n3", "-c0.8"] := by
    decide +kernel
  exact ⟨hparse, ((render_exact hparse "x" _).1 _).mp hrenders, hfails⟩

end LintVerdict
