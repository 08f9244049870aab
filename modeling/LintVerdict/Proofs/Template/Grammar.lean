import Mathlib.Data.List.TakeDrop
import LintVerdict.Proofs.FirstError
import LintVerdict.Proofs.Text
import LintVerdict.Template

/-!
# The grammar of command templates

How a template is written, said without the reader: what may stand between braces, how a token
is put together of texts and placeholders, and which fault of a template comes first. The reader
accepts exactly the templates without a fault, and tells the first fault of all others.

## Main definitions

* `Placeholder.Spells`, `Placeholder.Fault`: what stands between braces, right and wrong.
* `Token.Spells`, `Token.FirstFault`: a token in its segments, and the first fault of a token.
* `CommandTemplate.Spells`, `CommandTemplate.FirstFault`: the same for a template.

## Main results

* `Token.spells_or_fault`: a token has segments or a fault.
* `parse_firstFault`: what the reader answers.
-/

namespace LintVerdict

/-- What stands between braces: a name, and behind an equals sign a default. The name ends at
the first equals sign. -/
inductive Declares : List Char → List Char → Option (List Char) → Prop
  | bare {name : List Char} : '=' ∉ name → Declares name name none
  | withDefault {name default : List Char} :
      '=' ∉ name → Declares (name ++ '=' :: default) name (some default)

/-- A placeholder between its braces. A flag declares a text that is not empty. -/
inductive Placeholder.Spells : List Char → Segment → Prop
  | mk {inner : List Char} {p : Placeholder} {default : Option (List Char)} :
      Declares inner p.name.toList default →
      (p = .tests → ∃ text, default = some text ∧ text ≠ []) →
      Spells inner (.placeholder p default)

/-- A fault between braces. -/
inductive Placeholder.Fault : List Char → TemplateError → Prop
  /-- The name is none of the known ones. -/
  | unknown {inner name : List Char} {default : Option (List Char)} :
      Declares inner name default → String.ofList name ∉ all.map Placeholder.name →
      Fault inner (.unknownPlaceholder (String.ofList name))
  /-- A flag declares no text. -/
  | withoutText {inner : List Char} {default : Option (List Char)} :
      Declares inner tests.name.toList default → (∀ text, default = some text → text = []) →
      Fault inner (.flagWithoutText tests.name)

/-- A token, or the rest of one, in its segments: texts without an opening brace, and between
them what stands between an opening brace and the next closing one. -/
inductive Token.Spells : List Char → List Segment → Prop
  | text {text : List Char} : '\x7b' ∉ text → Spells text (literalOf text)
  | placeholder {text inner rest : List Char} {p : Segment} {more : List Segment} :
      '\x7b' ∉ text → '\x7d' ∉ inner → Placeholder.Spells inner p → Spells rest more →
      Spells (text ++ '\x7b' :: (inner ++ '\x7d' :: rest)) (literalOf text ++ p :: more)

/-- The first fault of a token, or of the rest of one: everything before it is without one. -/
inductive Token.FirstFault (token : List Char) : List Char → TemplateError → Prop
  /-- No closing brace follows an opening one. -/
  | unclosed {text rest : List Char} : '\x7b' ∉ text → '\x7d' ∉ rest →
      FirstFault token (text ++ '\x7b' :: rest) (.unclosed (String.ofList token))
  /-- The first placeholder is faulty. -/
  | placeholder {text inner rest : List Char} {e : TemplateError} :
      '\x7b' ∉ text → '\x7d' ∉ inner → Placeholder.Fault inner e →
      FirstFault token (text ++ '\x7b' :: (inner ++ '\x7d' :: rest)) e
  /-- The fault comes behind a placeholder without one. -/
  | later {text inner rest : List Char} {p : Segment} {e : TemplateError} :
      '\x7b' ∉ text → '\x7d' ∉ inner → Placeholder.Spells inner p → FirstFault token rest e →
      FirstFault token (text ++ '\x7b' :: (inner ++ '\x7d' :: rest)) e

/-- A template written as these tokens: the program as it stands, without an opening brace, and
an argument for each further token. -/
structure CommandTemplate.Spells (tokens : List (List Char)) (t : CommandTemplate) : Prop where
  /-- Program and arguments stand as they are written. -/
  tokens_eq : tokens = t.program.toList :: t.args.map Token.raw
  /-- The program holds no placeholder. -/
  program : '\x7b' ∉ t.program.toList
  /-- Every argument falls into its segments. -/
  args : ∀ a ∈ t.args, Token.Spells a.raw a.segments

/-- The first fault of a template written as these tokens. -/
inductive CommandTemplate.FirstFault : List (List Char) → TemplateError → Prop
  /-- There is no token. -/
  | empty : FirstFault [] .empty
  /-- The program's token is faulty. -/
  | program {program : List Char} {args : List (List Char)} {e : TemplateError} :
      Token.FirstFault program program e → FirstFault (program :: args) e
  /-- The program's token has no other fault than that it holds a placeholder. -/
  | placeholderProgram {program : List Char} {args : List (List Char)} {ss : List Segment} :
      Token.Spells program ss → '\x7b' ∈ program →
      FirstFault (program :: args) (.placeholderProgram (String.ofList program))
  /-- An argument is faulty, and all before it is not. -/
  | argument {program arg : List Char} {front back : List (List Char)} {e : TemplateError} :
      '\x7b' ∉ program → (∀ a ∈ front, ∃ ss, Token.Spells a ss) → Token.FirstFault arg arg e →
      FirstFault (program :: (front ++ arg :: back)) e

/-! ### Between braces -/

section Declares

variable {inner name : List Char} {default : Option (List Char)}

theorem splitDefault_of_declares (h : Declares inner name default) :
    splitDefault inner = (name, default) := by
  cases h with
  | bare hname =>
      rw [splitDefault, List.span_eq_takeWhile_dropWhile, takeWhile_ne_self hname,
        dropWhile_ne_self hname]
  | withDefault hname =>
      rw [splitDefault, List.span_eq_takeWhile_dropWhile, takeWhile_ne_append hname,
        dropWhile_ne_append hname]

/-- Between braces there is always a name. -/
theorem exists_declares (inner : List Char) : ∃ name default, Declares inner name default := by
  obtain hname | ⟨name, rest, hname, rfl⟩ := notMem_or_cut '=' inner
  · exact ⟨inner, none, .bare hname⟩
  · exact ⟨name, some rest, .withDefault hname⟩

theorem subset_of_declares (h : Declares inner name default) : name ⊆ inner := by
  cases h with
  | bare _ => exact List.Subset.refl _
  | withDefault _ => exact List.subset_append_left _ _

end Declares

namespace Placeholder

theorem ofName?_eq_some_iff {s : String} {p : Placeholder} :
    ofName? s = some p ↔ p.name = s := by
  constructor
  · intro h
    simpa using List.find?_some h
  · rintro rfl
    cases p <;> rfl

theorem ofName?_eq_none_iff {s : String} : ofName? s = none ↔ s ∉ all.map name := by
  simp [ofName?, List.find?_eq_none]

theorem isFlag_iff {p : Placeholder} : p.isFlag = true ↔ p = tests := by
  cases p <;> simp [isFlag]

variable {inner : List Char} {p : Segment} {e : TemplateError}

/-- A text between braces without blanks is read by its name. -/
theorem parsePlaceholder_of_declares {name : List Char} {default : Option (List Char)}
    (hblank : ∀ c ∈ inner, Text.isBlank c = false) (h : Declares inner name default) :
    parsePlaceholder inner =
      match ofName? (String.ofList name) with
      | none => .error (.unknownPlaceholder (String.ofList name))
      | some p =>
        if p.isFlag && default.all List.isEmpty then .error (.flagWithoutText (String.ofList name))
        else .ok (.placeholder p default) := by
  have htrim : Text.trimChars name = name :=
    Text.trimChars_of_no_blank fun c hc => hblank c (subset_of_declares h hc)
  rw [parsePlaceholder, splitDefault_of_declares h]
  dsimp only
  rewrite [htrim]
  rfl

theorem parsePlaceholder_of_spells (hblank : ∀ c ∈ inner, Text.isBlank c = false)
    (h : Spells inner p) : parsePlaceholder inner = .ok p := by
  cases h with
  | @mk p default hdecl htext =>
      have hname : ofName? (String.ofList p.name.toList) = some p :=
        ofName?_eq_some_iff.mpr String.ofList_toList.symm
      rw [parsePlaceholder_of_declares hblank hdecl, hname]
      refine if_neg fun hflag => ?_
      rw [Bool.and_eq_true, isFlag_iff] at hflag
      obtain ⟨text, rfl, hne⟩ := htext hflag.1
      exact hne (by simpa using hflag.2)

theorem parsePlaceholder_of_fault (hblank : ∀ c ∈ inner, Text.isBlank c = false)
    (h : Fault inner e) : parsePlaceholder inner = .error e := by
  cases h with
  | unknown hdecl hname =>
      rw [parsePlaceholder_of_declares hblank hdecl, ofName?_eq_none_iff.mpr hname]
  | @withoutText default hdecl htext =>
      have hname : ofName? (String.ofList tests.name.toList) = some tests := rfl
      have hempty : default.all List.isEmpty = true := by
        cases default with
        | none => rfl
        | some text => rw [htext text rfl]; rfl
      rw [parsePlaceholder_of_declares hblank hdecl, hname]
      exact if_pos hempty

/-- What stands between braces is a placeholder or has a fault. -/
theorem spells_or_fault (inner : List Char) :
    (∃ p, Spells inner p) ∨ ∃ e, Fault inner e := by
  obtain ⟨name, default, hdecl⟩ := exists_declares inner
  cases hp : ofName? (String.ofList name) with
  | none => exact Or.inr ⟨_, .unknown hdecl (ofName?_eq_none_iff.mp hp)⟩
  | some p =>
      obtain rfl : p.name.toList = name := by
        rw [ofName?_eq_some_iff.mp hp, String.toList_ofList]
      by_cases htext : p = tests → ∃ text, default = some text ∧ text ≠ []
      · exact Or.inl ⟨_, .mk hdecl htext⟩
      · obtain ⟨rfl, hnone⟩ := Classical.not_imp.mp htext
        refine Or.inr ⟨_, .withoutText hdecl fun text hd => ?_⟩
        by_contra hne
        exact hnone ⟨text, hd, hne⟩

end Placeholder

/-! ### Tokens -/

section Segments

variable {raw text inner rest : List Char}

theorem parseSegments_text (h : '\x7b' ∉ text) :
    parseSegments raw text = .ok (literalOf text) := by
  rw [parseSegments]
  split
  · rfl
  · next hopen =>
    rw [dropWhile_ne_self h] at hopen
    exact absurd hopen.symm (List.cons_ne_nil _ _)

theorem parseSegments_unclosed (h : '\x7b' ∉ text) (hrest : '\x7d' ∉ rest) :
    parseSegments raw (text ++ '\x7b' :: rest) = .error (.unclosed (String.ofList raw)) := by
  rw [parseSegments]
  split
  · next hopen =>
    rw [dropWhile_ne_append h] at hopen
    exact absurd hopen (List.cons_ne_nil _ _)
  · next after hopen =>
    rw [dropWhile_ne_append h] at hopen
    obtain rfl := (List.cons.inj hopen).2
    split
    · rfl
    · next hclose =>
      rw [dropWhile_ne_self hrest] at hclose
      exact absurd hclose.symm (List.cons_ne_nil _ _)

theorem parseSegments_placeholder (h : '\x7b' ∉ text) (hinner : '\x7d' ∉ inner) :
    parseSegments raw (text ++ '\x7b' :: (inner ++ '\x7d' :: rest)) =
      (do
        let p ← parsePlaceholder inner
        let more ← parseSegments raw rest
        return literalOf text ++ p :: more) := by
  rw [parseSegments]
  split
  · next hopen =>
    rw [dropWhile_ne_append h] at hopen
    exact absurd hopen (List.cons_ne_nil _ _)
  · next after hopen =>
    rw [dropWhile_ne_append h] at hopen
    obtain rfl := (List.cons.inj hopen).2
    split
    · next hclose =>
      rw [dropWhile_ne_append hinner] at hclose
      exact absurd hclose (List.cons_ne_nil _ _)
    · next behind hclose =>
      rw [dropWhile_ne_append hinner] at hclose
      obtain rfl := (List.cons.inj hclose).2
      rw [takeWhile_ne_append h, takeWhile_ne_append hinner]

end Segments

namespace Token

variable {raw cs : List Char} {ss : List Segment} {e : TemplateError}

/-- A token is read in its segments. -/
theorem parseSegments_of_spells (hblank : ∀ c ∈ cs, Text.isBlank c = false)
    (h : Spells cs ss) : parseSegments raw cs = .ok ss := by
  induction h with
  | text htext => exact parseSegments_text htext
  | placeholder htext hinner hp _ ih =>
      simp only [List.forall_mem_append, List.forall_mem_cons] at hblank
      obtain ⟨-, -, hblank, -, hrest⟩ := hblank
      rw [parseSegments_placeholder htext hinner,
        Placeholder.parsePlaceholder_of_spells hblank hp, ih hrest]
      rfl

/-- A token with a fault is answered with the first one. -/
theorem parseSegments_of_firstFault (hblank : ∀ c ∈ cs, Text.isBlank c = false)
    (h : FirstFault raw cs e) : parseSegments raw cs = .error e := by
  induction h with
  | unclosed htext hrest => exact parseSegments_unclosed htext hrest
  | placeholder htext hinner hp =>
      simp only [List.forall_mem_append, List.forall_mem_cons] at hblank
      rw [parseSegments_placeholder htext hinner,
        Placeholder.parsePlaceholder_of_fault hblank.2.2.1 hp]
      rfl
  | later htext hinner hp _ ih =>
      simp only [List.forall_mem_append, List.forall_mem_cons] at hblank
      obtain ⟨-, -, hblank, -, hrest⟩ := hblank
      rw [parseSegments_placeholder htext hinner,
        Placeholder.parsePlaceholder_of_spells hblank hp, ih hrest]
      rfl

/-- **A token has segments or a fault.** -/
theorem spells_or_fault (raw cs : List Char) :
    (∃ ss, Spells cs ss) ∨ ∃ e, FirstFault raw cs e := by
  induction hk : cs.length using Nat.strong_induction_on generalizing cs with
  | _ k ih =>
      obtain htext | ⟨text, after, htext, rfl⟩ := notMem_or_cut '\x7b' cs
      · exact Or.inl ⟨_, .text htext⟩
      obtain hafter | ⟨inner, rest, hinner, rfl⟩ := notMem_or_cut '\x7d' after
      · exact Or.inr ⟨_, .unclosed htext hafter⟩
      obtain ⟨p, hp⟩ | ⟨e, he⟩ := Placeholder.spells_or_fault inner
      · have hlt : rest.length < k := by
          simp only [List.length_append, List.length_cons] at hk
          omega
        obtain ⟨ss, hss⟩ | ⟨e, he⟩ := ih rest.length hlt rest rfl
        · exact Or.inl ⟨_, .placeholder htext hinner hp hss⟩
        · exact Or.inr ⟨e, .later htext hinner hp he⟩
      · exact Or.inr ⟨e, .placeholder htext hinner he⟩

/-- A token holds a placeholder exactly if it holds an opening brace. -/
theorem isLiteral_iff (h : Spells cs ss) : ss.all Segment.isLiteral = true ↔ '\x7b' ∉ cs := by
  have hliteral : ∀ text, (literalOf text).all Segment.isLiteral = true := by
    intro text
    rw [literalOf]
    split <;> rfl
  cases h with
  | text htext => exact iff_of_true (hliteral cs) htext
  | placeholder _ _ hp _ =>
      refine iff_of_false ?_ (by simp)
      cases hp
      simp [Segment.isLiteral]

theorem parse_of_spells (hblank : ∀ c ∈ cs, Text.isBlank c = false) (h : Spells cs ss) :
    parse cs = .ok ⟨cs, ss⟩ := by
  rw [parse, parseSegments_of_spells hblank h]
  rfl

theorem parse_of_firstFault (hblank : ∀ c ∈ cs, Text.isBlank c = false)
    (h : FirstFault cs cs e) : parse cs = .error e := by
  rw [parse, parseSegments_of_firstFault hblank h]
  rfl

end Token

/-! ### Templates -/

namespace CommandTemplate

variable {template : String} {tokens : List (List Char)} {t : CommandTemplate}
  {e : TemplateError}

/-- A template is read when its program's token holds no placeholder. -/
theorem parse_of_program {program : List Char} {args : List (List Char)}
    (hwords : Text.wordChars template.toList = program :: args) (hbrace : '\x7b' ∉ program) :
    parse template = (args.mapM Token.parse).map fun ts => ⟨String.ofList program, ts⟩ := by
  have hmem : program ∈ Text.wordChars template.toList := by
    rw [hwords]
    exact List.mem_cons_self
  have hspells : Token.Spells program (literalOf program) := .text hbrace
  have htoken : Token.parse program = .ok ⟨program, literalOf program⟩ :=
    Token.parse_of_spells (Text.no_blank_of_mem_wordChars hmem) hspells
  have hliteral : Token.isLiteral ⟨program, literalOf program⟩ = true :=
    (Token.isLiteral_iff hspells).mpr hbrace
  rw [parse, hwords]
  simp only [htoken, bind, Except.bind, hliteral, if_true, pure, Except.pure]
  cases args.mapM Token.parse <;> rfl

/-- A template without a fault is read as it is written. -/
theorem parse_of_spells (hwords : Text.wordChars template.toList = tokens)
    (h : Spells tokens t) : parse template = .ok t := by
  obtain ⟨program, args⟩ := t
  obtain ⟨rfl, hbrace, hargs⟩ := h
  have hparse : (args.map Token.raw).mapM Token.parse = .ok args := by
    rw [mapM_eq_ok_iff, List.forall₂_map_left_iff, List.forall₂_same]
    intro a ha
    have hmem : a.raw ∈ Text.wordChars template.toList := by
      rw [hwords]
      exact List.mem_cons_of_mem _ (List.mem_map_of_mem ha)
    exact Token.parse_of_spells (Text.no_blank_of_mem_wordChars hmem) (hargs a ha)
  rw [parse_of_program hwords hbrace, hparse, Except.map, String.ofList_toList]

/-- A template with a fault is answered with the first one. -/
theorem parse_of_firstFault (hwords : Text.wordChars template.toList = tokens)
    (h : FirstFault tokens e) : parse template = .error e := by
  have hblank : ∀ w ∈ tokens, ∀ c ∈ w, Text.isBlank c = false :=
    fun w hw => Text.no_blank_of_mem_wordChars (hwords ▸ hw)
  cases h with
  | empty => rw [parse, hwords]
  | program hfault =>
      rw [parse, hwords]
      dsimp only
      rw [Token.parse_of_firstFault (hblank _ List.mem_cons_self) hfault]
      rfl
  | @placeholderProgram program args ss hspells hbrace =>
      have hliteral : Token.isLiteral ⟨program, ss⟩ = false := by
        rw [Bool.eq_false_iff]
        exact mt (Token.isLiteral_iff hspells).mp (not_not_intro hbrace)
      rw [parse, hwords]
      dsimp only
      rw [Token.parse_of_spells (hblank _ List.mem_cons_self) hspells]
      simp [bind, Except.bind, hliteral]
  | @argument program arg front back e hbrace hfront hfault =>
      have hparse : (front ++ arg :: back).mapM Token.parse = .error e := by
        rw [mapM_eq_error_iff]
        refine ⟨front, arg, back, rfl, fun a ha => ?_, ?_⟩
        · obtain ⟨ss, hss⟩ := hfront a ha
          exact ⟨⟨a, ss⟩, Token.parse_of_spells (hblank a (by simp [ha])) hss⟩
        · exact Token.parse_of_firstFault (hblank arg (by simp)) hfault
      rw [parse_of_program hwords hbrace, hparse]
      rfl

/-- Arguments are all without a fault, or there is a first one that is not. -/
theorem args_spell_or_fault (args : List (List Char)) :
    (∃ ts : List Token, args = ts.map Token.raw ∧ ∀ a ∈ ts, Token.Spells a.raw a.segments) ∨
      ∃ front arg back e, args = front ++ arg :: back ∧
        (∀ a ∈ front, ∃ ss, Token.Spells a ss) ∧ Token.FirstFault arg arg e := by
  induction args with
  | nil => exact Or.inl ⟨[], rfl, by simp⟩
  | cons a args ih =>
      obtain ⟨ss, hss⟩ | ⟨e, he⟩ := Token.spells_or_fault a a
      · obtain ⟨ts, rfl, hts⟩ | ⟨front, arg, back, e, rfl, hfront, he⟩ := ih
        · exact Or.inl ⟨⟨a, ss⟩ :: ts, rfl, List.forall_mem_cons.mpr ⟨hss, hts⟩⟩
        · exact Or.inr ⟨a :: front, arg, back, e, rfl,
            List.forall_mem_cons.mpr ⟨⟨ss, hss⟩, hfront⟩, he⟩
      · exact Or.inr ⟨[], a, args, e, rfl, by simp, he⟩

/-- **A template is right or has a first fault.** -/
theorem spells_or_fault (tokens : List (List Char)) :
    (∃ t, Spells tokens t) ∨ ∃ e, FirstFault tokens e := by
  cases tokens with
  | nil => exact Or.inr ⟨.empty, .empty⟩
  | cons program args =>
      obtain ⟨ss, hss⟩ | ⟨e, he⟩ := Token.spells_or_fault program program
      · by_cases hbrace : '\x7b' ∈ program
        · exact Or.inr ⟨_, .placeholderProgram hss hbrace⟩
        obtain ⟨ts, rfl, hts⟩ | ⟨front, arg, back, e, rfl, hfront, he⟩ := args_spell_or_fault args
        · exact Or.inl ⟨⟨String.ofList program, ts⟩, by simp, by simpa using hbrace, hts⟩
        · exact Or.inr ⟨e, .argument hbrace hfront he⟩
      · exact Or.inr ⟨e, .program he⟩

/-- An accepted template is written as it is read. -/
theorem spells_of_parse (h : parse template = .ok t) :
    Spells (Text.wordChars template.toList) t := by
  obtain ⟨t', ht⟩ | ⟨e, he⟩ := spells_or_fault (Text.wordChars template.toList)
  · rw [parse_of_spells rfl ht] at h
    exact Except.ok.inj h ▸ ht
  · rw [parse_of_firstFault rfl he] at h
    exact absurd h nofun

end CommandTemplate

/-- **The reader accepts the templates without a fault and tells the first fault of the others.**
An accepted template has its first token as the program, and each further token as an argument
in its segments. -/
theorem parse_firstFault (template : String) :
    ∃ tokens, Text.Worded template.toList tokens ∧
      (∀ e, CommandTemplate.parse template = .error e ↔ CommandTemplate.FirstFault tokens e) ∧
      (∀ t, CommandTemplate.parse template = .ok t ↔ CommandTemplate.Spells tokens t) ∧
      ((∃ t, CommandTemplate.parse template = .ok t) ↔
        ∀ e, ¬ CommandTemplate.FirstFault tokens e) := by
  have hok : ∀ t, CommandTemplate.Spells (Text.wordChars template.toList) t →
      CommandTemplate.parse template = .ok t := fun t => CommandTemplate.parse_of_spells rfl
  have herror : ∀ e, CommandTemplate.FirstFault (Text.wordChars template.toList) e →
      CommandTemplate.parse template = .error e := fun e => CommandTemplate.parse_of_firstFault rfl
  refine ⟨_, Text.worded_wordChars template.toList, ?_⟩
  obtain ⟨t, ht⟩ | ⟨e, he⟩ :=
    CommandTemplate.spells_or_fault (Text.wordChars template.toList)
  · have hparse := hok t ht
    have hnone : ∀ e, ¬ CommandTemplate.FirstFault (Text.wordChars template.toList) e := by
      intro e he
      rw [herror e he] at hparse
      exact absurd hparse nofun
    refine ⟨fun e => iff_of_false ?_ (hnone e), fun t' => ⟨fun h => ?_, hok t'⟩,
      iff_of_true ⟨t, hparse⟩ hnone⟩
    · rw [hparse]
      nofun
    · rw [hparse] at h
      exact Except.ok.inj h ▸ ht
  · have hparse := herror e he
    refine ⟨fun e' => ⟨fun h => ?_, herror e'⟩, fun t => ⟨fun h => ?_, hok t⟩,
      iff_of_false ?_ fun hnone => hnone e he⟩
    · rw [hparse] at h
      exact Except.error.inj h ▸ he
    · rw [hparse] at h
      exact absurd h nofun
    · rintro ⟨t, h⟩
      rw [hparse] at h
      exact absurd h nofun

end LintVerdict
