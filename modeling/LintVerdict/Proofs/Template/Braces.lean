import LintVerdict.Proofs.Decimal
import LintVerdict.Proofs.Template.Grammar

/-!
# Braces in a built command

A placeholder ends at the next closing brace, so its default holds no closing brace, and a text
between placeholders holds no opening one. An argument still shows a pair of braces when a
default with an opening brace is followed by a text with a closing one, and only then.

## Main definitions

* `Segment.shown`: the text that a segment shows.
* `Token.Exposed`: when an argument shows a pair of braces.

## Main results

* `renderSegments_eq_ok`: a token shows its segments one after another.
* `CommandTemplate.braces_shown_iff`: when a built command shows a pair of braces.
-/

namespace LintVerdict

namespace Segment

/-- The text that a segment shows under the options, a flag that is off none. -/
def shown (options : Options) : Segment → List Char
  | .literal text => text
  | .placeholder p default =>
    match options.value? p with
    | some (.text v) => v.toList
    | some (.flag false) => []
    | some (.flag true) | none => default.getD []

/-- A flag that is off drops its token. -/
def Drops (options : Options) : Segment → Prop
  | .literal _ => False
  | .placeholder p _ => options.value? p = some (.flag false)

/-- A placeholder shows its default, and an opening brace in it. -/
def Opens (options : Options) : Segment → Prop
  | .literal _ => False
  | .placeholder p default =>
    (options.value? p = none ∨ options.value? p = some (.flag true)) ∧
      ∃ text, default = some text ∧ '\x7b' ∈ text

/-- A text holds a closing brace. -/
def Closes : Segment → Prop
  | .literal text => '\x7d' ∈ text
  | .placeholder _ _ => False

/-- The braces that the reader leaves in a segment: no opening one in a text, and no closing one
in a default. -/
def Plain : Segment → Prop
  | .literal text => '\x7b' ∉ text
  | .placeholder _ default => ∀ text, default = some text → '\x7d' ∉ text

end Segment

/-- An argument shows a pair of braces: no flag drops it, and a default with an opening brace is
followed by a text with a closing one. -/
structure Token.Exposed (t : Token) (options : Options) : Prop where
  kept : ∀ s ∈ t.segments, ¬ s.Drops options
  pair : ∃ opening closing, [opening, closing].Sublist t.segments ∧ opening.Opens options ∧
    closing.Closes

/-! ### What the reader leaves -/

theorem Declares.default_subset {inner name text : List Char}
    (h : Declares inner name (some text)) : text ⊆ inner := by
  cases h with
  | withDefault _ => exact fun c hc => List.mem_append_right _ (List.mem_cons_of_mem _ hc)

theorem plain_literalOf {text : List Char} (h : '\x7b' ∉ text) :
    ∀ s ∈ literalOf text, s.Plain := by
  intro s hs
  rw [literalOf] at hs
  split at hs
  · exact absurd hs List.not_mem_nil
  · obtain rfl := List.mem_singleton.mp hs
    exact h

theorem Token.Spells.plain {cs : List Char} {ss : List Segment} (h : Token.Spells cs ss) :
    ∀ s ∈ ss, s.Plain := by
  induction h with
  | text htext => exact plain_literalOf htext
  | placeholder htext hinner hp _ ih =>
      intro s hs
      obtain hs | hs := List.mem_append.mp hs
      · exact plain_literalOf htext s hs
      obtain rfl | hs := List.mem_cons.mp hs
      · cases hp with
        | mk hdecl _ =>
            rintro text rfl hbrace
            exact hinner (hdecl.default_subset hbrace)
      · exact ih s hs

/-! ### What a token shows -/

section Shown

variable {options : Options} {linter : String} {ss : List Segment} {s : Segment}
  {result : Option (List Char)}

/-- A segment drops its token, or shows its text. -/
theorem renderSegments_cons {out : List Char}
    (h : renderSegments linter options (s :: ss) out = .ok result) :
    s.Drops options ∧ result = none ∨
      ¬ s.Drops options ∧
        renderSegments linter options ss (out ++ s.shown options) = .ok result := by
  cases s with
  | literal text => exact Or.inr ⟨id, h⟩
  | placeholder p default =>
      unfold renderSegments at h
      split at h
      · next v hvalue =>
        exact Or.inr ⟨by simp [Segment.Drops, hvalue], by simpa [Segment.shown, hvalue] using h⟩
      · next hvalue =>
        exact Or.inr ⟨by simp [Segment.Drops, hvalue], by simpa [Segment.shown, hvalue] using h⟩
      · next hvalue => exact Or.inl ⟨hvalue, (Except.ok.inj h).symm⟩
      · next hvalue =>
        cases default with
        | none => exact absurd h nofun
        | some text =>
            refine Or.inr ⟨by simp [Segment.Drops, hvalue], ?_⟩
            simpa [Segment.shown, hvalue] using h

/-- **A token shows its segments one after another**, or a flag that is off drops it. -/
theorem renderSegments_eq_ok {out : List Char}
    (h : renderSegments linter options ss out = .ok result) :
    (∃ s ∈ ss, s.Drops options) ∧ result = none ∨
      (∀ s ∈ ss, ¬ s.Drops options) ∧
        result = some (out ++ ss.flatMap (Segment.shown options)) := by
  induction ss generalizing out with
  | nil =>
      obtain rfl := Except.ok.inj h
      exact Or.inr ⟨by simp, by simp⟩
  | cons s ss ih =>
      obtain ⟨hdrop, hnone⟩ | ⟨hkeep, h⟩ := renderSegments_cons h
      · exact Or.inl ⟨⟨s, List.mem_cons_self, hdrop⟩, hnone⟩
      obtain ⟨⟨s', hs', hdrop⟩, hnone⟩ | ⟨hkept, hresult⟩ := ih h
      · exact Or.inl ⟨⟨s', List.mem_cons_of_mem s hs', hdrop⟩, hnone⟩
      · refine Or.inr ⟨List.forall_mem_cons.mpr ⟨hkeep, hkept⟩, ?_⟩
        rw [hresult, List.flatMap_cons, List.append_assoc]

/-- The values of the options hold no braces. -/
theorem brace_notMem_value {p : Placeholder} {v : String} {c : Char}
    (h : options.value? p = some (.text v)) (hc : c ∈ ['\x7b', '\x7d']) : c ∉ v.toList := by
  obtain ⟨hdigit, hword⟩ : Decimal.isDigit c = false ∧ c ∉ ".-infNa".toList := by
    have hbraces : ∀ d ∈ ['\x7b', '\x7d'],
        Decimal.isDigit d = false ∧ d ∉ ".-infNa".toList := by
      simp [Decimal.isDigit]
    exact hbraces c hc
  have hnat : ∀ n : Nat, c ∉ (toString n).toList := fun n hmem =>
    Bool.eq_false_iff.mp hdigit (Decimal.isDigit_of_mem_toString hmem)
  have hfloat : ∀ x : Float, c ∉ (Decimal.floatText x).toList := by
    intro x hmem
    obtain h | h := Decimal.mem_floatText hmem
    · exact Bool.eq_false_iff.mp hdigit h
    · exact hword h
  cases p with
  | minConfidence =>
      obtain ⟨x, -, hx⟩ := Option.map_eq_some_iff.mp h
      cases hx
      exact hfloat x
  | tests =>
      obtain ⟨on, -, hon⟩ := Option.map_eq_some_iff.mp h
      cases hon
  | _ =>
      obtain ⟨n, -, hn⟩ := Option.map_eq_some_iff.mp h
      cases hn
      exact hnat n

theorem openBrace_mem_shown_iff (h : s.Plain) : '\x7b' ∈ s.shown options ↔ s.Opens options := by
  cases s with
  | literal text => exact iff_of_false h id
  | placeholder p default =>
      rw [Segment.shown, Segment.Opens]
      split
      · next v hvalue => simp [hvalue, brace_notMem_value hvalue]
      · next hvalue => simp [hvalue]
      · next hvalue => cases default <;> simp [hvalue]
      · next hvalue => cases default <;> simp [hvalue]

theorem closeBrace_mem_shown_iff (h : s.Plain) : '\x7d' ∈ s.shown options ↔ s.Closes := by
  cases s with
  | literal text => exact Iff.rfl
  | placeholder p default =>
      have hdefault : '\x7d' ∉ default.getD [] := by
        cases default with
        | none => exact List.not_mem_nil
        | some text => exact h text rfl
      refine iff_of_false ?_ id
      rw [Segment.shown]
      split
      · next v hvalue => exact brace_notMem_value hvalue (by decide)
      · exact List.not_mem_nil
      · exact hdefault
      · exact hdefault

end Shown

/-! ### Pairs of elements -/

section Pairs

variable {α β : Type} {f : α → List β} {xs : List α} {a b : β}

theorem pair_sublist_append_iff {ys zs : List β} :
    [a, b].Sublist (ys ++ zs) ↔
      [a, b].Sublist ys ∨ (a ∈ ys ∧ b ∈ zs) ∨ [a, b].Sublist zs := by
  constructor
  · intro h
    obtain ⟨front, back, hsplit, hfront, hback⟩ := List.sublist_append_iff.mp h
    cases front with
    | nil => exact Or.inr (Or.inr (by simpa [hsplit] using hback))
    | cons c front =>
        obtain ⟨rfl, hrest⟩ := List.cons.inj hsplit
        obtain ⟨rfl, rfl⟩ | ⟨rfl, rfl⟩ := List.singleton_eq_append_iff.mp hrest
        · exact Or.inr (Or.inl ⟨by simpa using hfront, by simpa using hback⟩)
        · exact Or.inl hfront
  · rintro (h | ⟨ha, hb⟩ | h)
    · exact h.trans (List.sublist_append_left ys zs)
    · exact List.Sublist.append (List.singleton_sublist.mpr ha) (List.singleton_sublist.mpr hb)
    · exact h.trans (List.sublist_append_right ys zs)

/-- Two elements of joined lists stand in one of the lists, or in two of them in this order. -/
theorem pair_sublist_flatMap_iff :
    [a, b].Sublist (xs.flatMap f) ↔
      (∃ x ∈ xs, [a, b].Sublist (f x)) ∨ ∃ x y, [x, y].Sublist xs ∧ a ∈ f x ∧ b ∈ f y := by
  induction xs with
  | nil => simp
  | cons x xs ih =>
    have hcons : ∀ y z, [y, z].Sublist (x :: xs) ↔ [y, z].Sublist xs ∨ y = x ∧ z ∈ xs := by
      simp [List.sublist_cons_iff]
    simp only [List.flatMap_cons, pair_sublist_append_iff, ih, List.mem_flatMap, hcons,
      List.mem_cons, exists_eq_or_imp]
    grind

end Pairs

/-! ### Arguments -/

/-- A text shows a pair of braces: an opening one and, somewhere behind it, a closing one. -/
def ShowsBraces (cs : List Char) : Prop := ['\x7b', '\x7d'].Sublist cs

section Arguments

variable {options : Options} {linter : String} {a : Token}

/-- One segment alone shows no pair of braces. -/
theorem not_showsBraces_shown {s : Segment} (h : s.Plain) : ¬ ShowsBraces (s.shown options) := by
  intro hpair
  have hopen := (openBrace_mem_shown_iff h).mp (hpair.subset (by simp))
  have hclose := (closeBrace_mem_shown_iff h).mp (hpair.subset (by simp))
  cases s with
  | literal text => exact hopen
  | placeholder p default => exact hclose

/-- The text of kept segments shows a pair of braces when a default opens it and a text behind
closes it. -/
theorem showsBraces_flatMap_iff {ss : List Segment} (h : ∀ s ∈ ss, s.Plain) :
    ShowsBraces (ss.flatMap (Segment.shown options)) ↔
      ∃ opening closing, [opening, closing].Sublist ss ∧ opening.Opens options ∧
        closing.Closes := by
  rw [ShowsBraces, pair_sublist_flatMap_iff]
  constructor
  · rintro (⟨s, hs, hpair⟩ | ⟨x, y, hxy, hopen, hclose⟩)
    · exact absurd hpair (not_showsBraces_shown (h s hs))
    · exact ⟨x, y, hxy, (openBrace_mem_shown_iff (h x (hxy.subset (by simp)))).mp hopen,
        (closeBrace_mem_shown_iff (h y (hxy.subset (by simp)))).mp hclose⟩
  · rintro ⟨x, y, hxy, hopen, hclose⟩
    exact Or.inr ⟨x, y, hxy, (openBrace_mem_shown_iff (h x (hxy.subset (by simp)))).mpr hopen,
      (closeBrace_mem_shown_iff (h y (hxy.subset (by simp)))).mpr hclose⟩

/-- An argument shows a pair of braces exactly if its token is exposed. -/
theorem showsBraces_render_iff {arg : Option String} (h : ∀ s ∈ a.segments, s.Plain)
    (hrender : a.render linter options = .ok arg) :
    (∃ text ∈ arg, ShowsBraces text.toList) ↔ a.Exposed options := by
  rw [Token.render, bind_eq_ok_iff] at hrender
  obtain ⟨result, hresult, harg⟩ := hrender
  obtain ⟨⟨s, hs, hdrop⟩, rfl⟩ | ⟨hkept, rfl⟩ := renderSegments_eq_ok hresult
  · obtain rfl := Except.ok.inj harg
    exact iff_of_false (by simp) fun hexposed => hexposed.kept s hs hdrop
  · have hshown : (∃ text ∈ arg, ShowsBraces text.toList) ↔
        ShowsBraces (a.segments.flatMap (Segment.shown options)) := by
      rw [List.nil_append] at harg
      cases htext : a.segments.flatMap (Segment.shown options) with
      | nil =>
          rw [htext] at harg
          obtain rfl := Except.ok.inj harg
          exact iff_of_false (by simp) (by simp [ShowsBraces])
      | cons c cs =>
          rw [htext] at harg
          obtain rfl := Except.ok.inj harg
          simp
    rw [hshown, showsBraces_flatMap_iff h]
    exact ⟨fun hpair => ⟨hkept, hpair⟩, Token.Exposed.pair⟩

end Arguments

namespace CommandTemplate

/-- A template with a placeholder inside the default of another one, as it is read: the default
ends at the first closing brace. -/
def nested : CommandTemplate where
  program := "lint"
  args := [⟨"\x7bthreshold=\x7bmincyclo=5\x7d\x7d".toList,
    [.placeholder .threshold (some "\x7bmincyclo=5".toList), .literal ['\x7d']]⟩]

theorem parse_nested :
    parse "lint \x7bthreshold=\x7bmincyclo=5\x7d\x7d" = .ok nested := by
  have hdeclares : Declares "threshold=\x7bmincyclo=5".toList Placeholder.threshold.name.toList
      (some "\x7bmincyclo=5".toList) :=
    .withDefault (show '=' ∉ "threshold".toList by decide)
  have hrest : Token.Spells ['\x7d'] [.literal ['\x7d']] := .text (by decide)
  refine parse_of_spells rfl ⟨rfl, by decide, ?_⟩
  simp only [nested, List.forall_mem_singleton]
  exact Token.Spells.placeholder List.not_mem_nil (by decide) (.mk hdeclares nofun) hrest

/-- **When a built command shows a pair of braces**: exactly if the default of a placeholder
holds an opening brace and is shown, and a text behind it in the same argument holds a closing
one. -/
theorem braces_shown_iff {template linter : String} {t : CommandTemplate} {options : Options}
    {args : List String} (hparse : parse template = .ok t)
    (hrender : t.render linter options = .ok args) :
    (∃ arg ∈ args, ShowsBraces arg.toList) ↔ ∃ a ∈ t.args, a.Exposed options := by
  have hplain : ∀ a ∈ t.args, ∀ s ∈ a.segments, s.Plain := fun a ha =>
    ((spells_of_parse hparse).args a ha).plain
  rw [render, bind_eq_ok_iff] at hrender
  obtain ⟨outs, houts, hargs⟩ := hrender
  obtain rfl := Except.ok.inj hargs
  clear hargs
  rw [mapM_eq_ok_iff] at houts
  generalize t.args = tokens at hplain houts
  -- The arguments are those of the tokens that are not dropped, token by token.
  induction houts with
  | nil => simp
  | @cons a out tokens outs hout _ ih =>
      obtain ⟨ha, htokens⟩ := List.forall_mem_cons.mp hplain
      rw [List.exists_mem_cons_iff, ← showsBraces_render_iff ha hout]
      refine Iff.trans ?_ (or_congr_right (ih htokens))
      cases out <;> simp

/-- A value in place of the default leaves the closing brace alone. -/
theorem braces_shown_iff_nested :
    parse "lint \x7bthreshold=\x7bmincyclo=5\x7d\x7d" = .ok nested ∧
      nested.render "x" { Options.unset with threshold := some 7 } = .ok ["7\x7d"] ∧
      ((∃ arg ∈ ["7\x7d"], ShowsBraces arg.toList) ↔
        ∃ a ∈ nested.args, a.Exposed { Options.unset with threshold := some 7 }) := by
  have hrender : nested.render "x" { Options.unset with threshold := some 7 } = .ok ["7\x7d"] :=
    rfl
  exact ⟨parse_nested, hrender, braces_shown_iff parse_nested hrender⟩

/-- A placeholder in a default is neither filled nor refused: the command shows it. -/
theorem nested_braces_shown :
    parse "lint \x7bthreshold=\x7bmincyclo=5\x7d\x7d" = .ok nested ∧
      nested.render "x" Options.unset = .ok ["\x7bmincyclo=5\x7d"] ∧
      ShowsBraces "\x7bmincyclo=5\x7d".toList :=
  ⟨parse_nested, rfl, by rw [ShowsBraces]; decide⟩

end CommandTemplate

end LintVerdict
