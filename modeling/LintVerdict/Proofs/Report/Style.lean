import LintVerdict.Proofs.Decimal
import LintVerdict.Proofs.Text.Split
import LintVerdict.Report.Format

/-!
# Colours only add style sequences

The coloured form of a finding is put together from its parts, and so is the plain form. The file
says that the two agree: without its style sequences, a coloured report is the plain one.

## Main definitions

* `Style.unstyle`: a text without its style sequences.
* `Style.Unstyles`: a text that is another one with style sequences added.
* `Report.texts`: the texts that a report holds.

## Main results

* `Style.unstyles_paint`: a text in a style is the text.
* `Finding.unstyles_styled`: the coloured form of a finding is the plain one.
* `unstyle_report`: a coloured report is the plain one.
-/

namespace LintVerdict

namespace Style

/-- A character among the parameters of a style sequence. -/
def isParameter (c : Char) : Bool := Decimal.isDigit c || c = ';'

/-- What stands behind the style sequence that a text begins with: the escape character, a bracket,
the parameters, and an `m`. -/
def behind? : List Char → Option (List Char)
  | '\x1b' :: '[' :: cs =>
    match cs.dropWhile isParameter with
    | 'm' :: rest => some rest
    | _ => none
  | _ => none

theorem length_lt_of_behind? {cs rest : List Char} (h : behind? cs = some rest) :
    rest.length < cs.length := by
  unfold behind? at h
  split at h
  · next cs =>
    split at h
    · next rest' hdrop =>
      have hlength := (List.dropWhile_sublist (l := cs) isParameter).length_le
      rw [hdrop, Option.some.inj h] at hlength
      simp only [List.length_cons] at hlength ⊢
      omega
    · exact absurd h nofun
  · exact absurd h nofun

/-- The characters without the style sequences among them. -/
def unstyleChars (cs : List Char) : List Char :=
  match _hbehind : behind? cs with
  | some rest => unstyleChars rest
  | none =>
    match cs with
    | [] => []
    | c :: cs => c :: unstyleChars cs
  termination_by cs.length
  decreasing_by
  · exact length_lt_of_behind? ‹_›
  · exact Nat.lt_succ_self _

/-- A text without its style sequences. -/
def unstyle (text : String) : String := String.ofList (unstyleChars text.toList)

/-- A styled text that is a plain one with style sequences added, whatever stands behind it. -/
def Unstyles (styled plain : List Char) : Prop :=
  ∀ rest, unstyleChars (styled ++ rest) = plain ++ unstyleChars rest

variable {styled styled' plain plain' text : List Char} {c : Char}

/-! ### Single sequences and characters -/

theorem unstyleChars_of_behind? {cs rest : List Char} (h : behind? cs = some rest) :
    unstyleChars cs = unstyleChars rest := by
  rw [unstyleChars]
  split
  · next h' => rw [Option.some.inj (h.symm.trans h')]
  · next h' => exact absurd (h.symm.trans h') nofun

theorem unstyleChars_nil : unstyleChars [] = [] := by
  rw [unstyleChars]
  rfl

theorem unstyleChars_cons (h : c ≠ escape) (cs : List Char) :
    unstyleChars (c :: cs) = c :: unstyleChars cs := by
  have hnone : behind? (c :: cs) = none := by
    unfold behind?
    split
    · next heq => exact absurd (List.cons.inj heq).1 h
    · rfl
  rw [unstyleChars]
  split
  · next h' => exact absurd (hnone.symm.trans h') nofun
  · rfl

theorem unstyles_start (s : Style) : Unstyles s.start [] := by
  intro rest
  refine unstyleChars_of_behind? ?_
  cases s <;> rfl

theorem unstyles_reset : Unstyles reset [] :=
  fun _ => unstyleChars_of_behind? rfl

/-! ### Texts -/

theorem Unstyles.append (h : Unstyles styled plain) (h' : Unstyles styled' plain') :
    Unstyles (styled ++ styled') (plain ++ plain') := by
  intro rest
  rw [List.append_assoc, h, h', List.append_assoc]

theorem Unstyles.unstyle_eq {styled plain : String} (h : Unstyles styled.toList plain.toList) :
    unstyle styled = plain := by
  have hnil := h []
  rw [List.append_nil, unstyleChars_nil, List.append_nil] at hnil
  rw [unstyle, hnil, String.ofList_toList]

/-- A text without escape characters has no style sequence. -/
theorem unstyles_of_notMem (h : escape ∉ text) : Unstyles text text := by
  intro rest
  induction text with
  | nil => rfl
  | cons c text ih =>
      rw [List.mem_cons, not_or] at h
      rw [List.cons_append, unstyleChars_cons (Ne.symm h.1), ih h.2, List.cons_append]

theorem afterResets_of_notMem (h : escape ∉ text) (extra : List Char) :
    afterResets extra text = text := by
  induction text with
  | nil => rfl
  | cons c text ih =>
      rw [List.mem_cons, not_or] at h
      rw [afterResets, ih h.2]
      rintro rest rfl
      exact absurd rfl h.1

/-- **A text in a style** is the text with style sequences added. -/
theorem unstyles_paint (s : Style) {text : String} (h : escape ∉ text.toList) :
    Unstyles (s.paint text).toList text.toList := by
  rw [paint, String.toList_ofList, afterResets_of_notMem h]
  have hpaint := ((unstyles_start s).append (unstyles_of_notMem h)).append unstyles_reset
  rwa [List.nil_append, List.append_nil] at hpaint

theorem notMem_toString (n : Nat) : escape ∉ (toString n).toList := by
  intro h
  exact absurd (Decimal.isDigit_of_mem_toString h) (by decide)

/-! ### Parts that are glued together -/

section Parts

variable {α : Type} {xs : List α} {sep : String}

theorem unstyles_joinWith {f g : α → String} (hsep : escape ∉ sep.toList)
    (h : ∀ x ∈ xs, Unstyles (f x).toList (g x).toList) :
    Unstyles (Text.joinWith sep (xs.map f)).toList (Text.joinWith sep (xs.map g)).toList := by
  rw [Text.joinWith, Text.joinWith, String.toList_intercalate, String.toList_intercalate]
  induction xs with
  | nil => exact fun _ => rfl
  | cons x xs ih =>
      rw [List.forall_mem_cons] at h
      cases xs with
      | nil => simpa using h.1
      | cons y xs =>
          have hrest := (unstyles_of_notMem hsep).append (ih h.2)
          have hall := h.1.append hrest
          simpa [List.intercalate_cons_cons] using hall

theorem notMem_joinWith {f : α → String} (hsep : escape ∉ sep.toList)
    (h : ∀ x ∈ xs, escape ∉ (f x).toList) :
    escape ∉ (Text.joinWith sep (xs.map f)).toList := by
  rw [Text.joinWith, String.toList_intercalate]
  induction xs with
  | nil => exact List.not_mem_nil
  | cons x xs ih =>
      rw [List.forall_mem_cons] at h
      cases xs with
      | nil => simpa using h.1
      | cons y xs =>
          have hrest := ih h.2
          simp_all [List.intercalate_cons_cons]

end Parts

end Style

open Style

/-! ### Findings -/

namespace Finding

/-- The texts that a finding holds. -/
def texts (f : Finding) : List String := [f.linter, f.path, f.message]

/-- **The coloured form of a finding** is the plain one with style sequences added, whether it has
a line and a column or not. -/
theorem unstyles_styled (f : Finding) (h : ∀ text ∈ f.texts, escape ∉ text.toList) :
    Unstyles f.styled.toList f.display.toList := by
  simp only [texts, List.forall_mem_cons] at h
  obtain ⟨hlinter, hpath, hmessage, -⟩ := h
  have hplace := unstyles_paint .path hpath
  have hnumber : ∀ n : Nat, Unstyles (Style.number.paint (toString n)).toList (toString n).toList :=
    fun n => unstyles_paint .number (notMem_toString n)
  have hcolon : Unstyles ":".toList ":".toList := unstyles_of_notMem (by decide)
  have hlocation : ∀ {place location : String}, Unstyles place.toList location.toList →
      Unstyles (place ++ ": " ++ f.message ++ " " ++
        Style.linter.paint ("(" ++ f.linter ++ ")")).toList
        (location ++ ": " ++ f.message ++ " (" ++ f.linter ++ ")").toList := by
    intro place location h
    have hby : Unstyles (Style.linter.paint ("(" ++ f.linter ++ ")")).toList
        ("(" ++ f.linter ++ ")").toList :=
      unstyles_paint .linter (by simpa [escape] using hlinter)
    have hsep : Unstyles ": ".toList ": ".toList := unstyles_of_notMem (by decide)
    have hspace : Unstyles " ".toList " ".toList := unstyles_of_notMem (by decide)
    have hall := (((h.append hsep).append (unstyles_of_notMem hmessage)).append hspace).append hby
    simpa using hall
  rw [styled, display, location]
  refine hlocation ?_
  cases f.line with
  | none => exact hplace
  | some l =>
      cases f.column with
      | none =>
          simp only [String.toList_append]
          exact (hplace.append hcolon).append (hnumber l)
      | some c =>
          simp only [String.toList_append]
          exact (((hplace.append hcolon).append (hnumber l)).append hcolon).append (hnumber c)

end Finding

/-! ### Reports -/

namespace Report

/-- The texts that a report holds. -/
def texts (r : Report) : List String :=
  r.findings.flatMap Finding.texts ++ r.failed.flatMap fun x => [x.scope, x.linter]

theorem notMem_summary {r : Report} (h : ∀ text ∈ r.texts, escape ∉ text.toList) :
    escape ∉ r.summary.toList := by
  have hfailed : escape ∉ (Text.joinWith ", "
      (r.failed.map fun f => f.linter ++ " on " ++ f.scope)).toList := by
    refine notMem_joinWith (by decide) fun x hx => ?_
    have hx : ∀ text ∈ [x.scope, x.linter], escape ∉ text.toList := fun text htext =>
      h text (List.mem_append_right _ (List.mem_flatMap.mpr ⟨x, hx, htext⟩))
    simp_all [escape]
  have hchecked := notMem_toString r.checked
  have hfindings := notMem_toString r.findings.length
  rw [summary]
  split
  · simp_all [escape]
  · simp_all [escape]

end Report

/-- A coloured report has a style sequence if there is a finding. -/
theorem Formatter.escape_mem_report_iff (r : Report) :
    escape ∈ ((⟨.text, true⟩ : Formatter).report r).toList ↔ r.findings ≠ [] := by
  rw [Formatter.report, Text.joinWith, String.toList_intercalate]
  cases r.findings with
  | nil => simp
  | cons f findings =>
      have hstyled : escape ∈ f.styled.toList := by
        simp [Finding.styled, paint, start]
      cases findings with
      | nil => simp [hstyled]
      | cons g findings => simp [hstyled, List.intercalate_cons_cons]

/-- **Coloured and plain text agree.** If no text in a report holds an escape character, then the
coloured report without its style sequences is the plain one, and so is the summary. Style
sequences do occur in it if there is a finding. -/
theorem unstyle_report (r : Report) (h : ∀ text ∈ r.texts, escape ∉ text.toList) :
    unstyle ((⟨.text, true⟩ : Formatter).report r) = (⟨.text, false⟩ : Formatter).report r ∧
      ((⟨.text, true⟩ : Formatter).summary? r).map unstyle =
        (⟨.text, false⟩ : Formatter).summary? r ∧
      (escape ∈ ((⟨.text, true⟩ : Formatter).report r).toList ↔ r.findings ≠ []) := by
  refine ⟨?_, ?_, Formatter.escape_mem_report_iff r⟩
  · have hfindings : ∀ f ∈ r.findings, Unstyles f.styled.toList f.display.toList := by
      intro f hf
      refine f.unstyles_styled fun text htext => h text ?_
      exact List.mem_append_left _ (List.mem_flatMap.mpr ⟨f, hf, htext⟩)
    exact (unstyles_joinWith (by decide) hfindings).unstyle_eq
  · exact congrArg some (unstyles_paint _ (Report.notMem_summary h)).unstyle_eq

/-- A report with a finding in a line, one of a whole file that has a column all the same, and an
empty text. -/
theorem unstyle_report_mixed :
    let r : Report :=
      ⟨.failed, [⟨"vet", "a.go", some 3, some 7, "m"⟩, ⟨"gofmt", "", none, some 4, "[0m"⟩],
        [⟨".", "vet", some 1⟩, ⟨"", "gofmt", none⟩], 2⟩
    (∀ text ∈ r.texts, escape ∉ text.toList) ∧
      unstyle ((⟨.text, true⟩ : Formatter).report r) = "a.go:3:7: m (vet)\n: [0m (gofmt)" := by
  intro r
  have h : ∀ text ∈ r.texts, escape ∉ text.toList := by decide
  have hplain : (⟨.text, false⟩ : Formatter).report r = "a.go:3:7: m (vet)\n: [0m (gofmt)" := by
    decide
  exact ⟨h, (unstyle_report r h).1.trans hplain⟩

end LintVerdict
