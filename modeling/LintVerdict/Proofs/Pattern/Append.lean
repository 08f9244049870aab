import LintVerdict.Proofs.Pattern.Entries

/-!
# Outputs that follow each other

An output that another one follows on a new line is read as before, unless it ends in a
diagnostic without a message. The blanks behind the numbers of such a diagnostic reach over the
line end, and the first line of the second output that is not blank becomes its message.

## Main results

* `entries_append`: the two outputs are read one after the other.
* `entries_swallow`: what becomes of a diagnostic without a message.
* `findings_append_iff`: when the findings of the two outputs follow each other.
-/

namespace LintVerdict

open Pattern (CharSet Match)

variable {s : Shorthand} {a b cs : List Char} {loc : Location}

/-! ### Locations before a line end -/

/-- The location with more behind it. -/
def Location.extend (loc : Location) (more : List Char) : Location :=
  { loc with rest := loc.rest ++ more }

/-- A rest that does not go on with a run does not do so before a line end either. -/
theorem head?_append_feed {p : Char → Bool} {rest : List Char} (hrest : rest.head?.any p = false)
    (hfeed : p '\n' = false) (b : List Char) : (rest ++ '\n' :: b).head?.any p = false := by
  cases rest with
  | nil => exact hfeed
  | cons c rest => exact hrest

theorem numeral?_append_feed (a b : List Char) :
    numeral? (a ++ '\n' :: b) = (numeral? a).map fun n => (n.1, n.2 ++ '\n' :: b) := by
  have hfeed : CharSet.digits.has '\n' = false := has_digits (by decide)
  obtain ⟨ds, rest, rfl, hds, hrest⟩ := exists_run CharSet.digits.has a
  rw [List.append_assoc, numeral?_run hds hrest,
    numeral?_run hds (head?_append_feed hrest hfeed b)]
  cases rest with
  | nil => rw [if_neg (by simp), if_neg (by simp), Option.map_none]
  | cons c rest =>
      rw [List.cons_append, List.head?_cons, List.head?_cons, apply_ite (Option.map _)]
      rfl

theorem numbered?_append (path a b : List Char) :
    s.numbered? path (a ++ '\n' :: b) =
      (s.numbered? path a).map (·.extend ('\n' :: b)) := by
  cases s with
  | lineAndColumn =>
      rw [Shorthand.numbered?, Shorthand.numbered?, numeral?_append_feed]
      cases numeral? a with
      | none => rfl
      | some line =>
          simp only [Option.map_some, Option.bind_eq_bind, Option.bind_some,
            numeral?_append_feed]
          cases numeral? line.2 <;> rfl
  | lineOnly =>
      rw [Shorthand.numbered?, Shorthand.numbered?, numeral?_append_feed]
      cases numeral? a <;> rfl

theorem locate?_append (begun a b : List Char) :
    s.locate? begun (a ++ '\n' :: b) =
      (s.locate? begun a).map (·.extend ('\n' :: b)) := by
  induction a generalizing begun with
  | nil => exact locate?_lineEnd (by decide)
  | cons c a ih =>
      have hfeed : ('\n' :: b).head?.any inLine = false := rfl
      have hend : pathEnd <+: (c :: a) ++ '\n' :: b ↔ pathEnd <+: c :: a :=
        pathEnd_prefix_append hfeed
      rw [List.cons_append] at hend ⊢
      rw [Shorthand.locate?, Shorthand.locate?, Option.map_or]
      congr 1
      · by_cases h : pathEnd <+: c :: a
        · have hlen : 4 ≤ (c :: a).length := h.length_le
          rw [if_pos (hend.mpr h), if_pos h, ← List.cons_append,
            List.drop_append_of_le_length hlen, numbered?_append]
        · rw [if_neg (mt hend.mp h), if_neg h]
          rfl
      · split
        · exact ih (begun ++ [c])
        · rfl

/-- A line end and what follows it do not change what is located before. -/
theorem location?_append (a b : List Char) :
    s.location? (a ++ '\n' :: b) =
      (s.location? a).map (·.extend ('\n' :: b)) :=
  locate?_append [] a b

/-! ### Messages before a line end -/

theorem takeWhile_append_feed (a b : List Char) :
    (a ++ '\n' :: b).takeWhile inLine = a.takeWhile inLine := by
  obtain ⟨run, rest, rfl, hrun, hrest⟩ := exists_run inLine a
  rw [List.append_assoc, takeWhile_run hrun hrest,
    takeWhile_run hrun (head?_append_feed hrest (by decide) b)]

theorem dropWhile_append_feed (a b : List Char) :
    (a ++ '\n' :: b).dropWhile inLine = a.dropWhile inLine ++ '\n' :: b := by
  obtain ⟨run, rest, rfl, hrun, hrest⟩ := exists_run inLine a
  rw [List.append_assoc, dropWhile_run hrun hrest,
    dropWhile_run hrun (head?_append_feed hrest (by decide) b)]

/-- A diagnostic has no message exactly if there are only blanks behind its numbers. -/
theorem message_eq_nil_iff : loc.message = [] ↔ ∀ c ∈ loc.rest, Text.isBlank c = true := by
  have hhead := head?_dropWhile_any Text.isBlank loc.rest
  rw [← List.dropWhile_eq_nil_iff, Location.message]
  cases hd : loc.rest.dropWhile Text.isBlank with
  | nil => exact iff_of_true rfl rfl
  | cons c cs =>
      rw [hd] at hhead
      rw [List.takeWhile_cons_of_pos (inLine_of_not_blank hhead)]
      exact iff_of_false (List.cons_ne_nil _ _) (List.cons_ne_nil _ _)

theorem head?_message (loc : Location) : loc.message.head?.any Text.isBlank = false := by
  have hhead := head?_dropWhile_any Text.isBlank loc.rest
  rw [loc.dropWhile_rest] at hhead
  cases hm : loc.message with
  | nil => rfl
  | cons c cs => rwa [hm] at hhead

/-- A message is not blank. -/
theorem trimChars_message (h : loc.message ≠ []) : Text.trimChars loc.message ≠ [] := by
  have hhead := head?_message loc
  obtain ⟨c, cs, hm⟩ := List.exists_cons_of_ne_nil h
  rw [hm] at hhead ⊢
  rw [Ne, Text.trimChars_eq_nil_iff]
  intro hblank
  exact absurd (hblank c List.mem_cons_self) (by simpa using hhead)

/-- A message ends at the line end that follows. -/
theorem extend_of_message (h : loc.message ≠ []) (b : List Char) :
    (loc.extend ('\n' :: b)).entry = loc.entry ∧
      (loc.extend ('\n' :: b)).behind = loc.behind ++ '\n' :: b := by
  have hdrop : (loc.extend ('\n' :: b)).rest.dropWhile Text.isBlank =
      loc.rest.dropWhile Text.isBlank ++ '\n' :: b := by
    have hne : loc.rest.dropWhile Text.isBlank ≠ [] := fun hnil =>
      h (message_eq_nil_iff.mpr (List.dropWhile_eq_nil_iff.mp hnil))
    rw [Location.extend, List.dropWhile_append, if_neg (by simpa using hne)]
  constructor
  · rw [Location.entry, Location.entry, Location.message, hdrop, takeWhile_append_feed]
    rfl
  · rw [Location.behind, hdrop, dropWhile_append_feed]
    rfl

theorem behind_of_no_message (h : loc.message = []) : loc.behind = [] := by
  rw [Location.behind, List.dropWhile_eq_nil_iff.mpr (message_eq_nil_iff.mp h)]
  rfl

/-- Without a message, the blanks go on over the line end. -/
theorem extend_of_no_message (h : loc.message = []) (b : List Char) :
    (loc.extend ('\n' :: b)).rest.dropWhile Text.isBlank = b.dropWhile Text.isBlank := by
  rw [Location.extend, List.dropWhile_append_of_pos (message_eq_nil_iff.mp h),
    List.dropWhile_cons_of_pos (by decide)]

/-! ### Entries before a line end -/

theorem entries_of_location? (h : s.location? cs = some loc) :
    s.entries cs = loc.entry :: s.entries loc.behind.tail := by
  rw [entries_eq, Shorthand.behind, h]
  rfl

theorem entries_of_no_location (h : s.location? cs = none) :
    s.entries cs = s.entries (cs.dropWhile inLine).tail := by
  rw [entries_eq, Shorthand.behind, h]
  rfl

/-- Blanks hold no entry. -/
theorem entries_of_blank (h : ∀ c ∈ cs, Text.isBlank c = true) : s.entries cs = [] := by
  induction hk : cs.length using Nat.strong_induction_on generalizing cs with
  | _ k ih =>
      have hnone : s.location? cs = none := by
        rw [Option.eq_none_iff_forall_ne_some]
        intro loc hloc
        obtain ⟨hchars, hpath, -⟩ := locate?_eq_some hloc
        have ho : 'o' ∈ cs := by
          rw [List.nil_append] at hchars
          rw [← hchars, Location.chars]
          exact List.mem_append_left _ (hpath.subset (by decide))
        exact absurd (h 'o' ho) (by decide)
      rw [entries_of_no_location hnone]
      cases cs with
      | nil => exact entries_nil s
      | cons c cs =>
          have hsub : ((c :: cs).dropWhile inLine).tail <:+ c :: cs :=
            (List.tail_suffix _).trans (List.dropWhile_suffix inLine)
          have hlen : ((c :: cs).dropWhile inLine).tail.length < k := by
            have hle := List.length_dropWhile_le inLine (c :: cs)
            rw [List.length_tail]
            rw [List.length_cons] at hk hle
            omega
          exact ih _ hlen (fun d hd => h d (hsub.subset hd)) rfl

/-- The entries of an output and those of the same output with another one after it agree up to
a diagnostic without a message. -/
theorem entries_append_induction {P : List Entry → List Entry → Prop} (a b : List Char)
    (done : P [] (s.entries b))
    (bare : ∀ loc : Location, loc.message = [] →
      P [loc.entry] ((loc.extend ('\n' :: b)).entry ::
        s.entries (loc.extend ('\n' :: b)).behind.tail))
    (more : ∀ e es es', e.message ≠ [] → P es es' → P (e :: es) (e :: es')) :
    P (s.entries a) (s.entries (a ++ '\n' :: b)) := by
  induction hk : a.length using Nat.strong_induction_on generalizing a with
  | _ k ih =>
      -- both go on at the line that follows
      have hnext : ∀ rest, rest.length ≤ a.length →
          P (s.entries rest.tail) (s.entries (rest ++ '\n' :: b).tail) := by
        intro rest hle
        cases rest with
        | nil =>
            rw [List.tail_nil, entries_nil]
            exact done
        | cons c rest =>
            rw [List.length_cons] at hle
            exact ih rest.length (by omega) rest rfl
      have happend := location?_append (s := s) a b
      cases hloc : s.location? a with
      | none =>
          rw [hloc, Option.map_none] at happend
          rw [entries_of_no_location hloc, entries_of_no_location happend,
            dropWhile_append_feed]
          exact hnext _ (List.length_dropWhile_le _ _)
      | some loc =>
          rw [hloc, Option.map_some] at happend
          rw [entries_of_location? hloc, entries_of_location? happend]
          by_cases hm : loc.message = []
          · rw [behind_of_no_message hm, List.tail_nil, entries_nil]
            exact bare loc hm
          · obtain ⟨hentry, hbehind⟩ := extend_of_message hm b
            have hle := length_behind_le s a
            rw [Shorthand.behind, hloc] at hle
            rw [hentry, hbehind]
            exact more loc.entry _ _ hm (hnext _ hle)

/-- **Two outputs are read one after the other**, unless the first one ends in a diagnostic
without a message and the second one is not blank. -/
theorem entries_append
    (h : (∃ e ∈ s.entries a, e.message = []) → ∀ c ∈ b, Text.isBlank c = true) :
    s.entries (a ++ '\n' :: b) = s.entries a ++ s.entries b := by
  refine entries_append_induction (s := s)
    (P := fun es es' => ((∃ e ∈ es, e.message = []) → ∀ c ∈ b, Text.isBlank c = true) →
      es' = es ++ s.entries b) a b ?_ ?_ ?_ h
  · intro _
    rfl
  · intro loc hm h
    have hblank := h ⟨loc.entry, List.mem_singleton_self _, hm⟩
    have hdrop : (loc.extend ('\n' :: b)).rest.dropWhile Text.isBlank = [] := by
      rw [extend_of_no_message hm, List.dropWhile_eq_nil_iff.mpr hblank]
    have hentry : (loc.extend ('\n' :: b)).entry = loc.entry := by
      rw [Location.entry, Location.entry, hm, Location.message, hdrop]
      rfl
    rw [hentry, Location.behind, hdrop, entries_of_blank hblank, List.append_nil]
    exact congrArg _ (entries_nil s)
  · intro e es es' _ ih h
    have hes := ih <| by
      rintro ⟨e', he', hm⟩
      exact h ⟨e', List.mem_cons_of_mem e he', hm⟩
    rw [hes, List.cons_append]

/-- **A diagnostic without a message swallows** the first line of the second output that is not
blank: that line becomes its message. -/
theorem entries_swallow (h : ∃ e ∈ s.entries a, e.message = [])
    (hb : ∃ c ∈ b, Text.isBlank c = false) :
    ∃ front back e e', s.entries a = front ++ [e] ∧
      s.entries (a ++ '\n' :: b) = front ++ e' :: back ∧
        e.message = [] ∧ Text.trimChars e'.message ≠ [] := by
  refine entries_append_induction (s := s)
    (P := fun es es' => (∃ e ∈ es, e.message = []) → ∃ front back e e', es = front ++ [e] ∧
      es' = front ++ e' :: back ∧ e.message = [] ∧ Text.trimChars e'.message ≠ [])
    a b ?_ ?_ ?_ h
  · rintro ⟨e, he, -⟩
    exact absurd he List.not_mem_nil
  · intro loc hm _
    have hmessage : (loc.extend ('\n' :: b)).message ≠ [] := by
      obtain ⟨c, hc, hblank⟩ := hb
      rw [Ne, message_eq_nil_iff]
      intro h
      have hmem : c ∈ (loc.extend ('\n' :: b)).rest :=
        List.mem_append_right _ (List.mem_cons_of_mem _ hc)
      exact absurd (h c hmem) (by simp [hblank])
    exact ⟨[], _, loc.entry, _, rfl, rfl, hm, trimChars_message hmessage⟩
  · intro e es es' hne ih h
    obtain ⟨e₁, he₁, hm⟩ := h
    obtain rfl | he₁ := List.mem_cons.mp he₁
    · exact absurd hm hne
    · obtain ⟨front, back, e₂, e', hes, hes', h₂, h'⟩ := ih ⟨e₁, he₁, hm⟩
      exact ⟨e :: front, back, e₂, e', by rw [hes, List.cons_append],
        by rw [hes', List.cons_append], h₂, h'⟩

/-! ### Findings before a line end -/

/-- The entries without a message are those of the matches whose message is empty. -/
theorem exists_no_message_iff (s : Shorthand) (text : Array Char) :
    (∃ m ∈ s.pattern.matchesIn text, s.pattern.groupText? text m "message" = some []) ↔
      ∃ e ∈ s.entries text.toList, e.message = [] := by
  have hmatches := forall₂_matchesIn s text
  generalize s.pattern.matchesIn text = found at hmatches ⊢
  generalize s.entries text.toList = es at hmatches ⊢
  induction hmatches with
  | nil => simp
  | cons h _ ih => simp only [List.exists_mem_cons_iff, h.message, Option.some_inj, ih]

theorem message_finding (e : Entry) (linter : String) (fallback : Option String) :
    (e.finding linter fallback).message =
      if Text.trimChars e.message = [] then OutputPattern.defaultMessage fallback
      else String.ofList (Text.trimChars e.message) := by
  rw [Entry.finding, OutputPattern.nonempty?]
  cases Text.trimChars e.message <;> rfl

/-- **When the findings of two outputs follow each other.** The findings of two outputs that a
line feed separates are those of the first and then those of the second, whatever message a
finding without one gets, exactly if the second output is blank or every match in the first has
a message. -/
theorem findings_append_iff (s : Shorthand) :
    ∃ p, OutputPattern.parse s.name = .ok p ∧ ∀ linter first second : String,
      (∀ fallback, p.findings linter (first ++ "\n" ++ second) fallback =
        p.findings linter first fallback ++ p.findings linter second fallback) ↔
      ((∃ m ∈ p.matchesIn first.toList.toArray,
        p.groupText? first.toList.toArray m "message" = some []) →
          ∀ c ∈ second.toList, Text.isBlank c = true) := by
  refine ⟨s.pattern, s.parse_name, fun linter first second => ?_⟩
  have htext : (first ++ "\n" ++ second).toList = first.toList ++ '\n' :: second.toList := by
    simp
  rw [exists_no_message_iff]
  simp only [findings_eq, htext]
  constructor
  · intro hall hmessage
    by_contra hblank
    have hb : ∃ c ∈ second.toList, Text.isBlank c = false := by
      simpa using hblank
    obtain ⟨front, back, e, e', hfirst, hboth, he, he'⟩ := entries_swallow hmessage hb
    -- a message that is longer than the swallowed line
    have heq := hall (some (String.ofList (Text.trimChars e'.message) ++ "x"))
    rw [hfirst, hboth, List.map_append, List.map_append, List.append_assoc,
      List.append_cancel_left_eq] at heq
    have hmessages := congrArg Finding.message (List.cons.inj heq).1
    have hempty : Text.trimChars [] = [] := rfl
    rw [message_finding, message_finding, he, if_neg he', if_pos hempty] at hmessages
    have hlength := congrArg String.length hmessages
    rw [OutputPattern.defaultMessage, Option.getD_some, String.length_append] at hlength
    exact absurd hlength (Nat.ne_of_lt (Nat.lt_succ_self _))
  · intro h fallback
    rw [entries_append h, List.map_append]

/-- A diagnostic without a message on the first of two lines: the second diagnostic is lost. -/
theorem findings_swallowed :
    ∃ p, OutputPattern.parse "PATH:LINE:COL:MESSAGE" = .ok p ∧
      p.findings "x" ("a.go:1:2:" ++ "\n" ++ "b.go:3:4:oops") none =
        [⟨"x", "a.go", some 1, some 2, "b.go:3:4:oops"⟩] ∧
      p.findings "x" "a.go:1:2:" none ++ p.findings "x" "b.go:3:4:oops" none =
        [⟨"x", "a.go", some 1, some 2, "issue reported"⟩,
          ⟨"x", "b.go", some 3, some 4, "oops"⟩] := by
  have hone : ∀ (output : String) (loc : Location),
      Shorthand.lineAndColumn.location? output.toList = some loc → loc.behind = [] →
      Shorthand.lineAndColumn.pattern.findings "x" output none =
        [loc.entry.finding "x" none] := by
    intro output loc hloc hbehind
    rw [findings_eq, entries_of_location? hloc, hbehind, List.tail_nil, entries_nil]
    rfl
  have hboth := hone ("a.go:1:2:" ++ "\n" ++ "b.go:3:4:oops")
    ⟨"a.go".toList, ['1'], some ['2'], "\nb.go:3:4:oops".toList⟩ (by decide) (by decide)
  have hfirst := hone "a.go:1:2:" ⟨"a.go".toList, ['1'], some ['2'], []⟩ (by decide) (by decide)
  have hsecond := hone "b.go:3:4:oops" ⟨"b.go".toList, ['3'], some ['4'], "oops".toList⟩
    (by decide) (by decide)
  refine ⟨_, Shorthand.lineAndColumn.parse_name, hboth, ?_⟩
  rw [hfirst, hsecond]
  rfl

end LintVerdict
