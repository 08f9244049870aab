import LintVerdict.Proofs.Builtin
import LintVerdict.Proofs.Dispatch.Failure
import LintVerdict.Proofs.Pattern.Entries
import LintVerdict.Proofs.Text.Lines
import LintVerdict.Proofs.Text.Split

/-!
# Lines that are paths

The pattern of `gofmt` takes a whole line for a path. Its characters are all but the line feed, so
a carriage return may stand in a path, while for the conditions around the path a carriage return
ends a line. Where a line ends with a carriage return and a line feed, the run of characters that
is taken first ends between the two, where no line ends. So the match gives the carriage return
back. What is left of the line begins no further match, since that would end there as well.

## Main definitions

* `taken`: what the match takes of a line.
* `pathMatch`: the match of a path between two places.

## Main results

* `Regex.first_star_greedy_back`: a greedy run that gives its last character back.
* `scan_wholeLine`: the matches of a line.
* `gofmt_reports_lines`: the findings of `gofmt`, and when it fails.
-/

namespace LintVerdict

open Pattern (Ahead CharSet Look Match Program Regex)

/-! ### A run that ends too late -/

namespace Pattern.Regex

variable {β : Type} {text : Array Char} {s : CharSet} {i : Nat} {c : Char}
  {saves : List (Nat × Nat)} {k : Nat → List (Nat × Nat) → Option β}

/-- A greedy run that cannot begin is empty. -/
theorem first_star_greedy_empty (h : text[i]?.any s.has = false) :
    (star true (chars s)).first text i saves k = k i saves := by
  rw [first_star_greedy_step, h]
  rfl

/-- **A greedy run gives its last character back** if what follows does not accept the end of the
run and accepts the place before it. -/
theorem first_star_greedy_back {run rest : List Char} (hat : Ahead text i (run ++ c :: rest))
    (hrun : ∀ d ∈ run, s.has d = true) (hc : s.has c = true)
    (hrest : rest.head?.any s.has = false) (hend : k (i + run.length + 1) saves = none)
    (hk : (k (i + run.length) saves).isSome = true) :
    (star true (chars s)).first text i saves k = k (i + run.length) saves := by
  induction run generalizing i with
  | nil =>
      have hgo : (star true (chars s)).first text (i + 1) saves k = k (i + 1) saves :=
        first_star_greedy_empty (by rw [hat.tail.getElem?, hrest])
      rw [List.length_nil, Nat.add_zero] at hend
      rw [first_star_greedy_step, hat.getElem?, List.nil_append, List.head?_cons, Option.any_some,
        if_pos hc, hgo]
      rw [hend, Option.none_or]
      rfl
  | cons d run ih =>
      have hlen : i + (d :: run).length = i + 1 + run.length := by
        rw [List.length_cons]
        omega
      rw [hlen] at hend hk ⊢
      have hgo := ih hat.tail (fun e he => hrun e (List.mem_cons_of_mem d he)) hend hk
      rw [first_star_greedy_step, hat.getElem?, List.cons_append, List.head?_cons,
        Option.any_some, if_pos (hrun d List.mem_cons_self), hgo]
      exact Option.or_of_isSome hk

end Pattern.Regex

/-! ### The matches of a line -/

/-- The set of all characters but the line feed. -/
def notFeedSet : CharSet := (CharSet.single '\n').complement

/-- The expression of a whole line: what `gofmt` prints. -/
def wholeLine : Regex := BuiltinPattern.gofmt.regex

/-- What the match takes of a line that stands before the rest of a text. -/
def taken (line : List Char) : List Char → List Char
  | [] => line
  | _ :: _ => Text.dropReturn line

/-- The match of a path between two places. -/
def pathMatch (first last : Nat) : Match := ⟨[(1, last), (3, last), (2, first), (0, first)]⟩

/-- A line that ends with a line feed or with the text. -/
structure IsLine (line rest : List Char) : Prop where
  noFeed : '\n' ∉ line
  rest : rest.head?.all (· = '\n') = true

variable {text : Array Char} {i : Nat} {line rest : List Char}

theorem has_notFeedSet (c : Char) : notFeedSet.has c = decide (c ≠ '\n') := by
  have hc := Pattern.toNat_le_lastCode c
  have hfeed : '\n'.toNat = 10 := rfl
  have hset : notFeedSet = ⟨[(0, 9), (11, Unicode.Table.lastCode)]⟩ := rfl
  rw [hset, CharSet.has, Bool.eq_iff_iff, decide_eq_true_iff, Ne, ← Char.toNat_inj, hfeed]
  simp only [CharSet.hasCode]
  split_ifs <;> simp <;> omega

/-- A whole line matches at the start of a line, with a character at least, up to the end of a
line. -/
theorem matchAt?_wholeLine : wholeLine.matchAt? text i =
    if Look.lineStart.holds (Program.before text i) text[i]? then
      if text[i]?.any notFeedSet.has then
        (Regex.star true (.chars notFeedSet)).first text (i + 1) [(2, i), (0, i)]
          fun j saves =>
            if Look.lineEnd.holds (Program.before text j) text[j]? then
              some ⟨(1, j) :: (3, j) :: saves⟩
            else none
      else none
    else none := by
  have hform : wholeLine = .cat (.look .lineStart)
      (.cat (.group 1 (.plus true (.chars notFeedSet))) (.look .lineEnd)) := rfl
  simp only [hform, Regex.matchAt?, Regex.first_group, Regex.first_cat, Regex.first_look,
    Regex.first_plus_chars]

/-- No match begins at the end of a line or of the text. -/
theorem matchAt?_end (h : text[i]?.all (· = '\n') = true) : wholeLine.matchAt? text i = none := by
  have hnone : text[i]?.any notFeedSet.has = false := by
    cases hc : text[i]? with
    | none => rfl
    | some c =>
        rw [hc, Option.all_some, decide_eq_true_iff] at h
        rw [Option.any_some, has_notFeedSet, h]
        rfl
  rw [matchAt?_wholeLine, hnone]
  split <;> rfl

/-- No match begins at a carriage return before a line feed. -/
theorem matchAt?_return (hat : Ahead text i ('\r' :: '\n' :: rest)) :
    wholeLine.matchAt? text i = none := by
  have hend : text[i + 1]?.any notFeedSet.has = false := by
    rw [hat.tail.getElem?]
    rfl
  rw [matchAt?_wholeLine, Regex.first_star_greedy_empty hend, hat.before, hat.tail.getElem?]
  split_ifs <;> first | rfl | contradiction

theorem taken_cases (h : IsLine line rest) :
    taken line rest = line ∨
      ∃ more, rest = '\n' :: more ∧ line = taken line rest ++ ['\r'] := by
  cases rest with
  | nil => exact Or.inl rfl
  | cons c more =>
      rcases Text.dropReturn_cases line with ⟨front, hline, hfront⟩ | ⟨-, hsame⟩
      · refine Or.inr ⟨more, ?_, ?_⟩
        · simpa using h.rest
        · rw [taken, hfront, hline]
      · exact Or.inl hsame

/-- What is taken of a line shows the same path. -/
theorem trimChars_taken (h : IsLine line rest) :
    Text.trimChars (taken line rest) = Text.trimChars line := by
  rcases taken_cases h with hsame | ⟨-, -, hline⟩
  · rw [hsame]
  · conv_rhs => rw [hline]
    exact (Text.trimChars_concat (by decide) _).symm

/-- What is taken of a line ends at the end of a line. -/
theorem lineEnd_holds_taken (hat : Ahead text i (line ++ rest)) (h : IsLine line rest)
    (hne : taken line rest ≠ []) :
    Look.lineEnd.holds (Program.before text (i + (taken line rest).length))
      text[i + (taken line rest).length]? = true := by
  rcases taken_cases h with hsame | ⟨more, rfl, hline⟩
  · rw [hsame] at hne ⊢
    rw [hat.append.getElem?]
    cases rest with
    | nil => rfl
    | cons c more =>
        obtain rfl : c = '\n' := by simpa using h.rest
        rcases List.eq_nil_or_concat line with rfl | ⟨front, d, rfl⟩
        · exact absurd rfl hne
        · have hd : d ≠ '\r' := by
            rintro rfl
            rw [taken, List.concat_eq_append, Text.dropReturn, if_pos List.getLast?_concat,
              List.dropLast_concat] at hsame
            exact absurd hsame (by simp)
          rw [List.concat_eq_append, List.append_assoc] at hat
          rw [List.length_concat, ← Nat.add_assoc, hat.append.before]
          simp [Look.holds, hd]
  · rw [hline, List.append_assoc] at hat
    rw [hat.append.getElem?]
    rfl

/-- **The match of a line** takes it up to the carriage return before a line feed. -/
theorem matchAt?_line (hat : Ahead text i (line ++ rest)) (h : IsLine line rest)
    (hstart : (Program.before text i).all (· = '\n') = true) (hne : taken line rest ≠ []) :
    wholeLine.matchAt? text i = some (pathMatch i (i + (taken line rest).length)) := by
  have hlineStart : Look.lineStart.holds (Program.before text i) text[i]? = true := by
    cases hb : Program.before text i with
    | none => rfl
    | some c =>
        obtain rfl : c = '\n' := by simpa [hb] using hstart
        rfl
  have hrest : rest.head?.any notFeedSet.has = false := by
    cases rest with
    | nil => rfl
    | cons c more =>
        obtain rfl : c = '\n' := by simpa using h.rest
        rfl
  have hhas : ∀ c ∈ line, notFeedSet.has c = true := by
    intro c hc
    rw [has_notFeedSet, decide_eq_true_iff]
    rintro rfl
    exact h.noFeed hc
  have hend := lineEnd_holds_taken hat h hne
  have hcases := taken_cases h
  generalize taken line rest = shown at hne hend hcases ⊢
  obtain ⟨c, run, rfl⟩ := List.exists_cons_of_ne_nil hne
  have hlen : i + (c :: run).length = i + 1 + run.length := by
    rw [List.length_cons]
    omega
  rw [hlen] at hend ⊢
  rw [matchAt?_wholeLine, if_pos hlineStart]
  rcases hcases with rfl | ⟨more, rfl, rfl⟩
  · rw [hat.getElem?, List.cons_append, List.head?_cons, Option.any_some,
      if_pos (hhas c List.mem_cons_self), Regex.first_star_greedy hat.tail]
    · rw [if_pos hend]
      rfl
    · intro d hd
      exact hhas d (List.mem_cons_of_mem c hd)
    · exact hrest
    · exact Or.inl (by rw [if_pos hend]; rfl)
  · -- the run ends between carriage return and line feed, and gives the carriage return back
    rw [List.cons_append, List.cons_append, List.append_assoc, List.singleton_append] at hat
    have hbetween : Look.lineEnd.holds (Program.before text (i + 1 + run.length + 1))
        text[i + 1 + run.length + 1]? = false := by
      have hreturn := hat.tail.append
      rw [hreturn.before, hreturn.tail.getElem?]
      rfl
    rw [hat.getElem?, List.head?_cons, Option.any_some, if_pos (hhas c List.mem_cons_self),
      Regex.first_star_greedy_back hat.tail]
    · rw [if_pos hend]
      rfl
    · intro d hd
      exact hhas d (by simp [hd])
    · rfl
    · exact hrest
    · rw [hbetween]
      rfl
    · rw [if_pos hend]
      rfl

/-- **The matches of a line**: none or one, and none begins behind it in the line. -/
theorem scan_wholeLine (hat : Ahead text i (line ++ rest)) (h : IsLine line rest)
    (hstart : (Program.before text i).all (· = '\n') = true) :
    wholeLine.scan text i =
      (if taken line rest = [] then [] else [pathMatch i (i + (taken line rest).length)]) ++
        wholeLine.scan text (i + line.length) := by
  have hgap : wholeLine.scan text (i + (taken line rest).length) =
      wholeLine.scan text (i + line.length) := by
    rcases taken_cases h with hsame | ⟨more, rfl, hline⟩
    · rw [hsame]
    · have hlen : line.length = (taken line ('\n' :: more)).length + 1 := by
        conv_lhs => rw [hline]
        rw [List.length_append, List.length_singleton]
      rw [hline, List.append_assoc] at hat
      rw [hlen, ← Nat.add_assoc]
      exact Regex.scan_of_none (matchAt?_return hat.append)
  split
  · next hnil => rw [← hgap, hnil, List.length_nil, Nat.add_zero, List.nil_append]
  · next hne =>
    rw [Regex.scan_of_some rfl (by decide) (matchAt?_line hat h hstart hne), ← hgap]
    rfl

/-- The matches go on behind the line feed. -/
theorem scan_feed (hat : Ahead text i rest) (hrest : rest.head?.all (· = '\n') = true) :
    wholeLine.scan text i = if rest = [] then [] else wholeLine.scan text (i + 1) := by
  rw [Regex.scan_of_none (matchAt?_end (hat.getElem?.symm ▸ hrest))]
  cases rest with
  | nil =>
      have hlen := congrArg List.length hat
      rw [List.length_drop, List.length_nil, Array.length_toList] at hlen
      exact Regex.scan_of_lt (by omega)
  | cons c rest => rfl

/-! ### Findings -/

/-- The finding of a line, unless it is blank. -/
def lineFinding? (linter : String) (fallback : Option String) (line : List Char) :
    Option Finding :=
  (OutputPattern.nonempty? (Text.trimChars line)).map fun path =>
    ⟨linter, String.ofList path, none, none, OutputPattern.defaultMessage fallback⟩

variable {linter : String} {fallback : Option String} {cs : List Char}

/-- The match of a line shows it as a path. -/
theorem finding?_pathMatch (hat : Ahead text i (line ++ rest)) (h : IsLine line rest) :
    BuiltinPattern.gofmt.pattern.finding? linter fallback text
        (pathMatch i (i + (taken line rest).length)) = lineFinding? linter fallback line := by
  have hpath : BuiltinPattern.gofmt.pattern.groupText? text
      (pathMatch i (i + (taken line rest).length)) "path" = some (taken line rest) := by
    refine groupText?_eq rfl rfl ?_
    rcases taken_cases h with hsame | ⟨more, rfl, hline⟩
    · rw [hsame]
      exact hat.extract
    · rw [hline, List.append_assoc] at hat
      exact hat.extract
  have hnone : ∀ name, name ≠ "path" → BuiltinPattern.gofmt.pattern.groupText? text
      (pathMatch i (i + (taken line rest).length)) name = none := by
    intro name hname
    have hfind : BuiltinPattern.gofmt.pattern.names.find? (fun n => n.1 = name) = none := by
      simp [BuiltinPattern.pattern, BuiltinPattern.names, Ne.symm hname]
    rw [OutputPattern.groupText?, hfind]
    rfl
  rw [OutputPattern.finding?, hpath, hnone "line" (by decide), hnone "col" (by decide),
    hnone "message" (by decide), lineFinding?, ← trimChars_taken h]
  simp only [Option.bind_eq_bind, Option.bind_some]
  cases OutputPattern.nonempty? (Text.trimChars (taken line rest)) <;> rfl

/-- The match of a line has the finding of the line, and a line without a match has none. -/
theorem filterMap_wholeLine (hat : Ahead text i (line ++ rest)) (h : IsLine line rest)
    (hstart : (Program.before text i).all (· = '\n') = true) :
    (wholeLine.scan text i).filterMap
        (BuiltinPattern.gofmt.pattern.finding? linter fallback text) =
      (lineFinding? linter fallback line).toList ++
        (wholeLine.scan text (i + line.length)).filterMap
          (BuiltinPattern.gofmt.pattern.finding? linter fallback text) := by
  rw [scan_wholeLine hat h hstart, List.filterMap_append]
  congr 1
  split
  · next hnil =>
    rw [lineFinding?, ← trimChars_taken h, hnil]
    rfl
  · rw [List.filterMap_cons, finding?_pathMatch hat h]
    cases lineFinding? linter fallback line <;> rfl

/-- **The matches from the start of a line on show the lines**, in their order. -/
theorem filterMap_scan_wholeLine (hat : Ahead text i cs)
    (hstart : (Program.before text i).all (· = '\n') = true) :
    (wholeLine.scan text i).filterMap
        (BuiltinPattern.gofmt.pattern.finding? linter fallback text) =
      (Text.splitChars '\n' cs).filterMap (lineFinding? linter fallback) := by
  rw [Text.splitChars_eq_splitOn]
  induction hk : cs.length using Nat.strong_induction_on generalizing i cs with
  | _ k ih =>
      rcases notMem_or_cut '\n' cs with hfeed | ⟨line, more, hfeed, rfl⟩
      · -- the last line
        rw [← List.append_nil cs] at hat
        rw [filterMap_wholeLine hat ⟨hfeed, rfl⟩ hstart, scan_feed hat.append rfl, if_pos rfl,
          List.splitOn_eq_singleton hfeed, List.filterMap_cons]
        cases lineFinding? linter fallback cs <;> rfl
      · have hnext := hat.append.tail
        have hstartNext : (Program.before text (i + line.length + 1)).all (· = '\n') = true := by
          rw [hat.append.before]
          rfl
        rw [List.length_append, List.length_cons] at hk
        rw [filterMap_wholeLine hat ⟨hfeed, rfl⟩ hstart, scan_feed hat.append rfl,
          if_neg (List.cons_ne_nil _ _), ih more.length (by omega) hnext hstartNext rfl,
          List.splitOn_append_cons_self_of_not_mem hfeed, List.filterMap_cons]
        cases lineFinding? linter fallback line <;> rfl

/-- **The findings of whole lines** are the lines that are not blank, in their order. -/
theorem findings_wholeLine (linter output : String) (fallback : Option String) :
    BuiltinPattern.gofmt.pattern.findings linter output fallback =
      (((Text.splitAt '\n' output).map Text.trim).filter (· ≠ "")).map fun path =>
        ⟨linter, path, none, none, OutputPattern.defaultMessage fallback⟩ := by
  have hscan : (wholeLine.scan output.toList.toArray 0).filterMap
      (BuiltinPattern.gofmt.pattern.finding? linter fallback output.toList.toArray) =
      (Text.splitChars '\n' output.toList).filterMap (lineFinding? linter fallback) :=
    filterMap_scan_wholeLine rfl rfl
  rw [OutputPattern.findings, BuiltinPattern.matchesIn_eq, ← wholeLine, hscan, Text.splitAt,
    List.map_map]
  generalize Text.splitChars '\n' output.toList = lines
  induction lines with
  | nil => rfl
  | cons line lines ih =>
      have htrim : (Text.trim ∘ String.ofList) line = String.ofList (Text.trimChars line) := by
        rw [Function.comp_apply, Text.trim, String.toList_ofList]
      rw [List.filterMap_cons, List.map_cons, List.filter_cons, htrim, ih, lineFinding?]
      cases Text.trimChars line with
      | nil => rfl
      | cons c path =>
          have hne : String.ofList (c :: path) ≠ "" := by
            rw [← String.ofList_nil, Ne, String.ofList_inj]
            exact List.cons_ne_nil c path
          rw [if_pos (decide_eq_true hne)]
          rfl

/-- A result is a failure if the command failed or the pattern finds something in what it
printed. -/
theorem isFailure_evaluate_iff {scope : Scope} {spec : LinterSpec} {o : ProcessOutput} :
    (evaluate scope spec o).isFailure = true ↔
      o.exitCode ≠ some 0 ∨ spec.pattern.findings spec.id o.output spec.message ≠ [] := by
  rw [RunResult.isFailure, Bool.or_eq_true, bne_iff_ne]
  by_cases hcode : o.exitCode = some 0
  · have hsucceeded : o.succeeded = true := decide_eq_true hcode
    refine or_congr Iff.rfl ?_
    rw [evaluate]
    simp [hsucceeded]
  · exact iff_of_true (Or.inl hcode) (Or.inl hcode)

/-- **What `gofmt` reports.** The built-in linter finds one path in each line of an output that is
not blank, in their order: the trimmed line, without line and column and with the message of the
linter. A line ends with a line feed, wherever carriage returns stand. So its run on a scope fails
exactly if its command does or a line of the output is not blank. -/
theorem gofmt_reports_lines :
    ∃ spec, Registry.builtin.get? "gofmt" = some spec ∧
      OutputPattern.parse "^(?P<path>[^\\n]+)$" = .ok spec.pattern ∧
      (∀ output, spec.pattern.findings spec.id output spec.message =
        (((Text.splitAt '\n' output).map Text.trim).filter (· ≠ "")).map fun path =>
          ⟨"gofmt", path, none, none, "file is not gofmt-ed with -s"⟩) ∧
      ∀ scope o, (evaluate scope spec o).isFailure = true ↔
        o.exitCode ≠ some 0 ∨ ∃ line ∈ Text.splitAt '\n' o.output, ¬ IsBlankLine line := by
  have hb : ("gofmt", ⟨"gofmt -l -s", BuiltinPattern.gofmt.text, .goFiles,
      some "file is not gofmt-ed with -s", none⟩) ∈ builtinLinters := by
    decide
  obtain ⟨spec, hspec, hid, hpattern, hmessage⟩ :=
    exists_builtin_spec hb BuiltinPattern.gofmt.parse_text
  have hfindings : ∀ output, spec.pattern.findings spec.id output spec.message =
      (((Text.splitAt '\n' output).map Text.trim).filter (· ≠ "")).map fun path =>
        ⟨"gofmt", path, none, none, "file is not gofmt-ed with -s"⟩ := by
    intro output
    rw [hpattern, hid, hmessage]
    exact findings_wholeLine "gofmt" output _
  refine ⟨spec, hspec, hpattern ▸ BuiltinPattern.gofmt.parse_text, hfindings, ?_⟩
  intro scope o
  rw [isFailure_evaluate_iff, hfindings]
  refine or_congr Iff.rfl ?_
  rw [Ne, List.map_eq_nil_iff, List.filter_eq_nil_iff]
  simp [trim_eq_empty_iff]

end LintVerdict
