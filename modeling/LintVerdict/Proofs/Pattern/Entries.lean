import LintVerdict.Proofs.Pattern.Location
import LintVerdict.Proofs.Text

/-!
# The entries of an output

What the shorthands find in an output, said line by line and without an expression: where a line
begins with a location, the message is what follows after blanks, up to the end of the line that
it stands on. The blanks may hold line ends.

## Main definitions

* `Entry`: a diagnostic as it stands in an output.
* `Shorthand.entries`: the diagnostics of an output, in order.

## Main results

* `forall₂_matchesIn`: the matches of a text show its entries.
* `findings_eq`: the findings of an output are those of its entries.
-/

namespace LintVerdict

open Pattern (Ahead Look Match Program Regex)

/-- A diagnostic as it stands in an output. -/
structure Entry where
  /-- The path. -/
  path : List Char
  /-- The digits of the line. -/
  line : List Char
  /-- The digits of the column, where there is one. -/
  column : Option (List Char)
  /-- The message. -/
  message : List Char
  deriving DecidableEq, Repr

/-- The diagnostic that begins with a location. -/
def Location.entry (loc : Location) : Entry := ⟨loc.path, loc.line, loc.column, loc.message⟩

/-- What stands behind the diagnostic or the line at the beginning of a text. -/
def Shorthand.behind (s : Shorthand) (cs : List Char) : List Char :=
  match s.location? cs with
  | some loc => loc.behind
  | none => cs.dropWhile inLine

variable {s : Shorthand} {text : Array Char} {i : Nat} {cs : List Char} {loc : Location}

/-! ### Groups -/

/-- What a match must hold for it to show an entry. -/
structure Captures (s : Shorthand) (text : Array Char) (m : Match) (e : Entry) : Prop where
  path : s.pattern.groupText? text m "path" = some e.path
  line : s.pattern.groupText? text m "line" = some e.line
  column : s.pattern.groupText? text m "col" = e.column
  message : s.pattern.groupText? text m "message" = some e.message
  path_ne : Text.trimChars e.path ≠ []

theorem groupText?_eq {p : OutputPattern} {m : Match} {name : String} {n first last : Nat}
    {group : List Char} (hname : p.names.find? (fun n => n.1 = name) = some (name, n))
    (hgroup : m.group? n = some (first, last))
    (htext : (text.extract first last).toList = group) :
    p.groupText? text m name = some group := by
  rw [OutputPattern.groupText?, hname, Option.bind_eq_bind, Option.bind_some]
  dsimp only
  rw [hgroup, Option.bind_eq_bind, Option.bind_some, htext]
  rfl

/-- The match that begins at a location shows the entry that the location begins. -/
theorem captures_saves (hat : Ahead text i cs) (h : s.location? cs = some loc) :
    Captures s text ⟨loc.saves i⟩ loc.entry := by
  obtain ⟨hchars, hpath, hcolumn⟩ := locate?_eq_some h
  rw [List.nil_append] at hchars
  subst hchars
  have hpath : Text.trimChars loc.entry.path ≠ [] := by
    rw [Ne, Text.trimChars_eq_nil_iff]
    intro hblank
    exact absurd (hblank 'o' (hpath.subset (by decide))) (by decide)
  have hline := hat.append.tail
  have hrest : ∀ {j}, Ahead text j loc.rest →
      (text.extract (j + loc.gap.length) (j + loc.gap.length + loc.message.length)).toList =
        loc.message := by
    intro j hj
    rw [loc.rest_eq] at hj
    exact hj.append.extract
  obtain ⟨path, line, column, rest⟩ := loc
  cases s with
  | lineAndColumn =>
      obtain ⟨column, rfl⟩ := Option.isSome_iff_exists.mp (hcolumn.mpr rfl)
      have hcol := hline.append.tail
      exact ⟨groupText?_eq rfl rfl hat.extract, groupText?_eq rfl rfl hline.extract,
        groupText?_eq rfl rfl hcol.extract, groupText?_eq rfl rfl (hrest hcol.append.tail), hpath⟩
  | lineOnly =>
      obtain rfl : column = none := by
        simpa using hcolumn
      exact ⟨groupText?_eq rfl rfl hat.extract, groupText?_eq rfl rfl hline.extract, rfl,
        groupText?_eq rfl rfl (hrest hline.append.tail), hpath⟩

/-! ### Entries -/

theorem length_behind_le (s : Shorthand) (cs : List Char) :
    (s.behind cs).length ≤ cs.length := by
  rw [Shorthand.behind]
  split
  · next loc h =>
    obtain ⟨hchars, -, -⟩ := locate?_eq_some h
    have hle : loc.behind.length ≤ loc.rest.length :=
      (List.length_dropWhile_le _ _).trans (List.length_dropWhile_le _ _)
    rw [List.nil_append] at hchars
    rw [← hchars, Location.chars]
    cases loc.column <;> simp <;> omega
  · exact List.length_dropWhile_le _ _

/-- The diagnostics of an output, in order. -/
def Shorthand.entries (s : Shorthand) (cs : List Char) : List Entry :=
  ((s.location? cs).map Location.entry).toList ++
    match _h : s.behind cs with
    | [] => []
    | _ :: rest => s.entries rest
  termination_by cs.length
  decreasing_by
    have hle := length_behind_le s cs
    rw [_h, List.length_cons] at hle
    omega

theorem entries_nil (s : Shorthand) : s.entries [] = [] := by
  rw [Shorthand.entries]
  rfl

/-- The entries go on behind the end of the line that the first entry ends on. -/
theorem entries_eq (s : Shorthand) (cs : List Char) :
    s.entries cs =
      ((s.location? cs).map Location.entry).toList ++ s.entries (s.behind cs).tail := by
  conv_lhs => rw [Shorthand.entries]
  congr 1
  split
  · next h => rw [h, List.tail_nil, entries_nil]
  · next h => rw [h, List.tail_cons]

/-! ### The matches of a shorthand -/

theorem behind_head (s : Shorthand) (cs : List Char) :
    (s.behind cs).head?.any inLine = false := by
  rw [Shorthand.behind]
  split <;> exact head?_dropWhile_any inLine _

/-- Within a line a shorthand does not match. -/
theorem matchAt?_inLine {c : Char} (hat : Ahead text i (c :: cs)) (hc : inLine c = true) :
    s.regex.matchAt? text (i + 1) = none := by
  have hstart : Look.lineStart.holds (some c) text[i + 1]? = false := by
    rw [inLine, Bool.and_eq_true, decide_eq_true_iff, decide_eq_true_iff] at hc
    simp [Look.holds, hc]
  rw [matchAt?_eq hat.tail, hat.before, hstart]
  rfl

/-- At the start of a line a shorthand matches exactly where there is a location. A location
does not begin between a carriage return and a line feed. -/
theorem matchAt?_lineStart (hat : Ahead text i cs)
    (hline : (Program.before text i).any inLine = false) :
    s.regex.matchAt? text i = (s.location? cs).map fun loc => ⟨loc.saves i⟩ := by
  rw [matchAt?_eq hat]
  split
  · rfl
  · next hstart =>
    have hfeed : text[i]? = some '\n' := by
      cases hb : Program.before text i with
      | none => simp [hb, Look.holds] at hstart
      | some c =>
          simp only [hb, Option.any_some, inLine, Look.holds] at hline hstart
          by_contra h
          simp_all
    rw [hat.getElem?, List.head?_eq_some_iff] at hfeed
    obtain ⟨rest, rfl⟩ := hfeed
    rw [location?_lineEnd (by decide)]
    rfl

/-- The match of a diagnostic ends behind its message. -/
theorem ahead_span (hat : Ahead text i loc.chars) :
    Ahead text (Match.mk (loc.saves i)).span.2 loc.behind := by
  have hrest : ∀ {j}, Ahead text j loc.rest →
      Ahead text (j + loc.gap.length + loc.message.length) loc.behind := by
    intro j hj
    rw [loc.rest_eq] at hj
    exact hj.append.append
  have hline := hat.append.tail
  obtain ⟨path, line, column, rest⟩ := loc
  cases column with
  | none => exact hrest hline.append.tail
  | some column => exact hrest hline.append.tail.append.tail

/-- Behind a line the search goes on with the next one. -/
theorem scan_lineEnd (hat : Ahead text i cs) (hcs : cs.head?.any inLine = false) :
    s.regex.scan text i = if cs = [] then [] else s.regex.scan text (i + 1) := by
  have hnone : s.location? cs = none := by
    cases cs with
    | nil => rfl
    | cons c cs => exact location?_lineEnd hcs
  have hmatch : s.regex.matchAt? text i = none := by
    rw [matchAt?_eq hat, hnone]
    split <;> rfl
  rw [Regex.scan_of_none hmatch]
  cases cs with
  | nil =>
      have hlen := congrArg List.length hat
      rw [List.length_drop, List.length_nil, Array.length_toList] at hlen
      exact Regex.scan_of_lt (by omega)
  | cons c cs => rfl

/-- A line that does not begin with a location is passed over. -/
theorem scan_line (hat : Ahead text i cs) (hmatch : s.regex.matchAt? text i = none) :
    s.regex.scan text i = s.regex.scan text (i + (cs.takeWhile inLine).length) := by
  refine Regex.scan_skip _ fun j hj hlt => ?_
  obtain ⟨n, rfl⟩ := Nat.exists_eq_add_of_le hj
  cases n with
  | zero => exact hmatch
  | succ n =>
      have hn : n < (cs.takeWhile inLine).length := by omega
      have hsplit : Ahead text (i + n)
          ((cs.takeWhile inLine)[n] :: ((cs.takeWhile inLine).drop (n + 1) ++
            cs.dropWhile inLine)) := by
        rw [← List.takeWhile_append_dropWhile (p := inLine) (l := cs),
          ← List.take_append_drop n (cs.takeWhile inLine), List.append_assoc] at hat
        have hdrop := hat.append
        rwa [List.length_take_of_le (Nat.le_of_lt hn), List.drop_eq_getElem_cons hn] at hdrop
      exact matchAt?_inLine hsplit (List.mem_takeWhile_imp (List.getElem_mem hn))

/-- **The matches from the start of a line on show the entries**, one each in order. -/
theorem forall₂_scan (hat : Ahead text i cs)
    (hline : (Program.before text i).any inLine = false) :
    List.Forall₂ (Captures s text) (s.regex.scan text i) (s.entries cs) := by
  induction hk : cs.length using Nat.strong_induction_on generalizing i cs with
  | _ k ih =>
      -- both go on at the line that follows
      have hnext : ∀ {j}, Ahead text j (s.behind cs) →
          List.Forall₂ (Captures s text) (s.regex.scan text j)
            (s.entries (s.behind cs).tail) := by
        intro j hj
        have hle := length_behind_le s cs
        have hend := behind_head s cs
        rw [scan_lineEnd hj hend]
        cases hb : s.behind cs with
        | nil =>
            rw [if_pos rfl, List.tail_nil, entries_nil]
            exact List.Forall₂.nil
        | cons c rest =>
            rw [hb] at hj hle hend
            rw [List.length_cons] at hle
            rw [if_neg (List.cons_ne_nil c rest), List.tail_cons]
            refine ih rest.length (by omega) hj.tail ?_ rfl
            rw [hj.before]
            exact hend
      have hmatch := matchAt?_lineStart (s := s) hat hline
      rw [entries_eq]
      cases hloc : s.location? cs with
      | some loc =>
          rw [hloc, Option.map_some] at hmatch
          obtain ⟨hchars, -, -⟩ := locate?_eq_some hloc
          rw [List.nil_append] at hchars
          have hspan : Ahead text (Match.mk (loc.saves i)).span.2 (s.behind cs) := by
            rw [Shorthand.behind, hloc]
            exact ahead_span (hchars ▸ hat)
          rw [Regex.scan_of_some (by cases s <;> rfl) (by cases s <;> decide) hmatch]
          exact List.Forall₂.cons (captures_saves hat hloc) (hnext hspan)
      | none =>
          rw [hloc, Option.map_none] at hmatch
          have hbehind : Ahead text (i + (cs.takeWhile inLine).length) (s.behind cs) := by
            rw [Shorthand.behind, hloc]
            rw [← List.takeWhile_append_dropWhile (p := inLine) (l := cs)] at hat
            exact hat.append
          rw [scan_line hat hmatch, Option.map_none, Option.toList_none, List.nil_append]
          exact hnext hbehind

/-- **The matches of a text show its entries.** -/
theorem forall₂_matchesIn (s : Shorthand) (text : Array Char) :
    List.Forall₂ (Captures s text) (s.pattern.matchesIn text) (s.entries text.toList) := by
  rw [Shorthand.matchesIn_eq]
  exact forall₂_scan (i := 0) rfl rfl

/-! ### Findings -/

/-- The finding of an entry. -/
def Entry.finding (e : Entry) (linter : String) (fallback : Option String) : Finding where
  linter := linter
  path := String.ofList (Text.trimChars e.path)
  line := OutputPattern.number? e.line
  column := e.column.bind OutputPattern.number?
  message := ((OutputPattern.nonempty? (Text.trimChars e.message)).map String.ofList).getD
    (OutputPattern.defaultMessage fallback)

theorem finding?_of_captures {m : Match} {e : Entry} (h : Captures s text m e)
    (linter : String) (fallback : Option String) :
    s.pattern.finding? linter fallback text m = some (e.finding linter fallback) := by
  have hpath : OutputPattern.nonempty? (Text.trimChars e.path) = some (Text.trimChars e.path) :=
    if_neg (by simpa using h.path_ne)
  rw [OutputPattern.finding?, h.path, h.line, h.column, h.message]
  simp only [Option.bind_eq_bind, Option.bind_some, hpath]
  rfl

/-- **The findings of an output are those of its entries.** -/
theorem findings_eq (s : Shorthand) (linter output : String) (fallback : Option String) :
    s.pattern.findings linter output fallback =
      (s.entries output.toList).map fun e => e.finding linter fallback := by
  have hmatches := forall₂_matchesIn s output.toList.toArray
  rw [OutputPattern.findings]
  dsimp only at hmatches ⊢
  generalize s.pattern.matchesIn output.toList.toArray = found at hmatches ⊢
  generalize s.entries output.toList = es at hmatches ⊢
  induction hmatches with
  | nil => rfl
  | cons h _ ih => rw [List.filterMap_cons, finding?_of_captures h, List.map_cons, ih]

end LintVerdict
