import LintVerdict.Proofs.Decimal
import LintVerdict.Proofs.Pattern.Entries

/-!
# Lines and columns of a finding

A shorthand takes digits of any writing system, and as many as there are. A finding has the
number only if the digits are those of ASCII and the number fits in a machine word, so a match
can take digits for a line and its finding still have none.

## Main definitions

* `IsRun`, `IsWord`: the digits that a shorthand takes, and those that a finding can show.
* `Numbered`: what a finding says of the digits of its match.

## Main results

* `exists_location`: a diagnostic begins with a location.
* `numbers_present_iff`: when every finding has its numbers.
-/

namespace LintVerdict

open Pattern (CharSet Match)

/-- A run of digits of any writing system. -/
structure IsRun (ds : List Char) : Prop where
  ne_nil : ds ≠ []
  digits : ∀ c ∈ ds, CharSet.digits.has c = true

/-- The digits are those of ASCII and their number fits in a machine word. -/
def IsWord (ds : List Char) : Prop :=
  (∀ c ∈ ds, Decimal.isDigit c = true) ∧ Decimal.readDigits 0 ds < Decimal.word64

/-- What is kept of a run of digits: its number, or nothing. -/
inductive Kept (ds : List Char) : Option Nat → Prop
  | word : IsWord ds → Kept ds (some (Decimal.readDigits 0 ds))
  | lost : ¬ IsWord ds → Kept ds none

/-- What a finding says of the digits of its match: the digits under the groups for line and
column are runs, and the finding has what is kept of them. -/
structure Numbered (s : Shorthand) (p : OutputPattern) (text : Array Char) (m : Match)
    (f : Finding) : Prop where
  line : ∃ ds, p.groupText? text m "line" = some ds ∧ IsRun ds ∧ Kept ds f.line
  column : s = .lineAndColumn →
    ∃ ds, p.groupText? text m "col" = some ds ∧ IsRun ds ∧ Kept ds f.column

variable {s : Shorthand} {cs ds : List Char} {loc : Location} {e : Entry}

/-! ### Digits -/

theorem kept_iff {number : Option Nat} (h : Kept ds number) : number.isSome = true ↔ IsWord ds := by
  cases h with
  | word hword => exact iff_of_true rfl hword
  | lost hlost => exact iff_of_false Bool.false_ne_true hlost

/-- A run of digits is read as far as it is a word. -/
theorem kept_number? (h : IsRun ds) : Kept ds (OutputPattern.number? ds) := by
  have hplus : '+' ∉ ds := fun hmem => by
    have hdigit := h.digits '+' hmem
    rw [has_digits (by decide)] at hdigit
    exact absurd hdigit (by decide)
  rw [OutputPattern.number?, Decimal.boundedNat?, Decimal.dropPlus_of_notMem hplus]
  by_cases hword : IsWord ds
  · have hread : Decimal.decimal? ds = some (Decimal.readDigits 0 ds) :=
      Decimal.decimal?_eq_some_iff.mpr ⟨⟨h.ne_nil, hword.1⟩, rfl⟩
    rw [hread, Option.filter_some, decide_eq_true hword.2]
    exact Kept.word hword
  · have hnone : (Decimal.decimal? ds).filter (· < Decimal.word64) = none := by
      rw [Option.filter_eq_none_iff]
      intro n hn hlt
      obtain ⟨⟨-, hdigits⟩, rfl⟩ := Decimal.decimal?_eq_some_iff.mp hn
      exact hword ⟨hdigits, of_decide_eq_true hlt⟩
    rw [hnone]
    exact Kept.lost hword

/-! ### The digits of a location -/

theorem isRun_of_numeral? {n : List Char × List Char} (h : numeral? cs = some n) : IsRun n.1 := by
  unfold numeral? at h
  extract_lets digits rest at h
  split at h
  · next hrun =>
    obtain rfl := Option.some.inj h
    exact ⟨hrun.1, fun c hc => List.mem_takeWhile_imp hc⟩
  · exact absurd h nofun

theorem runs_of_numbered? {path : List Char} (h : s.numbered? path cs = some loc) :
    IsRun loc.line ∧ ∀ ds ∈ loc.column, IsRun ds := by
  cases s with
  | lineAndColumn =>
      obtain ⟨line, hline, h⟩ := Option.bind_eq_some_iff.mp h
      obtain ⟨column, hcolumn, h⟩ := Option.bind_eq_some_iff.mp h
      obtain rfl := Option.some.inj h
      exact ⟨isRun_of_numeral? hline, by simpa using isRun_of_numeral? hcolumn⟩
  | lineOnly =>
      obtain ⟨line, hline, h⟩ := Option.bind_eq_some_iff.mp h
      obtain rfl := Option.some.inj h
      exact ⟨isRun_of_numeral? hline, nofun⟩

/-- Line and column of a location are runs of digits. -/
theorem runs_of_locate? {begun : List Char} (h : s.locate? begun cs = some loc) :
    IsRun loc.line ∧ ∀ ds ∈ loc.column, IsRun ds := by
  induction cs generalizing begun with
  | nil => cases h
  | cons c cs ih =>
      rw [Shorthand.locate?, Option.or_eq_some_iff] at h
      obtain h | ⟨-, h⟩ := h
      · split at h
        · exact runs_of_numbered? h
        · cases h
      · split at h
        · exact ih h
        · cases h

/-- **A diagnostic begins with a location.** -/
theorem exists_location (h : e ∈ s.entries cs) :
    ∃ loc rest, s.location? rest = some loc ∧ e = loc.entry := by
  induction hk : cs.length using Nat.strong_induction_on generalizing cs with
  | _ k ih =>
      rw [entries_eq, List.mem_append, Option.mem_toList, Option.map_eq_some_iff] at h
      obtain ⟨loc, hloc, rfl⟩ | h := h
      · exact ⟨loc, cs, hloc, rfl⟩
      cases hbehind : s.behind cs with
      | nil =>
          rw [hbehind, List.tail_nil, entries_nil] at h
          exact absurd h List.not_mem_nil
      | cons c rest =>
          have hle := length_behind_le s cs
          rw [hbehind, List.length_cons] at hle
          rw [hbehind, List.tail_cons] at h
          exact ih rest.length (by omega) h rfl

/-! ### The digits of a finding -/

theorem numbered_of_captures {text : Array Char} {m : Match} (h : Captures s text m e)
    (hmem : e ∈ s.entries cs) (linter : String) (fallback : Option String) :
    Numbered s s.pattern text m (e.finding linter fallback) := by
  obtain ⟨loc, rest, hloc, rfl⟩ := exists_location hmem
  obtain ⟨hline, hcolumn⟩ := runs_of_locate? hloc
  obtain ⟨-, -, hsome⟩ := locate?_eq_some hloc
  refine ⟨⟨loc.line, h.line, hline, kept_number? hline⟩, fun hs => ?_⟩
  obtain ⟨ds, hds⟩ := Option.isSome_iff_exists.mp (hsome.mpr hs)
  have hrun := hcolumn ds hds
  have hkept : (loc.entry.finding linter fallback).column = OutputPattern.number? ds :=
    congrArg (Option.bind · OutputPattern.number?) hds
  exact ⟨ds, h.column.trans hds, hrun, hkept ▸ kept_number? hrun⟩

/-- **Every match has a finding that says what is kept of its digits.** -/
theorem forall₂_numbered (s : Shorthand) (linter output : String) (fallback : Option String) :
    List.Forall₂ (Numbered s s.pattern output.toList.toArray)
      (s.pattern.matchesIn output.toList.toArray) (s.pattern.findings linter output fallback) := by
  have hmatches := forall₂_matchesIn s output.toList.toArray
  have hnumbered : ∀ e ∈ s.entries output.toList, ∀ m, Captures s output.toList.toArray m e →
      Numbered s s.pattern output.toList.toArray m (e.finding linter fallback) :=
    fun e he m h => numbered_of_captures h he linter fallback
  rw [findings_eq, List.forall₂_map_right_iff]
  dsimp only at hmatches
  generalize s.pattern.matchesIn output.toList.toArray = found at hmatches ⊢
  generalize s.entries output.toList = es at hmatches hnumbered ⊢
  induction hmatches with
  | nil => exact List.Forall₂.nil
  | @cons m e found es h _ ih =>
      obtain ⟨he, hes⟩ := List.forall_mem_cons.mp hnumbered
      exact List.Forall₂.cons (he m h) (ih hes)

/-- A finding has its numbers exactly if the digits of its match are words. -/
theorem present_iff_of_numbered {p : OutputPattern} {text : Array Char} {m : Match} {f : Finding}
    (h : Numbered s p text m f) :
    (f.line.isSome = true ∧ (s = .lineAndColumn → f.column.isSome = true)) ↔
      (∀ ds ∈ p.groupText? text m "line", IsWord ds) ∧
        (s = .lineAndColumn → ∀ ds ∈ p.groupText? text m "col", IsWord ds) := by
  obtain ⟨ds, hds, -, hkept⟩ := h.line
  refine and_congr ?_ (forall_congr' fun hs => ?_)
  · rw [kept_iff hkept, hds]
    simp
  · obtain ⟨ds, hds, -, hkept⟩ := h.column hs
    rw [kept_iff hkept, hds]
    simp

/-- **When every finding has its numbers.** Each match of a shorthand has a finding, and its
finding has a line, and a column if the shorthand names one, exactly if the digits that the match
holds under these groups are those of ASCII and their numbers fit in a machine word. -/
theorem numbers_present_iff (s : Shorthand) :
    ∃ p, OutputPattern.parse s.name = .ok p ∧
      ∀ (linter output : String) (fallback : Option String),
        List.Forall₂ (Numbered s p output.toList.toArray) (p.matchesIn output.toList.toArray)
          (p.findings linter output fallback) ∧
        ((∀ f ∈ p.findings linter output fallback,
            f.line.isSome = true ∧ (s = .lineAndColumn → f.column.isSome = true)) ↔
          ∀ m ∈ p.matchesIn output.toList.toArray,
            (∀ ds ∈ p.groupText? output.toList.toArray m "line", IsWord ds) ∧
              (s = .lineAndColumn →
                ∀ ds ∈ p.groupText? output.toList.toArray m "col", IsWord ds)) := by
  refine ⟨s.pattern, s.parse_name, fun linter output fallback => ?_⟩
  have hnumbered := forall₂_numbered s linter output fallback
  refine ⟨hnumbered, ?_⟩
  generalize s.pattern.findings linter output fallback = findings at hnumbered ⊢
  generalize s.pattern.matchesIn output.toList.toArray = found at hnumbered ⊢
  induction hnumbered with
  | nil => exact iff_of_true (List.forall_mem_nil _) (List.forall_mem_nil _)
  | cons h _ ih =>
      rw [List.forall_mem_cons, List.forall_mem_cons, present_iff_of_numbered h]
      exact and_congr_right fun _ => ih

/-- Digits of another writing system are taken for a line, and the finding has none. -/
theorem line_lost :
    ∃ p, OutputPattern.parse "PATH:LINE:COL:MESSAGE" = .ok p ∧
      p.findings "x" "a.go:٣:7: oops" none = [⟨"x", "a.go", none, some 7, "oops"⟩] := by
  refine ⟨_, Shorthand.lineAndColumn.parse_name, ?_⟩
  have hloc : Shorthand.lineAndColumn.location? "a.go:٣:7: oops".toList =
      some ⟨"a.go".toList, ['٣'], some ['7'], " oops".toList⟩ := by decide
  have hbehind : Shorthand.lineAndColumn.behind "a.go:٣:7: oops".toList = [] := by
    rw [Shorthand.behind, hloc]
    decide
  rw [findings_eq, entries_eq, hloc, hbehind, List.tail_nil, entries_nil]
  rfl

end LintVerdict
