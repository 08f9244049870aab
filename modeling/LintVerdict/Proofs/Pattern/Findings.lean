import LintVerdict.Pattern.Output

/-!
# Where findings come from

A finding stands for one match. It names the linter that was asked for, and its path is the
match's `path` group without the blanks at its ends. Linter and message of a finding have no
influence on its path.

## Main definitions

* `OutputPattern.path?`: the path that a match shows.

## Main results

* `OutputPattern.exists_match`: the match of a finding.
* `OutputPattern.exists_finding_iff`: the paths of findings are those of the matches.
* `OutputPattern.linter_of_mem_findings`: all findings name the linter.
-/

namespace LintVerdict.OutputPattern

/-- The path that a match shows, if it is not blank. -/
def path? (p : OutputPattern) (text : Array Char) (m : Pattern.Match) : Option (List Char) :=
  (p.groupText? text m "path").bind fun cs => nonempty? (Text.trimChars cs)

variable {p : OutputPattern} {linter output : String} {fallback : Option String} {f : Finding}
  {text : Array Char} {m : Pattern.Match}

theorem nonempty?_eq_some_iff {cs path : List Char} :
    nonempty? cs = some path ↔ cs = path ∧ path ≠ [] := by
  cases cs <;> cases path <;> simp [nonempty?]

/-- The text of a group stands between the places that a match notes for it. -/
theorem groupText?_eq_some {name : String} {cs : List Char}
    (h : p.groupText? text m name = some cs) :
    ∃ entry first last, p.names.find? (fun n => n.1 = name) = some entry ∧
      m.group? entry.2 = some (first, last) ∧ cs = (text.extract first last).toList := by
  rw [groupText?] at h
  simp only [Option.bind_eq_bind, Option.bind_eq_some_iff] at h
  obtain ⟨entry, hentry, ⟨first, last⟩, hgroup, hcs⟩ := h
  exact ⟨entry, first, last, hentry, hgroup, (Option.some.inj hcs).symm⟩

theorem path?_eq_some {path : List Char} (h : p.path? text m = some path) :
    ∃ cs, p.groupText? text m "path" = some cs ∧ Text.trimChars cs = path := by
  obtain ⟨cs, hcs, hpath⟩ := Option.bind_eq_some_iff.mp h
  exact ⟨cs, hcs, (nonempty?_eq_some_iff.mp hpath).1⟩

/-- A match has a finding when it shows a path. -/
theorem path_finding? :
    (p.finding? linter fallback text m).map (fun f => f.path.toList) = p.path? text m := by
  rw [finding?, path?]
  cases p.groupText? text m "path" with
  | none => rfl
  | some cs =>
      simp only [Option.bind_eq_bind, Option.bind_some]
      cases nonempty? (Text.trimChars cs) with
      | none => rfl
      | some path => exact congrArg some String.toList_ofList

theorem linter_of_finding? (h : p.finding? linter fallback text m = some f) :
    f.linter = linter := by
  rw [finding?] at h
  simp only [Option.bind_eq_bind, Option.bind_eq_some_iff] at h
  obtain ⟨_, _, _, _, hf⟩ := h
  rw [← Option.some.inj hf]

/-- **A finding has a match.** -/
theorem exists_match (h : f ∈ p.findings linter output fallback) :
    ∃ m ∈ p.matchesIn output.toList.toArray,
      p.finding? linter fallback output.toList.toArray m = some f := by
  rwa [findings, List.mem_filterMap] at h

/-- **The paths of findings are those of the matches.** -/
theorem exists_finding_iff {path : List Char} :
    (∃ f ∈ p.findings linter output fallback, f.path.toList = path) ↔
      ∃ m ∈ p.matchesIn output.toList.toArray,
        p.path? output.toList.toArray m = some path := by
  constructor
  · rintro ⟨f, hf, rfl⟩
    obtain ⟨m, hm, hfinding⟩ := exists_match hf
    exact ⟨m, hm, by rw [← path_finding?, hfinding, Option.map_some]⟩
  · rintro ⟨m, hm, hpath⟩
    rw [← path_finding?, Option.map_eq_some_iff] at hpath
    obtain ⟨f, hf, hpath⟩ := hpath
    exact ⟨f, by rw [findings, List.mem_filterMap]; exact ⟨m, hm, hf⟩, hpath⟩

/-- All findings name the linter. -/
theorem linter_of_mem_findings (h : f ∈ p.findings linter output fallback) :
    f.linter = linter := by
  obtain ⟨m, -, hm⟩ := exists_match h
  exact linter_of_finding? hm

end LintVerdict.OutputPattern
