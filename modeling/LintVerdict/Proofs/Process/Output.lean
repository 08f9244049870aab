import LintVerdict.Proofs.Process.Executor
import LintVerdict.Proofs.Text.Bytes
import LintVerdict.Proofs.Text.Lines

/-!
# What a finished command printed

A command prints bytes on two streams. Each stream is read as a text on its own, and the two texts
are put together. A line feed comes between them where the first one has a last line that nothing
ends and the second one goes on. So no line of the second stream is glued to one of the first.

## Main definitions

* `Combines`: a text that holds what two streams printed.

## Main results

* `combines_iff`: there is one such text.
* `Executor.streams_combined`: what a command printed is told in such a text.
-/

namespace LintVerdict

/-! ### Two texts as one -/

variable {stdout stderr output : String}

/-- A text that holds what two streams printed. -/
structure Combines (stdout stderr output : String) : Prop where
  /-- Its lines are those of the one and then those of the other. -/
  lines : Text.feedLines output.toList =
    Text.feedLines stdout.toList ++ Text.feedLines stderr.toList
  /-- Nothing but a line feed comes between the two, and it does exactly where both printed and
  the first did not end its last line. -/
  text : output =
    if stdout ≠ "" ∧ stderr ≠ "" ∧ stdout.toList.getLast? ≠ some '\n' then
      stdout ++ "\n" ++ stderr
    else stdout ++ stderr

/-- A line feed comes between two texts exactly where both hold something and the first does not
end its last line. -/
theorem combine_eq (stdout stderr : String) :
    combine stdout stderr =
      if stdout ≠ "" ∧ stderr ≠ "" ∧ stdout.toList.getLast? ≠ some '\n' then
        stdout ++ "\n" ++ stderr
      else stdout ++ stderr := by
  rw [combine]
  by_cases herr : stderr = ""
  · rw [if_pos (String.isEmpty_iff.mpr herr), if_neg (fun h => h.2.1 herr), herr,
      String.append_empty]
  · rw [if_neg (fun h => herr (String.isEmpty_iff.mp h))]
    by_cases hended : stdout = "" ∨ stdout.toList.getLast? = some '\n'
    · rw [if_pos (by simpa [String.isEmpty_iff] using hended),
        if_neg (fun h => hended.elim h.1 h.2.2)]
    · rw [not_or] at hended
      rw [if_neg (by simpa [String.isEmpty_iff] using hended),
        if_pos ⟨hended.1, herr, hended.2⟩]

/-- What comes between two texts ends the last line of the first, unless the second is empty. -/
theorem toList_combine (h : stderr ≠ "") :
    (combine stdout stderr).toList =
      stdout.toList ++ (Text.closing stdout.toList ++ stderr.toList) := by
  have hempty : stdout.toList = [] ↔ stdout = "" := String.toList_eq_nil_iff
  rw [combine_eq, Text.closing]
  by_cases hended : stdout.toList = [] ∨ stdout.toList.getLast? = some '\n'
  · rw [if_pos hended, if_neg fun hopen => hended.elim (hopen.1 ∘ hempty.mp) hopen.2.2,
      String.toList_append, List.nil_append]
  · have hopen := not_or.mp hended
    rw [if_neg hended, if_pos ⟨hopen.1 ∘ hempty.mpr, h, hopen.2⟩, String.toList_append,
      String.toList_append, List.append_assoc]
    rfl

/-- **No line of the second text is glued to one of the first.** -/
theorem feedLines_combine (stdout stderr : String) :
    Text.feedLines (combine stdout stderr).toList =
      Text.feedLines stdout.toList ++ Text.feedLines stderr.toList := by
  by_cases herr : stderr = ""
  · have hnone : Text.feedLines "".toList = [] := rfl
    rw [combine, if_pos (String.isEmpty_iff.mpr herr), herr, hnone, List.append_nil]
  · rw [toList_combine herr, Text.feedLines_append_closing]

/-- There is one text that holds what two streams printed. -/
theorem combines_iff : Combines stdout stderr output ↔ output = combine stdout stderr := by
  constructor
  · intro h
    rw [h.text, combine_eq]
  · rintro rfl
    exact ⟨feedLines_combine stdout stderr, combine_eq stdout stderr⟩

/-! ### Commands -/

namespace Executor

variable {x : Executor} {s : Session} {c : Command} {dir path : String} {o : ProcessOutput}

/-- Only the ending of a command that finished is told as what it printed. -/
theorem result_eq_ok_iff {ending : Except SystemError Ending} :
    x.result c.program ending = .ok o ↔
      ∃ stdout stderr, ending = .ok (.finished stdout stderr o.exitCode) ∧
        o.output = combine (Text.lossy stdout) (Text.lossy stderr) := by
  constructor
  · intro h
    match ending, h with
    | .ok (.finished stdout stderr code), h =>
        obtain rfl := Except.ok.inj h
        exact ⟨stdout, stderr, rfl, rfl⟩
  · rintro ⟨stdout, stderr, rfl, houtput⟩
    rw [result, ← houtput]

/-- A command that is located is started from there, and its ending is told. -/
theorem run_eq_ok_iff (programs : Programs) :
    (x.run programs c dir s).1 = .ok o ↔
      ∃ path, (x.locate s c.program).1 = .ok path ∧
        x.result c.program (s.launch programs (x.launchAt path c dir)).1 = .ok o := by
  cases hpath : x.path? s c.program with
  | none =>
      rw [run_of_no_path programs dir hpath, locate_of_no_path hpath]
      exact iff_of_false nofun nofun
  | some path =>
      obtain ⟨y, -, hrun⟩ := exists_run_of_path programs dir hpath
      obtain ⟨z, -, hlocate⟩ := exists_locate_of_path hpath
      rw [hrun, hlocate]
      constructor
      · exact fun h => ⟨path, rfl, h⟩
      · rintro ⟨_, hsame, h⟩
        obtain rfl := Except.ok.inj hsame
        exact h

/-- **What a command printed** is told as one text if it finished, and as nothing else. Whatever the
two streams are, there is such a text, and a stream that holds a text is read as that text. -/
theorem streams_combined (x : Executor) (programs : Programs) (c : Command) (dir : String)
    (s : Session) :
    (∀ o, (x.run programs c dir s).1 = .ok o ↔
        ∃ path stdout stderr, (x.locate s c.program).1 = .ok path ∧
          (s.launch programs (x.launchAt path c dir)).1 =
            .ok (.finished stdout stderr o.exitCode) ∧
          Combines (Text.lossy stdout) (Text.lossy stderr) o.output) ∧
      (∀ stdout stderr, ∃ output, Combines stdout stderr output) ∧
      ∀ text, Text.lossy text.toUTF8 = text := by
  refine ⟨fun o => ?_, fun stdout stderr => ⟨_, combines_iff.mpr rfl⟩, Text.lossy_toUTF8⟩
  rw [run_eq_ok_iff]
  constructor
  · rintro ⟨path, hlocate, hresult⟩
    obtain ⟨stdout, stderr, hending, houtput⟩ := result_eq_ok_iff.mp hresult
    exact ⟨path, stdout, stderr, hlocate, hending, combines_iff.mpr houtput⟩
  · rintro ⟨path, stdout, stderr, hlocate, hending, hcombines⟩
    exact ⟨path, hlocate,
      result_eq_ok_iff.mpr ⟨stdout, stderr, hending, combines_iff.mp hcombines⟩⟩

end Executor

end LintVerdict
