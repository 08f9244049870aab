import LintVerdict.Proofs.Linter
import LintVerdict.Proofs.Pattern.Builtin

/-!
# The built-in linters

Every declaration of a built-in linter is usable, and found under its id. The file tells which of
them may report a path that runs over the end of a line.

## Main definitions

* `crossingLinters`: the linters whose paths may run over line ends.

## Main results

* `exists_builtin_spec`: a built-in linter is found with its pattern.
* `builtin_path_inLine_iff`: whose paths stay in one line.
-/

namespace LintVerdict

variable {b : String × LinterDefinition}

/-- The built-in linters whose paths may run over line ends. -/
def crossingLinters : List String :=
  ["aligncheck", "dupl", "gocyclo", "gofmt", "structcheck", "test", "testify", "varcheck"]

/-! ### The declarations -/

theorem nodup_builtin_ids : (builtinLinters.map Prod.fst).Nodup := by
  decide

/-- The command templates of the built-in linters are well formed. -/
theorem exists_builtin_template (hb : b ∈ builtinLinters) :
    ∃ t, CommandTemplate.parse b.2.command = .ok t := by
  have hall : ∀ b ∈ builtinLinters, (CommandTemplate.parse b.2.command).isOk = true := by
    decide +kernel
  have hok := hall b hb
  cases ht : CommandTemplate.parse b.2.command with
  | error e => simp [ht, Except.isOk, Except.toBool] at hok
  | ok t => exact ⟨t, rfl⟩

/-- The pattern of a built-in linter is a shorthand or written out. -/
theorem builtin_pattern_cases (hb : b ∈ builtinLinters) :
    (∃ s : Shorthand, b.2.pattern = s.name ∧ b.1 ∉ crossingLinters) ∨
      ∃ p : BuiltinPattern, b.2.pattern = p.text ∧ (b.1 ∈ crossingLinters ↔ p ≠ .deadcode) := by
  have hall : ∀ b ∈ builtinLinters,
      (∃ s ∈ [Shorthand.lineAndColumn, .lineOnly],
        b.2.pattern = s.name ∧ b.1 ∉ crossingLinters) ∨
      ∃ p ∈ [BuiltinPattern.withColumn, .deadcode, .dupl, .gocyclo, .gofmt, .test, .testify,
        .varcheck], b.2.pattern = p.text ∧ (b.1 ∈ crossingLinters ↔ p ≠ .deadcode) := by
    decide +kernel
  obtain ⟨s, -, hs⟩ | ⟨p, -, hp⟩ := hall b hb
  · exact Or.inl ⟨s, hs⟩
  · exact Or.inr ⟨p, hp⟩

/-- The patterns of the built-in linters are well formed. -/
theorem exists_builtin_pattern (hb : b ∈ builtinLinters) :
    ∃ p, OutputPattern.parse b.2.pattern = .ok p := by
  obtain ⟨s, hs, -⟩ | ⟨p, hp, -⟩ := builtin_pattern_cases hb
  · exact ⟨_, hs ▸ s.parse_name⟩
  · exact ⟨_, hp ▸ p.parse_text⟩

/-- A built-in linter is found under its id, once its declaration is read. -/
theorem get?_builtin (hb : b ∈ builtinLinters) {t : CommandTemplate} {p : OutputPattern}
    (ht : CommandTemplate.parse b.2.command = .ok t)
    (hp : OutputPattern.parse b.2.pattern = .ok p) :
    Registry.builtin.get? b.1 =
      some ⟨b.1, t, b.2.target, p, b.2.message, b.2.install⟩ := by
  have hcompile : LinterSpec.compile b.1 b.2 =
      .ok ⟨b.1, t, b.2.target, p, b.2.message, b.2.install⟩ :=
    LinterSpec.compile_eq_ok_iff.mpr ⟨t, p, ht, hp, rfl⟩
  have hfound : Registry.builtin.get? b.1 = builtinSpec? b.1 := rfl
  rw [hfound, builtinSpec?, find?_of_nodup_keys nodup_builtin_ids hb, Option.bind_some, hcompile]
  rfl

/-- **A built-in linter is found under its id**, with the pattern and the message that it
declares. -/
theorem exists_builtin_spec (hb : b ∈ builtinLinters) {p : OutputPattern}
    (hp : OutputPattern.parse b.2.pattern = .ok p) :
    ∃ spec, Registry.builtin.get? b.1 = some spec ∧ spec.id = b.1 ∧ spec.pattern = p ∧
      spec.message = b.2.message := by
  obtain ⟨t, ht⟩ := exists_builtin_template hb
  exact ⟨_, get?_builtin hb ht hp, rfl, rfl, rfl⟩

/-! ### Paths -/

/-- **The path of a finding stays in one line**, exactly for the built-in linters outside the
list: in some output of each linter on the list a path runs over the end of a line. -/
theorem builtin_path_inLine_iff (hb : b ∈ builtinLinters) :
    ∃ spec, Registry.builtin.get? b.1 = some spec ∧
      ((∀ output, ∀ f ∈ spec.pattern.findings spec.id output spec.message,
        ∀ c ∈ f.path.toList, inLine c = true) ↔ b.1 ∉ crossingLinters) := by
  obtain ⟨s, hs, hout⟩ | ⟨p, hp, hcross⟩ := builtin_pattern_cases hb
  · obtain ⟨spec, hspec, -, hpattern, -⟩ := exists_builtin_spec hb (hs ▸ s.parse_name)
    refine ⟨spec, hspec, iff_of_true (fun output f hf => ?_) hout⟩
    rw [hpattern] at hf
    exact s.inLine_path hf
  · obtain ⟨spec, hspec, -, hpattern, -⟩ := exists_builtin_spec hb (hp ▸ p.parse_text)
    refine ⟨spec, hspec, ?_⟩
    rw [hpattern]
    constructor
    · intro h hmem
      have hreturn : '\r' ∈ p.lineEnds := by
        have hne := hcross.mp hmem
        cases p <;> first | exact absurd rfl hne | decide
      obtain ⟨output, f, hf, hc⟩ := (p.mem_path_iff spec.id spec.message (by decide)).mpr hreturn
      exact absurd (h output f hf _ hc) (by decide)
    · intro hout output f hf c hc
      by_contra hend
      have hlineEnd := (p.mem_path_iff spec.id spec.message (Bool.eq_false_iff.mpr hend)).mp
        ⟨output, f, hf, hc⟩
      obtain rfl : p = .deadcode := not_not.mp (mt hcross.mpr hout)
      exact absurd hlineEnd List.not_mem_nil

/-- The paths of `go vet` stay in one line. -/
theorem builtin_path_inLine_vet :
    ("vet", ⟨"go vet", "PATH:LINE:COL:MESSAGE", .path, none, none⟩) ∈ builtinLinters ∧
      ∃ spec, Registry.builtin.get? "vet" = some spec ∧
        ((∀ output, ∀ f ∈ spec.pattern.findings spec.id output spec.message,
          ∀ c ∈ f.path.toList, inLine c = true) ↔ "vet" ∉ crossingLinters) := by
  have hvet : ("vet", ⟨"go vet", "PATH:LINE:COL:MESSAGE", .path, none, none⟩) ∈
      builtinLinters := by
    decide
  exact ⟨hvet, builtin_path_inLine_iff hvet⟩

/-- A line that is no diagnostic ends up in the path of the diagnostic behind it. -/
theorem structcheck_crosses :
    ∃ spec, Registry.builtin.get? "structcheck" = some spec ∧
      spec.pattern.findings spec.id "checking\na.go:1:2: m" spec.message =
        [⟨"structcheck", "checking\na.go", some 1, some 2, "m"⟩] ∧
      ¬ ∀ f ∈ spec.pattern.findings spec.id "checking\na.go:1:2: m" spec.message,
        ∀ c ∈ f.path.toList, inLine c = true := by
  have hb : ("structcheck",
      ⟨"structcheck \x7btests=-t\x7d", BuiltinPattern.withColumn.text, .path, none,
        some "gitlab.com/opennota/check/cmd/structcheck@latest"⟩) ∈ builtinLinters := by
    decide
  obtain ⟨spec, hspec, hid, hpattern, hmessage⟩ :=
    exists_builtin_spec hb BuiltinPattern.withColumn.parse_text
  have hfindings : spec.pattern.findings spec.id "checking\na.go:1:2: m" spec.message =
      [⟨"structcheck", "checking\na.go", some 1, some 2, "m"⟩] := by
    rw [hpattern, hid, hmessage, OutputPattern.findings, BuiltinPattern.matchesIn_eq]
    decide +kernel
  refine ⟨spec, hspec, hfindings, fun h => ?_⟩
  rw [hfindings] at h
  exact absurd (h _ (List.mem_singleton_self _) '\n' (by decide)) (by decide)

end LintVerdict
