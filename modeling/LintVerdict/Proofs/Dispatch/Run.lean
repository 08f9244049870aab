import LintVerdict.Proofs.Dispatch.Attempt

/-!
# Runs of a checked configuration

A run is described by the fates of its pairs (`Attempted`): it walks them in order and answers
with the verdict on those it walked. Stopping at the first failure cuts this walk short and
changes nothing else, which relates the two ways of running any configuration.

## Main results

* `run_eq_verdict_walked`: what a run answers, and the commands it gives.
* `failFast_cutShort`: what a run that stops at the first failure tells about one that goes on.
-/

namespace LintVerdict

/-- **A run is the walk of its schedule.** In a checked configuration every scheduled pair has
a fate. The run walks the fates in order up to the first error, or up to the first failure if
it stops there; it gives the commands of the walked pairs and answers with the first error or
the report on the walked pairs. -/
theorem run_eq_verdict_walked {registry : Registry} {applicability : Applicability}
    {options : Options} {failFast : Bool} {d : Dispatcher} {w : Setting} {root : String}
    (hd : Dispatcher.make registry applicability options failFast = .ok d)
    (hroot : w.workingRoot = .ok root) (scopes : Scopes) :
    ∃ as, List.Forall₂ (Attempted registry options w root) (scheduled applicability scopes) as ∧
      d.run w.host scopes [] =
        (verdict (walked failFast as), (walked failFast as).flatMap Attempt.commands) := by
  obtain ⟨as, has⟩ := exists_attempts w root hd scopes
  obtain rfl := Dispatcher.eq_of_make hd
  exact ⟨as, has, run_of_root hroot has⟩

/-- A linter whose command has no arguments but the target. -/
def bareLinter : LinterSpec where
  id := "vet"
  template := ⟨"vet", []⟩
  target := .path
  pattern := ⟨"(?P<path>.)", .group 1 (.chars .univ), [("path", 1)]⟩
  message := none
  install := none

/-- The configuration that runs this linter on packages. -/
def bareDispatcher (failFast : Bool) : Dispatcher :=
  ⟨⟨[bareLinter]⟩, ⟨["vet"], []⟩, .unset, failFast⟩

/-- An empty tree in which every command fails. -/
def failingSetting : Setting := ⟨⟨.dir [], []⟩, .ok "/", fun _ _ => .ok ⟨"", some 1⟩⟩

theorem make_bareDispatcher (failFast : Bool) :
    Dispatcher.make ⟨[bareLinter]⟩ ⟨["vet"], []⟩ .unset failFast =
      .ok (bareDispatcher failFast) :=
  rfl

/-- Two packages on which the linter fails. -/
theorem run_eq_verdict_walked_failing :
    Dispatcher.make ⟨[bareLinter]⟩ ⟨["vet"], []⟩ .unset true = .ok (bareDispatcher true) ∧
      failingSetting.workingRoot = .ok "/" ∧
      ∃ as, List.Forall₂ (Attempted ⟨[bareLinter]⟩ .unset failingSetting "/")
          (scheduled ⟨["vet"], []⟩ ⟨["a", "b"], []⟩) as ∧
        (bareDispatcher true).run failingSetting.host ⟨["a", "b"], []⟩ [] =
          (verdict (walked true as), (walked true as).flatMap Attempt.commands) :=
  have hroot : failingSetting.workingRoot = .ok "/" := workingRoot_root rfl
  ⟨rfl, hroot, run_eq_verdict_walked (make_bareDispatcher true) hroot ⟨["a", "b"], []⟩⟩

/-! ### Stopping at the first failure -/

/-- A fate that is neither an error nor a failure. -/
def Attempt.Clean (a : Attempt) : Prop := a.error? = none ∧ a.fails = false

/-- Whether or not a run stops at failures, it walks the same fates up to the first failure. -/
theorem walked_cases (as : List Attempt) :
    (walked true as = walked false as ∧ ∀ a ∈ walked true as, a.fails = false) ∨
      ∃ cs a more, (∀ c ∈ cs, c.Clean) ∧ a.error? = none ∧ a.fails = true ∧
        walked true as = cs ++ [a] ∧ walked false as = cs ++ a :: more := by
  induction as with
  | nil => exact Or.inl ⟨rfl, by simp [walked_nil]⟩
  | cons a as ih =>
      simp only [walked_cons, Attempt.ends, Bool.true_and, Bool.false_and, Bool.or_false]
      cases he : a.error? with
      | some e =>
          have hf : a.fails = false := by
            cases ho : a.outcome with
            | error e' => rw [Attempt.fails, ho]
            | ok r => simp [Attempt.error?, ho] at he
          exact Or.inl (by simp [hf])
      | none =>
          cases hf : a.fails with
          | true =>
              exact Or.inr ⟨[], a, walked false as, by simp, he, hf, by simp, by simp⟩
          | false =>
              obtain ⟨heq, hall⟩ | ⟨cs, b, more, hcs, hb, hbf, htrue, hfalse⟩ := ih
              · exact Or.inl ⟨by simp [heq], by simpa [hf] using hall⟩
              · refine Or.inr ⟨a :: cs, b, more, ?_, hb, hbf, by simp [htrue], by simp [hfalse]⟩
                exact List.forall_mem_cons.mpr ⟨⟨he, hf⟩, hcs⟩

/-- How the answer and the commands of a run that stops at the first failure relate to those of
a run that goes on. -/
structure CutShort (fast full : Except DispatchError Report × List Command) : Prop where
  /-- The commands given are the first ones. -/
  commands : fast.2 <+: full.2
  /-- Both are clean with the same report, or none is clean. -/
  clean : ∀ r, fast.1 = .ok r ∧ r.outcome = .clean ↔ full.1 = .ok r ∧ r.outcome = .clean
  /-- A report is cut after its first failure, and keeps its outcome. -/
  report : ∀ r, full.1 = .ok r → ∃ r', fast.1 = .ok r' ∧ r'.outcome = r.outcome ∧
    r'.findings <+: r.findings ∧ r'.failed = r.failed.take 1 ∧ r'.checked ≤ r.checked
  /-- An error of the short run is that of the full one. -/
  error : ∀ e, fast.1 = .error e → full.1 = .error e
  /-- An error of the full run is met by the short one too, unless a failure comes before. -/
  masked : ∀ e, full.1 = .error e →
    fast.1 = .error e ∨ ∃ r', fast.1 = .ok r' ∧ r'.outcome = .failed

/-- A run that meets no failure is not cut at all. -/
theorem CutShort.refl {x : Except DispatchError Report × List Command}
    (h : ∀ r, x.1 = .ok r → r.failed = []) : CutShort x x where
  commands := List.prefix_rfl
  clean _ := Iff.rfl
  report r hr := ⟨r, hr, rfl, List.prefix_rfl, by rw [h r hr, List.take_nil], Nat.le_refl _⟩
  error _ he := he
  masked _ he := Or.inl he

/-- The report up to a first failure. -/
theorem verdict_of_failure {cs : List Attempt} {a : Attempt} (hcs : ∀ c ∈ cs, c.Clean)
    (he : a.error? = none) : verdict (cs ++ [a]) = .ok (reportOn (cs ++ [a])) := by
  have hnone : (cs ++ [a]).findSome? Attempt.error? = none := by
    rw [List.findSome?_eq_none_iff]
    intro c hc
    obtain hc | hc := List.mem_append.mp hc
    · exact (hcs c hc).1
    · rw [List.mem_singleton.mp hc, he]
  rw [verdict, hnone]

/-- **Cutting a walk at its first failure** cuts its report there. -/
theorem cutShort_of_failure {cs : List Attempt} {a : Attempt} (more : List Attempt)
    (hcs : ∀ c ∈ cs, c.Clean) (he : a.error? = none) (hf : a.fails = true) :
    CutShort (verdict (cs ++ [a]), (cs ++ [a]).flatMap Attempt.commands)
      (verdict (cs ++ a :: more), (cs ++ a :: more).flatMap Attempt.commands) := by
  have hok := verdict_of_failure hcs he
  have hfailing : ∀ as, (reportOn (cs ++ a :: as)).outcome = .failed := fun as => by
    simp [reportOn, hf]
  have hclean : cs.filter Attempt.fails = [] :=
    List.filter_eq_nil_iff.mpr fun c hc => by simp [(hcs c hc).2]
  have hmore : ∀ r, verdict (cs ++ a :: more) = .ok r → r = reportOn (cs ++ a :: more) := by
    intro r hr
    unfold verdict at hr
    split at hr
    · exact absurd hr (by simp)
    · exact (Except.ok.inj hr).symm
  refine ⟨?_, ?_, ?_, ?_, ?_⟩
  · exact ⟨more.flatMap Attempt.commands, by simp⟩
  · intro r
    refine iff_of_false ?_ ?_
    · rintro ⟨hr, hclean⟩
      rw [hok] at hr
      rw [← Except.ok.inj hr, hfailing []] at hclean
      exact absurd hclean (by simp)
    · rintro ⟨hr, hclean⟩
      rw [hmore r hr, hfailing more] at hclean
      exact absurd hclean (by simp)
  · intro r hr
    rw [hmore r hr]
    refine ⟨reportOn (cs ++ [a]), hok, ?_, ?_, ?_, ?_⟩
    · rw [hfailing [], hfailing more]
    · exact ⟨more.flatMap Attempt.findings, by simp [reportOn]⟩
    · simp [reportOn, hclean, hf]
    · simp [reportOn]
  · intro e h
    rw [hok] at h
    exact absurd h (by simp)
  · intro e _
    exact Or.inr ⟨reportOn (cs ++ [a]), hok, hfailing []⟩

/-- **Stopping at the first failure only cuts a run short.** The two runs of a checked
configuration give the same commands up to the first failure; they are clean together, with
equal reports; and where they answer differently, the short run has stopped at a failure. -/
theorem failFast_cutShort {registry : Registry} {applicability : Applicability}
    {options : Options} {failFast : Bool} {d : Dispatcher}
    (hd : Dispatcher.make registry applicability options failFast = .ok d) (w : Setting)
    (scopes : Scopes) :
    CutShort ({ d with failFast := true }.run w.host scopes [])
      ({ d with failFast := false }.run w.host scopes []) := by
  obtain rfl := Dispatcher.eq_of_make hd
  by_cases hnil : scheduled applicability scopes = []
  · rw [run_of_no_pairs hnil, run_of_no_pairs hnil]
    exact CutShort.refl fun r hr => by rw [← Except.ok.inj hr]; rfl
  cases hroot : w.workingRoot with
  | error e =>
      rw [run_of_pairs hnil, run_of_pairs hnil, hroot]
      exact CutShort.refl fun r hr => absurd hr (by simp)
  | ok root =>
      obtain ⟨as, has⟩ := exists_attempts w root hd scopes
      rw [run_of_root hroot has, run_of_root hroot has]
      obtain ⟨heq, hall⟩ | ⟨cs, a, more, hcs, he, hf, htrue, hfalse⟩ := walked_cases as
      · rw [← heq]
        refine CutShort.refl fun r hr => ?_
        have hfilter : (walked true as).filter Attempt.fails = [] :=
          List.filter_eq_nil_iff.mpr fun a ha => by simp [hall a ha]
        simp only [verdict] at hr
        split at hr
        · exact absurd hr (by simp)
        · rw [← Except.ok.inj hr, reportOn, hfilter, List.map_nil]
      · rw [htrue, hfalse]
        exact cutShort_of_failure more hcs he hf

/-- Two packages on which a linter fails: the short run stops at the first. -/
theorem failFast_cutShort_failing :
    Dispatcher.make ⟨[bareLinter]⟩ ⟨["vet"], []⟩ .unset true = .ok (bareDispatcher true) ∧
      CutShort ((bareDispatcher true).run failingSetting.host ⟨["a", "b"], []⟩ [])
        ((bareDispatcher false).run failingSetting.host ⟨["a", "b"], []⟩ []) :=
  ⟨rfl, failFast_cutShort (make_bareDispatcher true) failingSetting ⟨["a", "b"], []⟩⟩

end LintVerdict
