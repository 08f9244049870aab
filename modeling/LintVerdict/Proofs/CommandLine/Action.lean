import LintVerdict.CommandLine.Action

/-!
# Steps in turn

A step of the tool comes to a result or to a failure, and leaves a session in both cases. The file
says what steps in turn come to, in which ways they can fail, and when two rows of steps leave the
same session.

## Main definitions

* `Action.FailsOnly`: a step that can fail only in some ways.
* `SameEnd`: results that leave the same session.

## Main results

* `Action.exists_of_bind_eq_ok`: two steps come to a result if both of them do.
* `Action.exists_of_bind_eq_error`: they fail if one of them does.
* `Action.FailsOnly.bind`: steps in turn fail only in the ways of each of them.
* `SameEnd.bind`: steps in turn end the same if each of them does.
-/

namespace LintVerdict.CommandLine

variable {α β γ δ ε : Type} {s t : Session} {e : Failure}

namespace Action

variable {x : Action α} {f : α → Action β} {a : α} {failure : ε → Failure}
  {step : Session → Except ε α × Session}

theorem bind_of_ok (h : x s = .ok a t) : (x >>= f) s = f a t := by
  change EStateM.bind x f s = _
  rw [EStateM.bind, h]

theorem bind_of_error (h : x s = .error e t) : (x >>= f) s = .error e t := by
  change EStateM.bind x f s = _
  rw [EStateM.bind, h]

/-- Two steps come to a result if both of them do. -/
theorem exists_of_bind_eq_ok {b : β} (h : (x >>= f) s = .ok b t) :
    ∃ a s', x s = .ok a s' ∧ f a s' = .ok b t := by
  cases hx : x s with
  | ok a s' => exact ⟨a, s', rfl, (bind_of_ok hx).symm.trans h⟩
  | error e s' => exact absurd ((bind_of_error hx).symm.trans h) nofun

/-- Two steps fail if the first does, or the second after it. -/
theorem exists_of_bind_eq_error (h : (x >>= f) s = .error e t) :
    x s = .error e t ∨ ∃ a s', x s = .ok a s' ∧ f a s' = .error e t := by
  cases hx : x s with
  | ok a s' => exact Or.inr ⟨a, s', rfl, (bind_of_ok hx).symm.trans h⟩
  | error e' s' =>
      cases (bind_of_error hx).symm.trans h
      exact Or.inl rfl

/-- A step that does not change the session comes to a result without a failure. -/
theorem ofExcept_eq_ok_iff {result : Except ε α} :
    ofExcept failure result s = .ok a t ↔ result = .ok a ∧ s = t := by
  cases result with
  | ok b => simp [ofExcept, pure, EStateM.pure]
  | error fault => exact iff_of_false nofun (fun h => absurd h.1 nofun)

/-- A step that changes the session comes to a result without a failure. -/
theorem ofStep_eq_ok_iff : ofStep failure step s = .ok a t ↔ step s = (.ok a, t) := by
  rw [ofStep]
  split <;> simp_all

end Action

/-! ### Ways to fail -/

/-- A step that can fail only in some ways. -/
def Action.FailsOnly (P : Failure → Prop) (x : Action α) : Prop :=
  ∀ ⦃s e t⦄, x s = .error e t → P e

namespace Action.FailsOnly

variable {P : Failure → Prop} {failure : ε → Failure}

protected theorem pure (a : α) : FailsOnly P (pure a : Action α) := by
  intro s e t h
  cases h

protected theorem get : FailsOnly P (get : Action Session) := by
  intro s e t h
  cases h

protected theorem throw (h : P e) : FailsOnly P (throw e : Action α) := by
  rintro s _ t ⟨⟩
  exact h

/-- Steps in turn fail only in the ways of each of them. -/
protected theorem bind {x : Action α} {f : α → Action β} (hx : FailsOnly P x)
    (hf : ∀ a, FailsOnly P (f a)) : FailsOnly P (x >>= f) := by
  intro s e t h
  obtain h | ⟨a, s', -, h⟩ := exists_of_bind_eq_error h
  · exact hx h
  · exact hf a h

/-- A step that does not change the session fails with its own error. -/
protected theorem ofExcept (h : ∀ fault, P (failure fault)) (result : Except ε α) :
    FailsOnly P (Action.ofExcept failure result) := by
  cases result with
  | ok a =>
      intro s e t h
      cases h
  | error fault =>
      rintro s _ t ⟨⟩
      exact h fault

/-- So does one that changes it. -/
protected theorem ofStep (h : ∀ fault, P (failure fault))
    (step : Session → Except ε α × Session) : FailsOnly P (Action.ofStep failure step) := by
  intro s e t hstep
  rw [Action.ofStep] at hstep
  split at hstep <;> cases hstep
  exact h _

end Action.FailsOnly

/-! ### The same session -/

/-- Results that leave the same session: failures both of them, or values in a relation. -/
inductive SameEnd (R : α → β → Prop) :
    EStateM.Result Failure Session α → EStateM.Result Failure Session β → Prop
  | ok {a : α} {b : β} {t : Session} : R a b → SameEnd R (.ok a t) (.ok b t)
  | error {e e' : Failure} {t : Session} : SameEnd R (.error e t) (.error e' t)

namespace SameEnd

variable {R : α → β → Prop} {R' : γ → δ → Prop}

theorem refl (result : EStateM.Result Failure Session α) : SameEnd Eq result result := by
  cases result with
  | ok a t => exact .ok rfl
  | error e t => exact .error

/-- Steps in turn end the same if each of them does. -/
theorem bind {x : Action α} {y : Action β} {f : α → Action γ} {g : β → Action δ}
    (h : SameEnd R (x s) (y s)) (hnext : ∀ a b t, R a b → SameEnd R' (f a t) (g b t)) :
    SameEnd R' ((x >>= f) s) ((y >>= g) s) := by
  generalize hx : x s = result, hy : y s = result' at h
  cases h with
  | ok hab =>
      rw [Action.bind_of_ok hx, Action.bind_of_ok hy]
      exact hnext _ _ _ hab
  | error =>
      rw [Action.bind_of_error hx, Action.bind_of_error hy]
      exact .error

end SameEnd

end LintVerdict.CommandLine
