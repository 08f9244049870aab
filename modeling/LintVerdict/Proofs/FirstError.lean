import Mathlib.Data.List.Forall2

/-!
# The first error

Steps that may fail are taken one after the other, and the first error ends them. The file takes
the result of such a sequence apart, element by element, and finds the first element of a kind.

## Main results

* `bind_eq_ok_iff`, `bind_eq_error_iff`: the result of two steps.
* `mapError_eq_ok_iff`, `mapError_eq_error_iff`: a step whose error is wrapped.
* `forM_eq_ok_iff`: when one step for each element of a list succeeds.
* `mapM_eq_ok_iff`, `mapM_eq_error_iff`: the result of one step for each element of a list.
* `mapM_eq_some_iff`: the same for steps that tell no error.
* `forM_congr`, `mapM_congr`, `forall₂_congr_of_mem`: only what is asked of the elements of the list
  counts.
* `exists_of_forall₂_left`, `exists_of_forall₂_right`, `exists_forall₂_iff`: each element has its
  partner.
* `take_findIdx_cons`, `find?_of_nodup_keys`: the elements up to the first one of a kind, and the
  one of a key.
-/

namespace LintVerdict

variable {ε α β : Type}

/-! ### Two steps -/

section Bind

variable {x : Except ε α} {f : α → Except ε β}

theorem bind_eq_ok_iff {b : β} : (x >>= f) = .ok b ↔ ∃ a, x = .ok a ∧ f a = .ok b := by
  cases x <;> simp [bind, Except.bind]

theorem bind_eq_error_iff {e : ε} :
    (x >>= f) = .error e ↔ x = .error e ∨ ∃ a, x = .ok a ∧ f a = .error e := by
  cases x <;> simp [bind, Except.bind]

/-- An error is wrapped, never made up. -/
theorem mapError_eq_error_iff {δ : Type} {g : ε → δ} {e : δ} :
    x.mapError g = .error e ↔ ∃ fault, x = .error fault ∧ g fault = e := by
  cases x <;> simp [Except.mapError]

/-- Wrapping errors leaves a result as it is. -/
theorem mapError_eq_ok_iff {δ : Type} {g : ε → δ} {a : α} :
    x.mapError g = .ok a ↔ x = .ok a := by
  cases x <;> simp [Except.mapError]

end Bind

/-! ### One step for each element -/

theorem forM_eq_ok_iff {f : α → Except ε Unit} {xs : List α} :
    xs.forM f = .ok () ↔ ∀ x ∈ xs, f x = .ok () := by
  induction xs with
  | nil => exact iff_of_true rfl (by simp)
  | cons x xs ih =>
      have hcons : (x :: xs).forM f = f x >>= fun _ => xs.forM f := rfl
      rw [hcons, bind_eq_ok_iff, List.forall_mem_cons, ← ih]
      exact ⟨fun ⟨_, hx, hxs⟩ => ⟨hx, hxs⟩, fun ⟨hx, hxs⟩ => ⟨(), hx, hxs⟩⟩

/-- Only the steps for the elements of the list count. -/
theorem forM_congr {f g : α → Except ε Unit} {xs : List α} (h : ∀ x ∈ xs, f x = g x) :
    xs.forM f = xs.forM g := by
  induction xs with
  | nil => rfl
  | cons x xs ih =>
      obtain ⟨hx, hxs⟩ := List.forall_mem_cons.mp h
      have hcons : ∀ k : α → Except ε Unit, (x :: xs).forM k = k x >>= fun _ => xs.forM k :=
        fun _ => rfl
      rw [hcons, hcons, hx, ih hxs]

section MapM

variable {f : α → Except ε β} {xs : List α}

/-- All steps succeed. -/
theorem mapM_eq_ok_iff {ys : List β} :
    xs.mapM f = .ok ys ↔ List.Forall₂ (fun x y => f x = .ok y) xs ys := by
  induction xs generalizing ys with
  | nil =>
      rw [List.mapM_nil, List.forall₂_nil_left_iff]
      exact ⟨fun h => (Except.ok.inj h).symm, fun h => h ▸ rfl⟩
  | cons x xs ih =>
      simp only [List.mapM_cons, bind_eq_ok_iff, List.forall₂_cons_left_iff, ih]
      constructor
      · rintro ⟨y, hx, zs, hxs, h⟩
        exact ⟨y, zs, hx, hxs, (Except.ok.inj h).symm⟩
      · rintro ⟨y, zs, hx, hxs, rfl⟩
        exact ⟨y, hx, zs, hxs, rfl⟩

/-- A step fails after steps that succeed. -/
theorem mapM_eq_error_iff {e : ε} :
    xs.mapM f = .error e ↔
      ∃ front x back, xs = front ++ x :: back ∧ (∀ z ∈ front, ∃ y, f z = .ok y) ∧
        f x = .error e := by
  induction xs with
  | nil => simp [pure, Except.pure]
  | cons z xs ih =>
      rw [List.mapM_cons, bind_eq_error_iff]
      constructor
      · rintro (hz | ⟨y, hz, h⟩)
        · exact ⟨[], z, xs, rfl, by simp, hz⟩
        · have hxs : xs.mapM f = .error e := by
            obtain h | ⟨ys, -, h⟩ := bind_eq_error_iff.mp h
            · exact h
            · exact absurd h nofun
          obtain ⟨front, x, back, rfl, hfront, hx⟩ := ih.mp hxs
          exact ⟨z :: front, x, back, rfl, List.forall_mem_cons.mpr ⟨⟨y, hz⟩, hfront⟩, hx⟩
      · rintro ⟨front, x, back, hsplit, hfront, hx⟩
        cases front with
        | nil =>
            obtain ⟨rfl, rfl⟩ := List.cons.inj hsplit
            exact Or.inl hx
        | cons u front =>
            obtain ⟨rfl, rfl⟩ := List.cons.inj hsplit
            rw [List.forall_mem_cons] at hfront
            obtain ⟨⟨y, hz⟩, hfront⟩ := hfront
            refine Or.inr ⟨y, hz, bind_eq_error_iff.mpr (Or.inl ?_)⟩
            exact ih.mpr ⟨front, x, back, rfl, hfront, hx⟩

/-- Only the steps for the elements of the list count. -/
theorem mapM_congr {g : α → Except ε β} (h : ∀ x ∈ xs, f x = g x) : xs.mapM f = xs.mapM g := by
  induction xs with
  | nil => rfl
  | cons x xs ih =>
      obtain ⟨hx, hxs⟩ := List.forall_mem_cons.mp h
      rw [List.mapM_cons, List.mapM_cons, hx, ih hxs]

end MapM

/-- All steps succeed, where none tells an error. -/
theorem mapM_eq_some_iff {f : α → Option β} {xs : List α} {ys : List β} :
    xs.mapM f = some ys ↔ List.Forall₂ (fun x y => f x = some y) xs ys := by
  induction xs generalizing ys with
  | nil =>
      rw [List.mapM_nil, List.forall₂_nil_left_iff]
      exact ⟨fun h => (Option.some.inj h).symm, fun h => h ▸ rfl⟩
  | cons x xs ih =>
      simp only [List.mapM_cons, Option.bind_eq_bind, Option.bind_eq_some_iff,
        List.forall₂_cons_left_iff, ih]
      constructor
      · rintro ⟨y, hx, zs, hxs, h⟩
        exact ⟨y, zs, hx, hxs, (Option.some.inj h).symm⟩
      · rintro ⟨y, zs, hx, hxs, rfl⟩
        exact ⟨y, hx, zs, hxs, rfl⟩

section Partners

variable {R : α → β → Prop} {xs : List α} {ys : List β}

/-- Each element of the first list has its partner in the second. -/
theorem exists_of_forall₂_left (h : List.Forall₂ R xs ys) {x : α} (hx : x ∈ xs) :
    ∃ y ∈ ys, R x y := by
  induction h with
  | nil => exact absurd hx List.not_mem_nil
  | @cons z y xs ys hzy _ ih =>
      obtain rfl | hx := List.mem_cons.mp hx
      · exact ⟨y, List.mem_cons_self, hzy⟩
      · obtain ⟨w, hw, hxw⟩ := ih hx
        exact ⟨w, List.mem_cons_of_mem y hw, hxw⟩

/-- Each element of the second list has its partner in the first. -/
theorem exists_of_forall₂_right (h : List.Forall₂ R xs ys) {y : β} (hy : y ∈ ys) :
    ∃ x ∈ xs, R x y :=
  exists_of_forall₂_left h.flip hy

/-- There is a list of partners if each element has a partner. -/
theorem exists_forall₂_iff : (∃ ys, List.Forall₂ R xs ys) ↔ ∀ x ∈ xs, ∃ y, R x y := by
  constructor
  · rintro ⟨ys, h⟩ x hx
    obtain ⟨y, -, hxy⟩ := exists_of_forall₂_left h hx
    exact ⟨y, hxy⟩
  · intro h
    induction xs with
    | nil => exact ⟨[], .nil⟩
    | cons x xs ih =>
        obtain ⟨⟨y, hxy⟩, hxs⟩ := List.forall_mem_cons.mp h
        obtain ⟨ys, hys⟩ := ih hxs
        exact ⟨y :: ys, .cons hxy hys⟩

/-- Partners that are images have the list of images as partners. -/
theorem forall₂_exists_map_iff {γ : Type} {S : α → γ → Prop} {f : γ → β} :
    List.Forall₂ (fun x y => ∃ z, S x z ∧ f z = y) xs ys ↔
      ∃ zs, List.Forall₂ S xs zs ∧ zs.map f = ys := by
  induction xs generalizing ys with
  | nil => simp [List.forall₂_nil_left_iff, eq_comm]
  | cons x xs ih =>
      simp only [List.forall₂_cons_left_iff, ih]
      constructor
      · rintro ⟨_, _, ⟨z, hz, rfl⟩, ⟨zs, hzs, rfl⟩, rfl⟩
        exact ⟨z :: zs, ⟨z, zs, hz, hzs, rfl⟩, rfl⟩
      · rintro ⟨_, ⟨z, zs, hz, hzs, rfl⟩, rfl⟩
        exact ⟨f z, zs.map f, ⟨z, hz, rfl⟩, ⟨zs, hzs, rfl⟩, rfl⟩

/-- Only the elements of the first list count. -/
theorem forall₂_congr_of_mem {S : α → β → Prop} (h : ∀ x ∈ xs, ∀ y, R x y ↔ S x y) :
    List.Forall₂ R xs ys ↔ List.Forall₂ S xs ys := by
  have hmem : ∀ T : α → β → Prop,
      List.Forall₂ T xs ys ↔ List.Forall₂ (fun x y => x ∈ xs ∧ T x y) xs ys := fun T => by
    rw [List.forall₂_and_left, and_iff_right fun _ hx => hx]
  rw [hmem R, hmem S]
  simp only [and_congr_right_iff.mpr (h _ · _)]

end Partners

/-- The elements up to the first one of a kind, that one included. -/
theorem take_findIdx_cons (p : α → Bool) (x : α) (xs : List α) :
    (x :: xs).take ((x :: xs).findIdx p + 1) =
      if p x then [x] else x :: xs.take (xs.findIdx p + 1) := by
  rw [List.findIdx_cons]
  cases p x <;> simp

/-- Among distinct keys, a key finds its own entry. -/
theorem find?_of_nodup_keys {key : α → String} {xs : List α}
    (h : (xs.map key).Nodup) {x : α} (hx : x ∈ xs) :
    xs.find? (fun y => key y = key x) = some x := by
  induction xs with
  | nil => exact absurd hx List.not_mem_nil
  | cons y xs ih =>
      obtain ⟨hy, hxs⟩ := List.nodup_cons.mp h
      obtain rfl | hx := List.mem_cons.mp hx
      · exact List.find?_cons_of_pos (decide_eq_true rfl)
      · have hne : key y ≠ key x := fun heq => hy (heq ▸ List.mem_map_of_mem hx)
        rw [List.find?_cons_of_neg (by simpa using hne)]
        exact ih hxs hx

end LintVerdict
