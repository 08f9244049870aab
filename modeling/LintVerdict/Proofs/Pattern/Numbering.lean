import LintVerdict.Pattern.Output

/-!
# The numbers of groups

The groups of a pattern are numbered from one, in the order of their opening parentheses. Number
zero is left to the whole match, so no group of a pattern that has been read overwrites the places
between which it was matched.

## Main definitions

* `Expr.groups`: the numbers of the groups of a written pattern.
* `Reader.Draft.Numbered`: nothing read so far has a group with number zero.

## Main results

* `Expr.groups_of_regexWith?`: working in the flags makes up no group.
* `Reader.Draft.Numbered.loop`: the reader numbers no group zero.
* `OutputPattern.zero_notMem_groups`: no group of a usable pattern has the number zero.
-/

namespace LintVerdict

namespace Pattern

/-- The numbers of the groups of a written pattern. -/
def Expr.groups : Expr → List Nat
  | repeated _ _ _ e => e.groups
  | group i e => i :: e.groups
  | flagged _ e => e.groups
  | alt a b => a.groups ++ b.groups
  | cat a b => a.groups ++ b.groups
  | _ => []

variable {r : Regex} {n k : Nat}

/-! ### Repetitions -/

namespace Regex

theorem groups_optional (greedy : Bool) (r : Regex) : (optional greedy r).groups = r.groups := by
  cases greedy <;> simp [optional, groups]

theorem groups_star (greedy : Bool) (r : Regex) : (star greedy r).groups = r.groups := by
  rw [star, groups_optional, groups]

theorem groups_times (h : n ∈ (times r k).groups) : n ∈ r.groups := by
  induction k with
  | zero => exact absurd h List.not_mem_nil
  | succ k ih =>
      cases k with
      | zero => exact h
      | succ k =>
          rw [times, groups, List.mem_append] at h
          exact h.elim id ih

theorem groups_upTo {greedy : Bool} (h : n ∈ (upTo greedy r k).groups) : n ∈ r.groups := by
  induction k with
  | zero => exact absurd h List.not_mem_nil
  | succ k ih =>
      cases k with
      | zero => rwa [upTo, groups_optional] at h
      | succ k =>
          rw [upTo, groups_optional, groups, List.mem_append] at h
          exact h.elim id ih

theorem groups_atLeast {greedy : Bool} (h : n ∈ (atLeast greedy r k).groups) :
    n ∈ r.groups := by
  induction k with
  | zero => rwa [atLeast, groups_star] at h
  | succ k ih =>
      cases k with
      | zero => exact h
      | succ k =>
          rw [atLeast, groups, List.mem_append] at h
          exact h.elim id ih

/-- A repetition has no groups but those of what it repeats. -/
theorem groups_repeated {min : Nat} {max : Option Nat} {greedy : Bool}
    (h : n ∈ (r.repeated min max greedy).groups) : n ∈ r.groups := by
  unfold repeated at h
  split at h
  · exact absurd h List.not_mem_nil
  split at h
  · split at h
    · rwa [groups_optional] at h
    · exact h
  split at h
  · exact groups_atLeast h
  split at h
  · exact groups_times h
  split at h
  · exact groups_upTo h
  · rw [groups, List.mem_append] at h
    exact h.elim groups_times groups_upTo

end Regex

/-! ### Flags -/

/-- **Working in the flags makes up no group.** -/
theorem Expr.groups_of_regexWith? {e : Expr} {f f' : Flags}
    (h : e.regexWith? f = some (r, f')) (hn : n ∈ r.groups) : n ∈ e.groups := by
  induction e generalizing f f' r with
  | empty | flags _ | assertion _ =>
      obtain ⟨rfl, -⟩ := Prod.mk.inj (Option.some.inj h)
      exact absurd hn List.not_mem_nil
  | char c byte =>
      rw [regexWith?, Option.map_eq_some_iff] at h
      obtain ⟨s, -, hs⟩ := h
      obtain ⟨rfl, -⟩ := Prod.mk.inj hs
      exact absurd hn List.not_mem_nil
  | dot =>
      rw [regexWith?] at h
      split at h
      · obtain ⟨rfl, -⟩ := Prod.mk.inj (Option.some.inj h)
        exact absurd hn List.not_mem_nil
      · simp at h
  | cls s =>
      rw [regexWith?, Option.map_eq_some_iff] at h
      obtain ⟨s, -, hs⟩ := h
      obtain ⟨rfl, -⟩ := Prod.mk.inj hs
      exact absurd hn List.not_mem_nil
  | repeated min max greedy e ih =>
      rw [regexWith?, Option.bind_eq_bind, Option.bind_eq_some_iff] at h
      obtain ⟨⟨q, _⟩, hq, hr⟩ := h
      obtain ⟨rfl, -⟩ := Prod.mk.inj (Option.some.inj hr)
      exact ih hq (Regex.groups_repeated hn)
  | group i e ih =>
      rw [regexWith?, Option.bind_eq_bind, Option.bind_eq_some_iff] at h
      obtain ⟨⟨q, _⟩, hq, hr⟩ := h
      obtain ⟨rfl, -⟩ := Prod.mk.inj (Option.some.inj hr)
      rw [Regex.groups, List.mem_cons] at hn
      exact List.mem_cons.mpr (hn.imp_right (ih hq))
  | flagged c e ih =>
      rw [regexWith?, Option.bind_eq_bind, Option.bind_eq_some_iff] at h
      obtain ⟨⟨q, _⟩, hq, hr⟩ := h
      obtain ⟨rfl, -⟩ := Prod.mk.inj (Option.some.inj hr)
      exact ih hq hn
  | alt a b iha ihb | cat a b iha ihb =>
      rw [regexWith?, Option.bind_eq_bind, Option.bind_eq_some_iff] at h
      obtain ⟨⟨ra, fa⟩, ha, h⟩ := h
      dsimp only at h
      rw [Option.bind_eq_some_iff] at h
      obtain ⟨⟨rb, fb⟩, hb, hr⟩ := h
      obtain ⟨rfl, -⟩ := Prod.mk.inj (Option.some.inj hr)
      rw [Regex.groups, List.mem_append] at hn
      exact List.mem_append.mpr (hn.imp (iha ha) (ihb hb))

/-! ### The reader -/

namespace Expr

theorem groups_sequence {es : List Expr} (h : n ∈ (sequence es).groups) :
    ∃ e ∈ es, n ∈ e.groups := by
  induction es with
  | nil => exact absurd h List.not_mem_nil
  | cons e es ih =>
      cases es with
      | nil => exact ⟨e, List.mem_cons_self, h⟩
      | cons e' es =>
          rw [sequence, groups, List.mem_append] at h
          · obtain h | h := h
            · exact ⟨e, List.mem_cons_self, h⟩
            · exact (ih h).imp fun _ he => ⟨List.mem_cons_of_mem e he.1, he.2⟩
          · simp

theorem groups_choice {es : List Expr} (h : n ∈ (choice es).groups) :
    ∃ e ∈ es, n ∈ e.groups := by
  induction es with
  | nil => exact absurd h List.not_mem_nil
  | cons e es ih =>
      cases es with
      | nil => exact ⟨e, List.mem_cons_self, h⟩
      | cons e' es =>
          rw [choice, groups, List.mem_append] at h
          · obtain h | h := h
            · exact ⟨e, List.mem_cons_self, h⟩
            · exact (ih h).imp fun _ he => ⟨List.mem_cons_of_mem e he.1, he.2⟩
          · simp

end Expr

namespace Reader

/-- No part of a list has a group with number zero. -/
def Numbered (es : List Expr) : Prop := ∀ e ∈ es, 0 ∉ e.groups

theorem numbered_cons {e : Expr} {es : List Expr} :
    Numbered (e :: es) ↔ 0 ∉ e.groups ∧ Numbered es :=
  List.forall_mem_cons

/-- An open group whose surroundings have no group with number zero, and which is not numbered
zero itself. -/
structure Frame.Numbered (f : Frame) : Prop where
  alts : Reader.Numbered f.alts
  items : Reader.Numbered f.items
  close : ∀ e : Expr, 0 ∉ e.groups → 0 ∉ (f.close e).groups

namespace Draft

/-- Nothing read so far has a group with number zero. -/
structure Numbered (d : Draft) : Prop where
  stack : ∀ f ∈ d.stack, f.Numbered
  alts : Reader.Numbered d.alts
  items : Reader.Numbered d.items

variable {d d' : Draft} {e : Expr} {cs rest : List Char}

theorem numbered_start : start.Numbered :=
  ⟨List.forall_mem_nil _, List.forall_mem_nil _, List.forall_mem_nil _⟩

namespace Numbered

theorem sequence (h : d.Numbered) : 0 ∉ (Expr.sequence d.items.reverse).groups := by
  intro hmem
  obtain ⟨e, he, hzero⟩ := Expr.groups_sequence hmem
  exact h.items e (List.mem_reverse.mp he) hzero

theorem content (h : d.Numbered) : 0 ∉ d.content.groups := by
  intro hmem
  obtain ⟨e, he, hzero⟩ := Expr.groups_choice hmem
  obtain rfl | he := List.mem_cons.mp (List.mem_reverse.mp he)
  · exact h.sequence hzero
  · exact h.alts e he hzero

theorem push (h : d.Numbered) (he : 0 ∉ e.groups) : (d.push e).Numbered :=
  ⟨h.stack, h.alts, numbered_cons.mpr ⟨he, h.items⟩⟩

theorem bar (h : d.Numbered) :
    Numbered { d with alts := Expr.sequence d.items.reverse :: d.alts, items := [] } :=
  ⟨h.stack, numbered_cons.mpr ⟨h.sequence, h.alts⟩, List.forall_mem_nil _⟩

theorem opened (h : d.Numbered) {close : Expr → Expr} {free : Bool}
    (hclose : ∀ e : Expr, 0 ∉ e.groups → 0 ∉ (close e).groups) :
    (d.opened close free).Numbered :=
  ⟨List.forall_mem_cons.mpr ⟨⟨h.alts, h.items, hclose⟩, h.stack⟩, List.forall_mem_nil _,
    List.forall_mem_nil _⟩

theorem openedGroup (h : d.Numbered) : d.openedGroup.Numbered := by
  have hopened : (d.opened (.group (d.groups + 1)) d.free).Numbered := by
    refine h.opened fun e he hmem => ?_
    obtain hzero | hmem := List.mem_cons.mp hmem
    · exact absurd hzero (by simp)
    · exact he hmem
  exact ⟨hopened.stack, hopened.alts, hopened.items⟩

theorem closed? (h : d.Numbered) (hd : d.closed? = some d') : d'.Numbered := by
  rw [Draft.closed?] at hd
  split at hd
  · simp at hd
  · next f stack hstack =>
    obtain rfl := Option.some.inj hd
    have hf := h.stack f (by rw [hstack]; exact List.mem_cons_self)
    exact ⟨fun g hg => h.stack g (by rw [hstack]; exact List.mem_cons_of_mem f hg), hf.alts,
      numbered_cons.mpr ⟨hf.close _ h.content, hf.items⟩⟩

theorem repeated? (h : d.Numbered) {min : Nat} {max : Option Nat} {greedy : Bool}
    (hd : d.repeated? min max greedy = some d') : d'.Numbered := by
  rw [Draft.repeated?] at hd
  split at hd
  · simp at hd
  · simp at hd
  · simp at hd
  · next e items _ _ hitems =>
    obtain rfl := Option.some.inj hd
    have hnumbered := h.items
    rw [hitems, numbered_cons] at hnumbered
    exact ⟨h.stack, h.alts, numbered_cons.mpr hnumbered⟩

theorem named? (h : d.Numbered) (hd : d.named? cs = some (d', rest)) : d'.Numbered := by
  rw [Draft.named?] at hd
  split at hd
  · dsimp only at hd
    split at hd
    · obtain ⟨rfl, -⟩ := Prod.mk.inj (Option.some.inj hd)
      exact ⟨h.openedGroup.stack, h.openedGroup.alts, h.openedGroup.items⟩
    · simp at hd
  · simp at hd

theorem open? (h : d.Numbered) (hd : d.open? cs = some (d', rest)) : d'.Numbered := by
  rw [Draft.open?] at hd
  split at hd
  · simp at hd
  · simp at hd
  · simp at hd
  · simp at hd
  · exact h.named? hd
  · exact h.named? hd
  · rw [Option.bind_eq_bind, Option.bind_eq_some_iff] at hd
    obtain ⟨⟨items, after⟩, -, hd⟩ := hd
    dsimp only at hd
    split at hd
    · split at hd
      · simp at hd
      · obtain ⟨rfl, -⟩ := Prod.mk.inj (Option.some.inj hd)
        have hpush := h.push (e := .flags (change items)) List.not_mem_nil
        exact ⟨hpush.stack, hpush.alts, hpush.items⟩
    · obtain ⟨rfl, -⟩ := Prod.mk.inj (Option.some.inj hd)
      exact h.opened fun e he => he
    · simp at hd
  · obtain ⟨rfl, -⟩ := Prod.mk.inj (Option.some.inj hd)
    exact h.openedGroup

theorem atom (h : d.Numbered) (a : Atom) : (d.push a.expr).Numbered := by
  cases a <;> exact h.push List.not_mem_nil

/-- **The reader numbers no group zero.** -/
theorem loop (h : d.Numbered) {b : Nat} (hd : Reader.loop b d cs = some d') : d'.Numbered := by
  induction b generalizing d cs with
  | zero => simp [Reader.loop] at hd
  | succ b ih =>
      rw [Reader.loop] at hd
      split at hd
      · obtain rfl := Option.some.inj hd
        exact h
      · split at hd
        · next hopen => exact ih (h.open? hopen) hd
        · simp at hd
      · split at hd
        · next hclosed => exact ih (h.closed? hclosed) hd
        · simp at hd
      · exact ih h.bar hd
      · split at hd
        · exact ih (h.push List.not_mem_nil) hd
        · simp at hd
      · split at hd
        split at hd
        · next hrepeated => exact ih (h.repeated? hrepeated) hd
        · simp at hd
      · split at hd
        split at hd
        · next hrepeated => exact ih (h.repeated? hrepeated) hd
        · simp at hd
      · split at hd
        split at hd
        · next hrepeated => exact ih (h.repeated? hrepeated) hd
        · simp at hd
      · split at hd
        · split at hd
          · next hrepeated => exact ih (h.repeated? hrepeated) hd
          · simp at hd
        · simp at hd
      · split at hd
        · exact ih (h.atom _) hd
        · simp at hd
      · exact ih (h.push List.not_mem_nil) hd
      · exact ih (h.push List.not_mem_nil) hd
      · exact ih (h.push List.not_mem_nil) hd
      · exact ih (h.push List.not_mem_nil) hd

end Numbered

end Draft

end Reader

/-- A pattern that has been read has no group with number zero. -/
theorem ReadPattern.zero_notMem_groups {pattern : String} {read : ReadPattern}
    (h : ReadPattern.ofText? pattern = some read) : 0 ∉ read.expr.groups := by
  rw [ofText?] at h
  dsimp only at h
  split at h
  · simp at h
  · next d hloop =>
    split at h
    · obtain rfl := Option.some.inj h
      exact (Reader.Draft.numbered_start.loop hloop).content
    · simp at h

end Pattern

/-- **No group of a usable pattern has the number zero.** -/
theorem OutputPattern.zero_notMem_groups {declared : String} {p : OutputPattern}
    (h : OutputPattern.parse declared = .ok p) : 0 ∉ p.regex.groups := by
  delta parse at h
  split at h
  · simp at h
  · next regex names hcompile =>
    rw [compile] at hcompile
    split at hcompile
    · simp at hcompile
    · next read hread =>
      split at hcompile
      · simp at hcompile
      · next regex' hregex =>
        obtain ⟨⟨r, f⟩, hmeans, rfl⟩ := Option.map_eq_some_iff.mp hregex
        have hread := Pattern.ReadPattern.zero_notMem_groups hread
        have hzero : 0 ∉ r.groups := fun hmem =>
          hread (Pattern.Expr.groups_of_regexWith? hmeans hmem)
        split at hcompile
        · simp at hcompile
        · obtain ⟨rfl, -⟩ := Prod.mk.inj (Except.ok.inj hcompile)
          split at h
          · obtain rfl := Except.ok.inj h
            exact hzero
          · simp at h

end LintVerdict
