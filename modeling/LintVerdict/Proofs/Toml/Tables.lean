import Mathlib.Data.List.Sort
import Mathlib.Data.String.Basic
import LintVerdict.Toml.Reader

/-!
# The keys of tables

No table holds a key twice, and its keys are listed in ascending order. A document is read into a
draft, key by key, so the property is first one of drafts: each change of a draft keeps it, at
whatever depth the change is made. The finished values then have their keys sorted.

## Main definitions

* `Toml.Ordered`: in every table of a value, however deep, the keys ascend.
* `Draft.Distinct`, `Draft.DistinctEntries`: no table of a draft holds a key twice.

## Main results

* `Draft.DistinctEntries.descend`: a change deep in a draft keeps its keys distinct.
* `Draft.Distinct.ordered_toToml`: a finished value has ascending keys.
* `Toml.ordered_of_read?`: so has the table that a document is.
-/

namespace LintVerdict.Toml

/-- In every table of a value, however deep, the keys ascend and none is there twice. -/
inductive Ordered : Toml → Prop
  | text (s : String) : Ordered (.text s)
  | int (n : Int) : Ordered (.int n)
  | float (x : Float) : Ordered (.float x)
  | bool (b : Bool) : Ordered (.bool b)
  | moment (written : String) : Ordered (.moment written)
  | array {items : List Toml} : (∀ v ∈ items, Ordered v) → Ordered (.array items)
  | table {entries : List (String × Toml)} :
      (entries.map Prod.fst).Pairwise (· < ·) → (∀ e ∈ entries, Ordered e.2) →
      Ordered (.table entries)

/-- No table of a draft holds a key twice. -/
inductive Draft.Distinct : Draft → Prop
  | done {v : Toml} : v.Ordered → Distinct (.done v)
  | open {origin : Origin} {entries : List (String × Draft)} :
      (entries.map Prod.fst).Nodup → (∀ e ∈ entries, Distinct e.2) → Distinct (.open origin entries)
  | list {items : List Draft} : (∀ d ∈ items, Distinct d) → Distinct (.list items)

/-- The entries of a table of a draft, and the tables below them, hold no key twice. -/
structure Draft.DistinctEntries (entries : List (String × Draft)) : Prop where
  keys : (entries.map Prod.fst).Nodup
  below : ∀ e ∈ entries, e.2.Distinct

namespace Draft

variable {entries inner : List (String × Draft)} {key : String} {d : Draft} {origin : Origin}
  {path header : List String} {v : Toml}

/-! ### Changes of a draft -/

theorem Distinct.distinctEntries (h : (Draft.open origin entries).Distinct) :
    DistinctEntries entries := by
  cases h with
  | «open» hkeys hbelow => exact ⟨hkeys, hbelow⟩

theorem DistinctEntries.open (h : DistinctEntries entries) (origin : Origin) :
    (Draft.open origin entries).Distinct :=
  .open h.keys h.below

theorem distinctEntries_nil : DistinctEntries [] := ⟨List.nodup_nil, by simp⟩

/-- What is found in a table has no key twice either. -/
theorem DistinctEntries.find (h : DistinctEntries entries) (hd : find? key entries = some d) :
    d.Distinct := by
  obtain ⟨e, he, rfl⟩ := Option.map_eq_some_iff.mp hd
  exact h.below e (List.mem_of_find?_eq_some he)

theorem mem_set {e : String × Draft} (h : e ∈ set key d entries) : e = (key, d) ∨ e ∈ entries := by
  induction entries with
  | nil => exact Or.inl (List.mem_singleton.mp h)
  | cons x entries ih =>
      obtain ⟨k, old⟩ := x
      rw [set] at h
      split at h
      · next hk =>
        subst hk
        exact (List.mem_cons.mp h).imp_right (List.mem_cons_of_mem _)
      · obtain rfl | h := List.mem_cons.mp h
        · exact Or.inr List.mem_cons_self
        · exact (ih h).imp_right (List.mem_cons_of_mem _)

/-- A key that is set is added behind the others, or keeps its place. -/
theorem keys_set (key : String) (d : Draft) (entries : List (String × Draft)) :
    (set key d entries).map Prod.fst =
      if key ∈ entries.map Prod.fst then entries.map Prod.fst
      else entries.map Prod.fst ++ [key] := by
  induction entries with
  | nil => simp [set]
  | cons x entries ih =>
      obtain ⟨k, old⟩ := x
      rw [set]
      by_cases hk : k = key
      · simp [hk]
      · rw [if_neg hk, List.map_cons, ih, List.map_cons]
        have hmem : key ∈ k :: entries.map Prod.fst ↔ key ∈ entries.map Prod.fst := by
          rw [List.mem_cons, or_iff_right (Ne.symm hk)]
        simp only [hmem]
        split <;> rfl

/-- Setting a key keeps the keys distinct. -/
theorem DistinctEntries.set (h : DistinctEntries entries) (hd : d.Distinct) (key : String) :
    DistinctEntries (set key d entries) := by
  refine ⟨?_, fun e he => ?_⟩
  · rw [keys_set]
    split
    · exact h.keys
    · next hkey => exact h.keys.append (List.nodup_singleton key) (by simpa using hkey)
  · obtain rfl | he := mem_set he
    · exact hd
    · exact h.below e he

/-- **A change deep in a draft keeps its keys distinct** if it does so where it is made. -/
theorem DistinctEntries.descend {dotted : Bool}
    {change : Origin → List (String × Draft) → Option (List (String × Draft))}
    (hchange : ∀ origin entries result, DistinctEntries entries →
      change origin entries = some result → DistinctEntries result)
    {result : List (String × Draft)} (h : DistinctEntries entries)
    (hresult : descend? dotted change path origin entries = some result) :
    DistinctEntries result := by
  -- Along the path one key of each table is set to what comes back from below.
  induction path generalizing origin entries result with
  | nil => exact hchange origin entries result h hresult
  | cons key path ih =>
      rw [descend?] at hresult
      split at hresult
      · obtain ⟨inner, hinner, hset⟩ := Option.bind_eq_some_iff.mp hresult
        obtain rfl := Option.some.inj hset
        exact h.set ((ih distinctEntries_nil hinner).open _) key
      · next origin inner hfind =>
        split at hresult
        · exact absurd hresult nofun
        · obtain ⟨changed, hchanged, hset⟩ := Option.bind_eq_some_iff.mp hresult
          obtain rfl := Option.some.inj hset
          exact h.set ((ih (h.find hfind).distinctEntries hchanged).open _) key
      · next items hfind =>
        split at hresult
        · next origin inner before hitems =>
          obtain ⟨changed, hchanged, hset⟩ := Option.bind_eq_some_iff.mp hresult
          obtain rfl := Option.some.inj hset
          have hall : ∀ d ∈ items, d.Distinct := by
            cases h.find hfind with
            | list hall => exact hall
          have hback : ∀ d ∈ Draft.open origin inner :: before, d.Distinct :=
            fun d hd => hall d (List.mem_reverse.mp (hitems ▸ hd))
          obtain ⟨hlast, hbefore⟩ := List.forall_mem_cons.mp hback
          refine h.set (.list fun d hd => ?_) key
          obtain rfl | hd := List.mem_cons.mp (List.mem_reverse.mp hd)
          · exact (ih hlast.distinctEntries hchanged).open _
          · exact hbefore d hd
        · exact absurd hresult nofun
      · exact absurd hresult nofun

theorem DistinctEntries.addDotted (h : DistinctEntries entries) (hv : v.Ordered)
    {result : List (String × Draft)}
    (hresult : addDotted? path key v origin entries = some result) : DistinctEntries result := by
  refine h.descend (fun origin entries result h hresult => ?_) hresult
  split at hresult
  · exact absurd hresult nofun
  · obtain rfl := Option.some.inj hresult
    exact h.set (.done hv) key

theorem DistinctEntries.addKey (h : DistinctEntries entries) (hv : v.Ordered)
    {result : List (String × Draft)} (hresult : addKey? header path key v entries = some result) :
    DistinctEntries result :=
  h.descend (fun _ _ _ h hresult => h.addDotted hv hresult) hresult

theorem DistinctEntries.openTable (h : DistinctEntries entries)
    {result : List (String × Draft)} (hresult : openTable? path key entries = some result) :
    DistinctEntries result := by
  refine h.descend (fun origin entries result h hresult => ?_) hresult
  split at hresult
  · obtain rfl := Option.some.inj hresult
    exact h.set (distinctEntries_nil.open _) key
  · next old hfind =>
    obtain rfl := Option.some.inj hresult
    exact h.set ((h.find hfind).distinctEntries.open _) key
  · exact absurd hresult nofun

theorem DistinctEntries.openElement (h : DistinctEntries entries)
    {result : List (String × Draft)} (hresult : openElement? path key entries = some result) :
    DistinctEntries result := by
  refine h.descend (fun origin entries result h hresult => ?_) hresult
  have hnew : (Draft.open .headed []).Distinct := distinctEntries_nil.open _
  split at hresult
  · obtain rfl := Option.some.inj hresult
    exact h.set (.list (List.forall_mem_singleton.mpr hnew)) key
  · next items hfind =>
    obtain rfl := Option.some.inj hresult
    refine h.set (.list ?_) key
    cases h.find hfind with
    | list hall => exact List.forall_mem_append.mpr ⟨hall, List.forall_mem_singleton.mpr hnew⟩
  · exact absurd hresult nofun

/-! ### Finished values -/

theorem itemsToToml_eq (items : List Draft) : itemsToToml items = items.map toToml := by
  induction items with
  | nil => rfl
  | cons d items ih => rw [itemsToToml, ih, List.map_cons]

theorem entriesToToml_eq (entries : List (String × Draft)) :
    entriesToToml entries = entries.map fun e => (e.1, e.2.toToml) := by
  induction entries with
  | nil => rfl
  | cons e entries ih => rw [entriesToToml, ih, List.map_cons]

/-- Entries with distinct keys, sorted by key, ascend. -/
theorem ascending_mergeSort {entries : List (String × Toml)} (h : (entries.map Prod.fst).Nodup) :
    ((entries.mergeSort fun a b => decide (a.1 ≤ b.1)).map Prod.fst).Pairwise (· < ·) := by
  have hsorted : (entries.mergeSort fun a b => decide (a.1 ≤ b.1)).Pairwise fun a b =>
      decide (a.1 ≤ b.1) :=
    List.pairwise_mergeSort
      (fun a b c hab hbc => by simpa using (of_decide_eq_true hab).trans (of_decide_eq_true hbc))
      (fun a b => by simpa using le_total a.1 b.1) entries
  have hnodup : ((entries.mergeSort fun a b => decide (a.1 ≤ b.1)).map Prod.fst).Nodup :=
    ((List.mergeSort_perm entries _).map Prod.fst).nodup_iff.mpr h
  rw [List.pairwise_map]
  exact hsorted.imp₂ (fun a b hle hne => lt_of_le_of_ne (of_decide_eq_true hle) hne)
    (List.pairwise_map.mp hnodup)

/-- **A finished value has ascending keys** if the keys of its draft are distinct. -/
theorem Distinct.ordered_toToml (h : d.Distinct) : d.toToml.Ordered := by
  induction h with
  | done hv => exact hv
  | @«open» origin entries hkeys _ ih =>
      rw [toToml, entriesToToml_eq]
      refine .table (ascending_mergeSort ?_) fun e he => ?_
      · simpa [Function.comp_def] using hkeys
      · obtain ⟨x, hx, rfl⟩ := List.mem_map.mp (List.mem_mergeSort.mp he)
        exact ih x hx
  | @list items _ ih =>
      rw [toToml, itemsToToml_eq]
      exact .array (List.forall_mem_map.mpr ih)

theorem DistinctEntries.ordered_finish (h : DistinctEntries entries) : (finish entries).Ordered :=
  (h.open .headed).ordered_toToml

end Draft

/-! ### Reading -/

open Draft (DistinctEntries distinctEntries_nil)

theorem ordered_of_decimal? {negative : Bool} {cs : List Char} {v : Toml}
    (h : decimal? negative cs = some v) : v.Ordered := by
  unfold decimal? at h
  dsimp only at h
  split at h
  all_goals
    obtain ⟨exp, -, h⟩ := Option.bind_eq_some_iff.mp h
    split at h
  all_goals
    obtain ⟨frac, -, h⟩ := Option.bind_eq_some_iff.mp h
    obtain ⟨digits, -, h⟩ := Option.bind_eq_some_iff.mp h
    split at h
    · exact absurd h nofun
    · exact Option.some.inj h ▸ .float _

theorem ordered_of_number? {negative : Bool} {cs : List Char} {v : Toml}
    (h : number? negative cs = some v) : v.Ordered := by
  rw [number?] at h
  split at h
  · exact ordered_of_decimal? h
  · obtain ⟨ds, -, rfl⟩ := Option.map_eq_some_iff.mp h
    exact .int _

theorem ordered_of_signed? {negative : Bool} {cs : List Char} {v : Toml}
    (h : signed? negative cs = some v) : v.Ordered := by
  unfold signed? at h
  split at h
  · exact Option.some.inj h ▸ .float _
  · exact Option.some.inj h ▸ .float _
  · exact ordered_of_number? h

theorem ordered_of_based? {base : Nat} {cs : List Char} {v : Toml} (h : based? base cs = some v) :
    v.Ordered := by
  obtain ⟨ds, -, rfl⟩ := Option.map_eq_some_iff.mp h
  exact .int _

theorem ordered_of_moment? {cs : List Char} {v : Toml} (h : moment? cs = some v) : v.Ordered := by
  obtain ⟨-, h⟩ := Option.ite_none_right_eq_some.mp h
  exact Option.some.inj h ▸ .moment _

/-- A word holds no table. -/
theorem ordered_of_scalar? {cs : List Char} {v : Toml} (h : scalar? cs = some v) : v.Ordered := by
  unfold scalar? at h
  split at h
  · exact Option.some.inj h ▸ .bool _
  · exact Option.some.inj h ▸ .bool _
  · exact ordered_of_based? h
  · exact ordered_of_based? h
  · exact ordered_of_based? h
  · exact ordered_of_signed? h
  · exact ordered_of_signed? h
  · rw [Option.orElse_eq_or, Option.or_eq_some_iff] at h
    obtain h | ⟨-, h⟩ := h
    · exact ordered_of_signed? h
    · exact ordered_of_moment? h

/-- Values, the elements of lists and the keys between braces are read with ascending keys. -/
theorem ordered_of_readValue (budget : Nat) :
    (∀ cs v rest, readValue budget cs = some (v, rest) → v.Ordered) ∧
      (∀ acc cs v rest, (∀ x ∈ acc, x.Ordered) → readItems budget acc cs = some (v, rest) →
        v.Ordered) ∧
      ∀ entries cs v rest, DistinctEntries entries →
        readFields budget entries cs = some (v, rest) → v.Ordered := by
  -- The three readers call each other with one step less, so one induction serves them all.
  induction budget with
  | zero => exact ⟨nofun, nofun, nofun⟩
  | succ budget ih =>
      obtain ⟨hvalue, hitems, hfields⟩ := ih
      refine ⟨fun cs v rest h => ?_, fun acc cs v rest hacc h => ?_,
        fun entries cs v rest hentries h => ?_⟩
      · unfold readValue at h
        split at h
        · exact hitems _ _ _ _ (by simp) h
        · exact hfields _ _ _ _ distinctEntries_nil h
        · obtain ⟨x, -, hx⟩ := Option.map_eq_some_iff.mp h
          exact (Prod.mk.inj hx).1 ▸ .text _
        · obtain ⟨x, -, hx⟩ := Option.map_eq_some_iff.mp h
          exact (Prod.mk.inj hx).1 ▸ .text _
        · obtain ⟨x, hword, hx⟩ := Option.map_eq_some_iff.mp h
          exact (Prod.mk.inj hx).1 ▸ ordered_of_scalar? hword
      · have hdone : ∀ xs : List Toml, (∀ x ∈ xs, x.Ordered) → (array xs.reverse).Ordered :=
          fun xs hxs => .array fun x hx => hxs x (List.mem_reverse.mp hx)
        rw [readItems] at h
        split at h
        · exact (Prod.mk.inj (Option.some.inj h)).1 ▸ hdone acc hacc
        · split at h
          · exact absurd h nofun
          · next x rest' hx =>
            have hcons : ∀ y ∈ x :: acc, y.Ordered :=
              List.forall_mem_cons.mpr ⟨hvalue _ _ _ hx, hacc⟩
            split at h
            · exact hitems _ _ _ _ hcons h
            · exact (Prod.mk.inj (Option.some.inj h)).1 ▸ hdone _ hcons
            · exact absurd h nofun
      · rw [readFields] at h
        split at h
        · exact (Prod.mk.inj (Option.some.inj h)).1 ▸ hentries.ordered_finish
        · split at h
          · split at h
            · exact absurd h nofun
            · next x rest' hx =>
              dsimp only at h
              split at h
              · exact absurd h nofun
              · next changed hchanged =>
                have hchanged := hentries.addKey (hvalue _ _ _ hx) hchanged
                split at h
                · exact hfields _ _ _ _ hchanged h
                · exact (Prod.mk.inj (Option.some.inj h)).1 ▸ hchanged.ordered_finish
                · exact absurd h nofun
          · exact absurd h nofun

namespace Document

variable {d d' : Document} {cs rest : List Char}

/-- A header keeps the keys distinct. -/
theorem distinct_of_readHeader? (hd : DistinctEntries d.entries)
    (h : d.readHeader? cs = some (d', rest)) : DistinctEntries d'.entries := by
  unfold readHeader? at h
  split at h
  all_goals
    obtain ⟨⟨parts, back⟩, -, h⟩ := Option.bind_eq_some_iff.mp h
    split at h
  · obtain ⟨changed, hchanged, h⟩ := Option.bind_eq_some_iff.mp h
    rw [← (Prod.mk.inj (Option.some.inj h)).1]
    exact hd.openElement hchanged
  · exact absurd h nofun
  · obtain ⟨changed, hchanged, h⟩ := Option.bind_eq_some_iff.mp h
    rw [← (Prod.mk.inj (Option.some.inj h)).1]
    exact hd.openTable hchanged
  · exact absurd h nofun

/-- A key with its value keeps the keys distinct. -/
theorem distinct_of_readPair? (hd : DistinctEntries d.entries)
    (h : d.readPair? cs = some (d', rest)) : DistinctEntries d'.entries := by
  obtain ⟨⟨parts, back⟩, -, h⟩ := Option.bind_eq_some_iff.mp h
  split at h
  · obtain ⟨⟨v, back⟩, hv, h⟩ := Option.bind_eq_some_iff.mp h
    obtain ⟨changed, hchanged, h⟩ := Option.bind_eq_some_iff.mp h
    rw [← (Prod.mk.inj (Option.some.inj h)).1]
    exact hd.addKey ((ordered_of_readValue _).1 _ _ _ hv) hchanged
  · exact absurd h nofun

/-- **Reading lines keeps the keys distinct.** -/
theorem distinct_of_read? {budget : Nat} (hd : DistinctEntries d.entries)
    (h : read? budget d cs = some d') : DistinctEntries d'.entries := by
  induction budget generalizing d cs with
  | zero => exact absurd h nofun
  | succ budget ih =>
      unfold read? at h
      split at h
      · exact Option.some.inj h ▸ hd
      · exact ih hd h
      · split at h
        all_goals
          obtain ⟨⟨next, back⟩, hline, h⟩ := Option.bind_eq_some_iff.mp h
          obtain ⟨after, -, h⟩ := Option.bind_eq_some_iff.mp h
        · exact ih (distinct_of_readHeader? hd hline) h
        · exact ih (distinct_of_readPair? hd hline) h

end Document

/-- **The table that a document is has ascending keys**, and so has every table in it. -/
theorem ordered_of_read? {document : String} {v : Toml} (h : read? document = some v) :
    v.Ordered := by
  obtain ⟨d, hd, rfl⟩ := Option.map_eq_some_iff.mp h
  exact (Document.distinct_of_read? distinctEntries_nil hd).ordered_finish

/-- A document is a table. -/
theorem exists_entries_of_read? {document : String} {v : Toml} (h : read? document = some v) :
    ∃ entries, v = .table entries := by
  obtain ⟨d, -, rfl⟩ := Option.map_eq_some_iff.mp h
  exact ⟨_, by rw [Draft.finish, Draft.toToml]⟩

end LintVerdict.Toml
