import Mathlib.Algebra.Ring.Int.Defs
import Mathlib.Data.List.Find
import LintVerdict.Config
import LintVerdict.Proofs.FirstError
import LintVerdict.Proofs.Toml.Tables

/-!
# The keys of a record

A record is a table with known keys. Each key has values of one type, and some may be left out. The
file tells what values and keys mean without the readers, and shows that the readers do this.

## Main definitions

* `Toml.MeansText`, `Toml.MeansTexts`, `Toml.MeansBool`, `Toml.MeansBelow`, `Toml.MeansNumber`,
  `Toml.MeansTarget`: what a value means.
* `Toml.Keyed`: what a key of a table stands for.

## Main results

* `Toml.withDefault?_eq_some_iff`, `Toml.optional?_eq_some_iff`: a key is read as what it stands
  for.
* `Toml.withDefault?_filter`: without a key there is the default.
-/

namespace LintVerdict

namespace Toml

/-! ### What values mean -/

/-- A text. -/
def MeansText (v : Toml) (s : String) : Prop := v = .text s

/-- A list of texts. -/
def MeansTexts (v : Toml) (ts : List String) : Prop := v = .array (ts.map .text)

/-- A truth value. -/
def MeansBool (v : Toml) (b : Bool) : Prop := v = .bool b

/-- A natural number below a bound. -/
def MeansBelow (bound : Nat) (v : Toml) (n : Nat) : Prop := v = .int n ∧ n < bound

/-- A float, or the float nearest to a whole number that fits into a machine word. -/
def MeansNumber (v : Toml) (x : Float) : Prop :=
  v = .float x ∨ ∃ n : Int, v = .int n ∧ -2 ^ 63 ≤ n ∧ n < 2 ^ 64 ∧
    x = Decimal.Numeral.toFloat ⟨decide (n < 0), n.natAbs, 0⟩

/-- The word of a target style. -/
def MeansTarget (v : Toml) (t : TargetStyle) : Prop := v = .text t.name

section Readers

variable {v : Toml}

theorem text?_eq_some_iff {s : String} : text? v = some s ↔ v.MeansText s := by
  cases v <;> simp [text?, MeansText]

theorem bool?_eq_some_iff {b : Bool} : bool? v = some b ↔ v.MeansBool b := by
  cases v <;> simp [bool?, MeansBool]

theorem texts?_eq_some_iff {ts : List String} : texts? v = some ts ↔ v.MeansTexts ts := by
  cases v with
  | array items =>
      rw [texts?, mapM_eq_some_iff, MeansTexts, array.injEq, ← List.forall₂_eq_eq_eq,
        List.forall₂_map_right_iff]
      simp only [text?_eq_some_iff, MeansText]
  | _ => simp [texts?, MeansTexts]

theorem below?_eq_some_iff {bound n : Nat} : below? bound v = some n ↔ v.MeansBelow bound n := by
  cases v with
  | int m =>
      simp only [below?, MeansBelow, int.injEq]
      split <;> simp <;> omega
  | _ => simp [below?, MeansBelow]

theorem number_eq_some_iff {x : Float} : number v = some x ↔ v.MeansNumber x := by
  cases v with
  | float y => simp [number, MeansNumber]
  | int m =>
      have hword : ((Decimal.word64 : Nat) : Int) = 2 ^ 64 := by
        decide
      have hbounds : (-9223372036854775808 ≤ m ∧ m < 2 ^ 64) ↔ -2 ^ 63 ≤ m ∧ m < 2 ^ 64 := by
        omega
      simp only [number, MeansNumber, hword, hbounds, reduceCtorEq, false_or, int.injEq]
      by_cases h : -2 ^ 63 ≤ m ∧ m < 2 ^ 64
      · rw [if_pos h, Option.some.injEq]
        constructor
        · exact fun hx => ⟨m, rfl, h.1, h.2, hx.symm⟩
        · rintro ⟨n, rfl, -, -, rfl⟩
          rfl
      · rw [if_neg h]
        refine iff_of_false nofun ?_
        rintro ⟨n, rfl, hlow, hhigh, -⟩
        exact h ⟨hlow, hhigh⟩
  | _ => simp [number, MeansNumber]

/-- A number is a float or a whole number that fits into a machine word. -/
theorem exists_meansNumber_iff :
    (∃ x, v.MeansNumber x) ↔
      (∃ x, v = .float x) ∨ ∃ n : Int, v = .int n ∧ -2 ^ 63 ≤ n ∧ n < 2 ^ 64 := by
  constructor
  · rintro ⟨x, hx | ⟨n, hn, hlow, hhigh, -⟩⟩
    · exact Or.inl ⟨x, hx⟩
    · exact Or.inr ⟨n, hn, hlow, hhigh⟩
  · rintro (⟨x, hx⟩ | ⟨n, hn, hlow, hhigh⟩)
    · exact ⟨x, Or.inl hx⟩
    · exact ⟨_, Or.inr ⟨n, hn, hlow, hhigh, rfl⟩⟩

/-- The texts for a target style are the words of the two. -/
theorem exists_meansTarget_iff :
    (∃ t, v.MeansTarget t) ↔ v = .text "path" ∨ v = .text "go-files" := by
  constructor
  · rintro ⟨_ | _, h⟩
    · exact Or.inl h
    · exact Or.inr h
  · rintro (h | h)
    · exact ⟨.path, h⟩
    · exact ⟨.goFiles, h⟩

/-- A text is read as the target style that it is the word of. -/
theorem target?_text_eq_some_iff {s : String} {t : TargetStyle} :
    target? (.text s) = some t ↔ (Toml.text s).MeansTarget t := by
  rw [target?, TargetStyle.ofName?, MeansTarget, text.injEq]
  constructor
  · intro h
    simpa [eq_comm] using List.find?_some h
  · rintro rfl
    cases t <;> rfl

end Readers

/-! ### What keys stand for -/

/-- What a key stands for: what its value means, or a default if there is no such key. -/
inductive Keyed {α : Type} (entries : List (String × Toml)) (key : String) (default : α)
    (means : Toml → α → Prop) : α → Prop
  | written {v : Toml} {a : α} : (key, v) ∈ entries → means v a →
      Keyed entries key default means a
  | missing : key ∉ entries.map Prod.fst → Keyed entries key default means default

/-- A value means something, and is not left out. -/
def Given {α : Type} (means : Toml → α → Prop) (v : Toml) (o : Option α) : Prop :=
  ∃ a, o = some a ∧ means v a

section Keys

variable {α : Type} {entries : List (String × Toml)} {key : String} {default : α}
  {read : Toml → Option α} {means : Toml → α → Prop} {v : Toml}

theorem Ordered.nodup (h : (Toml.table entries).Ordered) : (entries.map Prod.fst).Nodup := by
  cases h with
  | table hkeys _ => exact hkeys.imp ne_of_lt

theorem Ordered.value (h : (Toml.table entries).Ordered) (hv : (key, v) ∈ entries) :
    v.Ordered := by
  cases h with
  | table _ hvalues => exact hvalues _ hv

/-- Where no key occurs twice, the value of a key is found under it. -/
theorem get?_eq_some_iff (hkeys : (entries.map Prod.fst).Nodup) :
    get? key entries = some v ↔ (key, v) ∈ entries := by
  constructor
  · intro h
    obtain ⟨⟨k, w⟩, hfind, rfl⟩ := Option.map_eq_some_iff.mp h
    obtain rfl : k = key := by simpa using List.find?_some hfind
    exact List.mem_of_find?_eq_some hfind
  · intro h
    rw [get?, find?_of_nodup_keys hkeys h]
    rfl

theorem get?_eq_none_iff : get? key entries = none ↔ key ∉ entries.map Prod.fst := by
  rw [get?, Option.map_eq_none_iff, List.find?_eq_none, List.mem_map, not_exists]
  simp only [decide_eq_true_eq, not_and]

/-- **A key is read as what it stands for** if its value is read as what it means. -/
theorem withDefault?_eq_some_iff (hkeys : (entries.map Prod.fst).Nodup)
    (hread : ∀ v, (key, v) ∈ entries → ∀ a, read v = some a ↔ means v a) {a : α} :
    withDefault? entries key read default = some a ↔ Keyed entries key default means a := by
  -- With distinct keys, what is found under a key is all that is written under it.
  rw [withDefault?]
  cases hget : get? key entries with
  | none =>
      have hmissing := get?_eq_none_iff.mp hget
      constructor
      · intro h
        exact Option.some.inj h ▸ .missing hmissing
      · rintro (⟨hv, -⟩ | -)
        · exact absurd (List.mem_map_of_mem hv) hmissing
        · rfl
  | some v =>
      have hv := (get?_eq_some_iff hkeys).mp hget
      constructor
      · exact fun h => .written hv ((hread v hv a).mp h)
      · rintro (⟨hw, hmeans⟩ | hmissing)
        · obtain rfl := Option.some.inj (hget.symm.trans ((get?_eq_some_iff hkeys).mpr hw))
          exact (hread v hv a).mpr hmeans
        · exact absurd (List.mem_map_of_mem hv) hmissing

/-- A key that may be left out is one with a default. -/
theorem optional?_eq (entries : List (String × Toml)) (key : String) (read : Toml → Option α) :
    optional? entries key read = withDefault? entries key (fun v => (read v).map some) none := by
  rw [optional?, withDefault?]

theorem optional?_eq_some_iff (hkeys : (entries.map Prod.fst).Nodup)
    (hread : ∀ v a, read v = some a ↔ means v a) {o : Option α} :
    optional? entries key read = some o ↔ Keyed entries key none (Given means) o := by
  rw [optional?_eq]
  refine withDefault?_eq_some_iff hkeys fun v _ o => ?_
  simp only [Option.map_eq_some_iff, Given, hread]
  exact exists_congr fun a => by rw [and_comm, eq_comm]

/-- A key stands for something if its value means something. -/
theorem exists_keyed (h : ∀ v, (key, v) ∈ entries → ∃ a, means v a) :
    ∃ a, Keyed entries key default means a := by
  by_cases hkey : key ∈ entries.map Prod.fst
  · obtain ⟨⟨_, v⟩, hv, rfl⟩ := List.mem_map.mp hkey
    obtain ⟨a, ha⟩ := h v hv
    exact ⟨a, .written hv ha⟩
  · exact ⟨default, .missing hkey⟩

/-- A value that means something means something given. -/
theorem exists_keyed_given (h : ∀ v, (key, v) ∈ entries → ∃ a, means v a) :
    ∃ o, Keyed entries key none (Given means) o :=
  exists_keyed fun v hv => (h v hv).imp' some fun a ha => ⟨a, rfl, ha⟩

theorem Given.exists {o : Option α} (h : Given means v o) : ∃ a, means v a :=
  h.imp fun _ ha => ha.2

/-- What a key stands for is what its value means. -/
theorem Keyed.means_of_mem {a : α} (h : Keyed entries key default means a)
    (hkeys : (entries.map Prod.fst).Nodup) (hv : (key, v) ∈ entries) : means v a := by
  cases h with
  | written hw hmeans =>
      have hget := ((get?_eq_some_iff hkeys).mpr hw).symm.trans ((get?_eq_some_iff hkeys).mpr hv)
      exact Option.some.inj hget ▸ hmeans
  | missing hmissing => exact absurd (List.mem_map_of_mem hv) hmissing

/-- A key that is left out is not found, and the other keys are. -/
theorem get?_filter (key' : String) :
    get? key (entries.filter fun e => e.1 ≠ key') =
      if key = key' then none else get? key entries := by
  rw [get?, List.find?_filter]
  split
  · next h =>
    subst h
    simp [List.find?_eq_none]
  · next h =>
    refine congrArg _ (List.find?_congr fun e _ => ?_)
    by_cases he : e.1 = key
    · simp [he, h]
    · simp [he]

/-- Without a key there is the default, and the other keys are read as before. -/
theorem withDefault?_filter (key' : String) :
    withDefault? (entries.filter fun e => e.1 ≠ key') key read default =
      if key = key' then some default else withDefault? entries key read default := by
  rw [withDefault?, get?_filter]
  by_cases h : key = key'
  · rw [if_pos h, if_pos h]
  · rw [if_neg h, if_neg h, withDefault?]

/-- A table is a record if its keys are known. -/
theorem record?_bind_eq_some_iff {β : Type} {keys : List String} {need : Nat}
    {f : List (String × Toml) → Option β} {b : β} :
    ((Toml.table entries).record? keys need).bind f = some b ↔
      (∀ e ∈ entries, e.1 ∈ keys) ∧ f entries = some b := by
  have hall : (entries.all fun e => keys.contains e.1) = true ↔ ∀ e ∈ entries, e.1 ∈ keys := by
    simp
  rw [record?, ← hall]
  split
  · next h => rw [Option.bind_some, and_iff_right h]
  · next h => exact iff_of_false nofun fun hf => h hf.1

end Keys

end Toml

end LintVerdict
