import Mathlib
import LintVerdict.Proofs.Config
import LintVerdict.Proofs.Config.Record

/-!
# What a configuration document says

A configuration is read from the table that a document is. The file tells, without the reader, which
tables are accepted and what each of their keys stands for, and shows that the reader does exactly
this: a document is refused, or it is read as it is written.

Options, linters and each declaration are taken to be tables here, and a target style to be a text.
The reader admits other ways to write those.

## Main definitions

* `Config.Accepted`: the tables that are configurations.
* `Config.WrittenIn`: the configuration that is written in a table.
* `Config.reset`: a configuration with the default for a key.

## Main results

* `Config.ofToml?_eq_some_iff`: exactly the written configuration is read.
* `Config.exists_writtenIn_iff`: exactly in the accepted tables one is written.
* `Config.ofToml?_filter`: without a key there is the default.
* `decoding_exact`: the reading of a document.
-/

namespace LintVerdict

open Toml (Keyed Given MeansText MeansTexts MeansBool MeansBelow MeansNumber MeansTarget)

variable {entries : List (String × Toml)}

/-! ### Options -/

namespace Options

/-- The keys of options. -/
def keys : List String :=
  ["threshold", "min-occurrences", "mincyclo", "min-confidence", "maxlinelength", "tests"]

/-- The options that are written in a table. -/
structure WrittenIn (o : Options) (entries : List (String × Toml)) : Prop where
  known : ∀ e ∈ entries, e.1 ∈ keys
  threshold : Keyed entries "threshold" none (Given (MeansBelow (2 ^ 32))) o.threshold
  minOccurrences :
    Keyed entries "min-occurrences" none (Given (MeansBelow (2 ^ 32))) o.minOccurrences
  mincyclo : Keyed entries "mincyclo" none (Given (MeansBelow (2 ^ 32))) o.mincyclo
  minConfidence : Keyed entries "min-confidence" none (Given MeansNumber) o.minConfidence
  maxLineLength : Keyed entries "maxlinelength" none (Given (MeansBelow (2 ^ 32))) o.maxLineLength
  tests : Keyed entries "tests" none (Given MeansBool) o.tests

/-- The tables that are options. -/
structure Accepted (entries : List (String × Toml)) : Prop where
  known : ∀ e ∈ entries, e.1 ∈ keys
  words : ∀ key ∈ ["threshold", "min-occurrences", "mincyclo", "maxlinelength"],
    ∀ v, (key, v) ∈ entries → ∃ n : Nat, v = .int n ∧ n < 2 ^ 32
  confidence : ∀ v, ("min-confidence", v) ∈ entries →
    (∃ x, v = .float x) ∨ ∃ n : Int, v = .int n ∧ -2 ^ 63 ≤ n ∧ n < 2 ^ 64
  tests : ∀ v, ("tests", v) ∈ entries → ∃ b, v = .bool b

/-- **Options are read as they are written.** -/
theorem options?_eq_some_iff (hkeys : (entries.map Prod.fst).Nodup) {o : Options} :
    Toml.options? (.table entries) = some o ↔ o.WrittenIn entries := by
  have hword : ∀ key o, Toml.optional? entries key (Toml.below? Decimal.word32) = some o ↔
      Keyed entries key none (Given (MeansBelow (2 ^ 32))) o :=
    fun _ _ => Toml.optional?_eq_some_iff hkeys fun _ _ => Toml.below?_eq_some_iff
  have hnumber : ∀ key o, Toml.optional? entries key Toml.number = some o ↔
      Keyed entries key none (Given MeansNumber) o :=
    fun _ _ => Toml.optional?_eq_some_iff hkeys fun _ _ => Toml.number_eq_some_iff
  have hbool : ∀ key o, Toml.optional? entries key Toml.bool? = some o ↔
      Keyed entries key none (Given MeansBool) o :=
    fun _ _ => Toml.optional?_eq_some_iff hkeys fun _ _ => Toml.bool?_eq_some_iff
  rw [Toml.options?, Option.bind_eq_bind, Toml.record?_bind_eq_some_iff]
  simp only [Option.bind_eq_bind, Option.bind_eq_some_iff, hword, hnumber, hbool]
  constructor
  · rintro ⟨hknown, t, ht, m, hm, c, hc, f, hf, l, hl, b, hb, h⟩
    obtain rfl := Option.some.inj h
    exact ⟨hknown, ht, hm, hc, hf, hl, hb⟩
  · rintro ⟨hknown, ht, hm, hc, hf, hl, hb⟩
    exact ⟨hknown, _, ht, _, hm, _, hc, _, hf, _, hl, _, hb, rfl⟩

/-- **Exactly the accepted tables are options.** -/
theorem exists_writtenIn_iff (hkeys : (entries.map Prod.fst).Nodup) :
    (∃ o : Options, o.WrittenIn entries) ↔ Accepted entries := by
  constructor
  · rintro ⟨o, h⟩
    refine ⟨h.known, ?_, fun v hv => ?_, fun v hv => ?_⟩
    · simp only [List.forall_mem_cons, List.not_mem_nil, false_implies, implies_true, and_true]
      exact ⟨fun v hv => (h.threshold.means_of_mem hkeys hv).exists,
        fun v hv => (h.minOccurrences.means_of_mem hkeys hv).exists,
        fun v hv => (h.mincyclo.means_of_mem hkeys hv).exists,
        fun v hv => (h.maxLineLength.means_of_mem hkeys hv).exists⟩
    · exact Toml.exists_meansNumber_iff.mp (h.minConfidence.means_of_mem hkeys hv).exists
    · exact (h.tests.means_of_mem hkeys hv).exists
  · intro h
    have hword : ∀ key ∈ ["threshold", "min-occurrences", "mincyclo", "maxlinelength"],
        ∃ o, Keyed entries key none (Given (MeansBelow (2 ^ 32))) o :=
      fun key hkey => Toml.exists_keyed_given fun v hv => h.words key hkey v hv
    obtain ⟨t, ht⟩ := hword "threshold" (by simp)
    obtain ⟨m, hm⟩ := hword "min-occurrences" (by simp)
    obtain ⟨c, hc⟩ := hword "mincyclo" (by simp)
    obtain ⟨l, hl⟩ := hword "maxlinelength" (by simp)
    obtain ⟨f, hf⟩ := Toml.exists_keyed_given fun v hv =>
      Toml.exists_meansNumber_iff.mpr (h.confidence v hv)
    obtain ⟨b, hb⟩ := Toml.exists_keyed_given h.tests
    exact ⟨⟨t, m, c, f, l, b⟩, h.known, ht, hm, hc, hf, hl, hb⟩

end Options

/-! ### Declarations of linters -/

namespace LinterDefinition

/-- The keys of a declaration. -/
def keys : List String := ["command", "pattern", "target", "message", "install"]

/-- The declaration that is written in a table. -/
structure WrittenIn (d : LinterDefinition) (entries : List (String × Toml)) : Prop where
  known : ∀ e ∈ entries, e.1 ∈ keys
  command : ("command", .text d.command) ∈ entries
  pattern : ("pattern", .text d.pattern) ∈ entries
  target : Keyed entries "target" .path MeansTarget d.target
  message : Keyed entries "message" none (Given MeansText) d.message
  install : Keyed entries "install" none (Given MeansText) d.install

/-- The tables that are declarations. -/
structure Accepted (entries : List (String × Toml)) : Prop where
  known : ∀ e ∈ entries, e.1 ∈ keys
  required : ∀ key ∈ ["command", "pattern"], ∃ s, (key, .text s) ∈ entries
  target : ∀ v, ("target", v) ∈ entries → v = .text "path" ∨ v = .text "go-files"
  optional : ∀ key ∈ ["message", "install"], ∀ v, (key, v) ∈ entries → ∃ s, v = .text s

/-- A declaration names its target style by a text, if at all. -/
def InForm (entries : List (String × Toml)) : Prop :=
  ∀ v, ("target", v) ∈ entries → ∃ s, v = .text s

/-- **A declaration is read as it is written.** -/
theorem definition?_eq_some_iff (hkeys : (entries.map Prod.fst).Nodup) (hform : InForm entries)
    {d : LinterDefinition} :
    Toml.definition? (.table entries) = some d ↔ d.WrittenIn entries := by
  have htext : ∀ key s, (Toml.get? key entries).bind Toml.text? = some s ↔
      (key, .text s) ∈ entries := by
    intro key s
    rw [Option.bind_eq_some_iff]
    simp only [Toml.get?_eq_some_iff hkeys, Toml.text?_eq_some_iff, MeansText]
    constructor
    · rintro ⟨_, hv, rfl⟩
      exact hv
    · exact fun hv => ⟨_, hv, rfl⟩
  have htarget : ∀ t, Toml.withDefault? entries "target" Toml.target? .path = some t ↔
      Keyed entries "target" .path MeansTarget t := fun t =>
    Toml.withDefault?_eq_some_iff hkeys fun v hv t => by
      obtain ⟨s, rfl⟩ := hform v hv
      exact Toml.target?_text_eq_some_iff
  have hoptional : ∀ key o, Toml.optional? entries key Toml.text? = some o ↔
      Keyed entries key none (Given MeansText) o :=
    fun _ _ => Toml.optional?_eq_some_iff hkeys fun _ _ => Toml.text?_eq_some_iff
  rw [Toml.definition?, Option.bind_eq_bind, Toml.record?_bind_eq_some_iff]
  simp only [Option.bind_eq_bind, Option.bind_eq_some_iff, htext, htarget, hoptional]
  constructor
  · rintro ⟨hknown, c, hc, p, hp, t, ht, m, hm, i, hi, h⟩
    obtain rfl := Option.some.inj h
    exact ⟨hknown, hc, hp, ht, hm, hi⟩
  · rintro ⟨hknown, hc, hp, ht, hm, hi⟩
    exact ⟨hknown, _, hc, _, hp, _, ht, _, hm, _, hi, rfl⟩

/-- **Exactly the accepted tables are declarations.** -/
theorem exists_writtenIn_iff (hkeys : (entries.map Prod.fst).Nodup) :
    (∃ d : LinterDefinition, d.WrittenIn entries) ↔ Accepted entries := by
  constructor
  · rintro ⟨d, h⟩
    refine ⟨h.known, ?_, fun v hv => ?_, ?_⟩
    · simp only [List.forall_mem_cons, List.not_mem_nil, false_implies, implies_true, and_true]
      exact ⟨⟨_, h.command⟩, ⟨_, h.pattern⟩⟩
    · exact Toml.exists_meansTarget_iff.mp ⟨_, h.target.means_of_mem hkeys hv⟩
    · simp only [List.forall_mem_cons, List.not_mem_nil, false_implies, implies_true, and_true]
      exact ⟨fun v hv => (h.message.means_of_mem hkeys hv).exists,
        fun v hv => (h.install.means_of_mem hkeys hv).exists⟩
  · intro h
    obtain ⟨c, hc⟩ := h.required "command" (by simp)
    obtain ⟨p, hp⟩ := h.required "pattern" (by simp)
    obtain ⟨t, ht⟩ := Toml.exists_keyed fun v hv => Toml.exists_meansTarget_iff.mpr (h.target v hv)
    obtain ⟨m, hm⟩ := Toml.exists_keyed_given (h.optional "message" (by simp))
    obtain ⟨i, hi⟩ := Toml.exists_keyed_given (h.optional "install" (by simp))
    exact ⟨⟨c, p, t, m, i⟩, h.known, hc, hp, ht, hm, hi⟩

end LinterDefinition

/-! ### Configurations -/

namespace Config

/-- A table of declarations by id means these declarations. -/
def MeansLinters (v : Toml) (ds : List (String × LinterDefinition)) : Prop :=
  ∃ ls, v = .table ls ∧
    List.Forall₂ (fun l d => l.1 = d.1 ∧ ∃ fields, l.2 = .table fields ∧ d.2.WrittenIn fields) ls ds

/-- A table of options means these options. -/
def MeansOptions (v : Toml) (o : Options) : Prop := ∃ os, v = .table os ∧ o.WrittenIn os

/-- The configuration that is written in a table. -/
structure WrittenIn (c : Config) (entries : List (String × Toml)) : Prop where
  known : ∀ e ∈ entries, e.1 ∈ keys
  packageLinters :
    Keyed entries "package-linters" default.packageLinters MeansTexts c.packageLinters
  dirLinters : Keyed entries "dir-linters" default.dirLinters MeansTexts c.dirLinters
  failFast : Keyed entries "fail-fast" default.failFast MeansBool c.failFast
  timeout : Keyed entries "timeout" default.timeout (MeansBelow (2 ^ 64)) c.timeout
  options : Keyed entries "options" default.options MeansOptions c.options
  linters : Keyed entries "linters" default.linters MeansLinters c.linters

/-- The tables that are configurations. -/
structure Accepted (entries : List (String × Toml)) : Prop where
  known : ∀ e ∈ entries, e.1 ∈ keys
  scopes : ∀ key ∈ ["package-linters", "dir-linters"], ∀ v, (key, v) ∈ entries →
    ∃ ids : List String, v = .array (ids.map .text)
  failFast : ∀ v, ("fail-fast", v) ∈ entries → ∃ b, v = .bool b
  timeout : ∀ v, ("timeout", v) ∈ entries → ∃ n : Nat, v = .int n ∧ n < 2 ^ 64
  options : ∀ v, ("options", v) ∈ entries → ∃ os, v = .table os ∧ Options.Accepted os
  linters : ∀ v, ("linters", v) ∈ entries → ∃ ls, v = .table ls ∧
    ∀ l ∈ ls, ∃ fields, l.2 = .table fields ∧ LinterDefinition.Accepted fields

/-- Options, linters and each declaration are tables, and target styles are texts, if they are there
at all. -/
structure InForm (entries : List (String × Toml)) : Prop where
  options : ∀ v, ("options", v) ∈ entries → ∃ os, v = .table os
  linters : ∀ v, ("linters", v) ∈ entries → ∃ ls, v = .table ls ∧
    ∀ l ∈ ls, ∃ fields, l.2 = .table fields ∧ LinterDefinition.InForm fields

/-- A configuration with the default for a key. -/
def reset (key : String) (c : Config) : Config :=
  { packageLinters := if key = "package-linters" then default.packageLinters else c.packageLinters
    dirLinters := if key = "dir-linters" then default.dirLinters else c.dirLinters
    failFast := if key = "fail-fast" then default.failFast else c.failFast
    timeout := if key = "timeout" then default.timeout else c.timeout
    options := if key = "options" then default.options else c.options
    linters := if key = "linters" then default.linters else c.linters }

variable {c : Config} {v : Toml}

/-- A table is read key by key. -/
theorem ofToml?_table_eq_some_iff :
    ofToml? (.table entries) = some c ↔
      (∀ e ∈ entries, e.1 ∈ keys) ∧
        Toml.withDefault? entries "package-linters" Toml.texts? default.packageLinters =
            some c.packageLinters ∧
          Toml.withDefault? entries "dir-linters" Toml.texts? default.dirLinters =
              some c.dirLinters ∧
            Toml.withDefault? entries "fail-fast" Toml.bool? default.failFast = some c.failFast ∧
              Toml.withDefault? entries "timeout" (Toml.below? Decimal.word64) default.timeout =
                  some c.timeout ∧
                Toml.withDefault? entries "options" Toml.options? default.options =
                    some c.options ∧
                  Toml.withDefault? entries "linters" Toml.definitions? default.linters =
                    some c.linters := by
  rw [ofToml?, Option.bind_eq_bind, Toml.record?_bind_eq_some_iff]
  simp only [Option.bind_eq_bind, Option.bind_eq_some_iff]
  constructor
  · rintro ⟨hknown, p, hp, d, hd, f, hf, t, ht, o, ho, l, hl, h⟩
    obtain rfl := Option.some.inj h
    exact ⟨hknown, hp, hd, hf, ht, ho, hl⟩
  · rintro ⟨hknown, hp, hd, hf, ht, ho, hl⟩
    exact ⟨hknown, _, hp, _, hd, _, hf, _, ht, _, ho, _, hl, rfl⟩

/-- **Without a key there is the default**, and the rest is read as before. -/
theorem ofToml?_filter (h : ofToml? (.table entries) = some c) (key : String) :
    ofToml? (.table (entries.filter fun e => e.1 ≠ key)) = some (c.reset key) := by
  obtain ⟨hknown, hp, hd, hf, ht, ho, hl⟩ := ofToml?_table_eq_some_iff.mp h
  refine ofToml?_table_eq_some_iff.mpr ⟨fun e he => hknown e (List.mem_filter.mp he).1, ?_⟩
  simp only [Toml.withDefault?_filter, hp, hd, hf, ht, ho, hl, reset, eq_comm (a := key),
    ← apply_ite some, and_self]

/-- **Options are read as they are written**, given that they are a table. -/
theorem options?_eq_some_iff (hv : v.Ordered) (hform : ∃ os, v = .table os) {o : Options} :
    Toml.options? v = some o ↔ MeansOptions v o := by
  obtain ⟨os, rfl⟩ := hform
  rw [Options.options?_eq_some_iff hv.nodup, MeansOptions]
  exact ⟨fun ho => ⟨os, rfl, ho⟩, fun ⟨_, hos, ho⟩ => Toml.table.inj hos ▸ ho⟩

/-- **Each declaration is read as it is written**, given that all are tables. -/
theorem definitions?_eq_some_iff (hv : v.Ordered)
    (hform : ∃ ls, v = .table ls ∧
      ∀ l ∈ ls, ∃ fields, l.2 = .table fields ∧ LinterDefinition.InForm fields)
    {ds : List (String × LinterDefinition)} :
    Toml.definitions? v = some ds ↔ MeansLinters v ds := by
  obtain ⟨ls, rfl, hform⟩ := hform
  -- Each declaration is read on its own, so one entry decides.
  have hentry : ∀ l ∈ ls, ∀ d : String × LinterDefinition,
      (Toml.definition? l.2).map (fun e => (l.1, e)) = some d ↔
        l.1 = d.1 ∧ ∃ fields, l.2 = .table fields ∧ d.2.WrittenIn fields := by
    rintro ⟨id, w⟩ hl ⟨id', d⟩
    obtain ⟨fields, rfl, hfields⟩ := hform _ hl
    have hkeys := (hv.value hl).nodup
    simp only [Option.map_eq_some_iff, Prod.mk.injEq,
      LinterDefinition.definition?_eq_some_iff hkeys hfields, Toml.table.injEq, exists_eq_left']
    exact ⟨fun ⟨_, hd, hid, heq⟩ => ⟨hid, heq ▸ hd⟩, fun ⟨hid, hd⟩ => ⟨d, hd, hid, rfl⟩⟩
  rw [Toml.definitions?, mapM_eq_some_iff, forall₂_congr_of_mem hentry, MeansLinters]
  simp only [Toml.table.injEq, exists_eq_left']

/-- **Exactly the written configuration is read.** -/
theorem ofToml?_eq_some_iff (hordered : (Toml.table entries).Ordered) (hform : InForm entries) :
    ofToml? (.table entries) = some c ↔ c.WrittenIn entries := by
  have hkeys := hordered.nodup
  rw [ofToml?_table_eq_some_iff,
    Toml.withDefault?_eq_some_iff hkeys fun _ _ _ => Toml.texts?_eq_some_iff,
    Toml.withDefault?_eq_some_iff hkeys fun _ _ _ => Toml.texts?_eq_some_iff,
    Toml.withDefault?_eq_some_iff hkeys fun _ _ _ => Toml.bool?_eq_some_iff,
    Toml.withDefault?_eq_some_iff hkeys fun _ _ _ => Toml.below?_eq_some_iff,
    Toml.withDefault?_eq_some_iff hkeys fun v hv _ =>
      options?_eq_some_iff (hordered.value hv) (hform.options v hv),
    Toml.withDefault?_eq_some_iff hkeys fun v hv _ =>
      definitions?_eq_some_iff (hordered.value hv) (hform.linters v hv)]
  constructor
  · rintro ⟨hknown, hp, hd, hf, ht, ho, hl⟩
    exact ⟨hknown, hp, hd, hf, ht, ho, hl⟩
  · rintro ⟨hknown, hp, hd, hf, ht, ho, hl⟩
    exact ⟨hknown, hp, hd, hf, ht, ho, hl⟩

theorem exists_meansOptions_iff (hv : v.Ordered) :
    (∃ o, MeansOptions v o) ↔ ∃ os, v = .table os ∧ Options.Accepted os := by
  constructor
  · rintro ⟨o, os, rfl, ho⟩
    exact ⟨os, rfl, (Options.exists_writtenIn_iff hv.nodup).mp ⟨o, ho⟩⟩
  · rintro ⟨os, rfl, hos⟩
    obtain ⟨o, ho⟩ := (Options.exists_writtenIn_iff hv.nodup).mpr hos
    exact ⟨o, os, rfl, ho⟩

theorem exists_meansLinters_iff (hv : v.Ordered) :
    (∃ ds, MeansLinters v ds) ↔ ∃ ls, v = .table ls ∧
      ∀ l ∈ ls, ∃ fields, l.2 = .table fields ∧ LinterDefinition.Accepted fields := by
  have hentries : ∀ ls, v = .table ls →
      ((∃ ds : List (String × LinterDefinition), List.Forall₂
          (fun l d => l.1 = d.1 ∧ ∃ fields, l.2 = .table fields ∧ d.2.WrittenIn fields) ls ds) ↔
        ∀ l ∈ ls, ∃ fields, l.2 = .table fields ∧ LinterDefinition.Accepted fields) := by
    rintro ls rfl
    rw [exists_forall₂_iff]
    refine forall₂_congr fun l hl => ?_
    constructor
    · rintro ⟨d, -, fields, hfields, hd⟩
      have hkeys := (hfields ▸ hv.value hl : (Toml.table fields).Ordered).nodup
      exact ⟨fields, hfields, (LinterDefinition.exists_writtenIn_iff hkeys).mp ⟨d.2, hd⟩⟩
    · rintro ⟨fields, hfields, haccepted⟩
      have hkeys := (hfields ▸ hv.value hl : (Toml.table fields).Ordered).nodup
      obtain ⟨d, hd⟩ := (LinterDefinition.exists_writtenIn_iff hkeys).mpr haccepted
      exact ⟨(l.1, d), rfl, fields, hfields, hd⟩
  constructor
  · rintro ⟨ds, ls, hls, hds⟩
    exact ⟨ls, hls, (hentries ls hls).mp ⟨ds, hds⟩⟩
  · rintro ⟨ls, hls, haccepted⟩
    obtain ⟨ds, hds⟩ := (hentries ls hls).mpr haccepted
    exact ⟨ds, ls, hls, hds⟩

/-- **Exactly in the accepted tables a configuration is written.** -/
theorem exists_writtenIn_iff (hordered : (Toml.table entries).Ordered) :
    (∃ c : Config, c.WrittenIn entries) ↔ Accepted entries := by
  have hkeys := hordered.nodup
  constructor
  · rintro ⟨c, h⟩
    refine ⟨h.known, ?_, fun v hv => ?_, fun v hv => ?_, fun v hv => ?_, fun v hv => ?_⟩
    · simp only [List.forall_mem_cons, List.not_mem_nil, false_implies, implies_true, and_true]
      exact ⟨fun v hv => ⟨_, h.packageLinters.means_of_mem hkeys hv⟩,
        fun v hv => ⟨_, h.dirLinters.means_of_mem hkeys hv⟩⟩
    · exact ⟨_, h.failFast.means_of_mem hkeys hv⟩
    · exact ⟨_, h.timeout.means_of_mem hkeys hv⟩
    · exact (exists_meansOptions_iff (hordered.value hv)).mp
        ⟨_, h.options.means_of_mem hkeys hv⟩
    · exact (exists_meansLinters_iff (hordered.value hv)).mp
        ⟨_, h.linters.means_of_mem hkeys hv⟩
  · intro h
    obtain ⟨p, hp⟩ := Toml.exists_keyed (h.scopes "package-linters" (by simp))
    obtain ⟨d, hd⟩ := Toml.exists_keyed (h.scopes "dir-linters" (by simp))
    obtain ⟨f, hf⟩ := Toml.exists_keyed h.failFast
    obtain ⟨t, ht⟩ := Toml.exists_keyed h.timeout
    obtain ⟨o, ho⟩ := Toml.exists_keyed fun v hv =>
      (exists_meansOptions_iff (hordered.value hv)).mpr (h.options v hv)
    obtain ⟨l, hl⟩ := Toml.exists_keyed fun v hv =>
      (exists_meansLinters_iff (hordered.value hv)).mpr (h.linters v hv)
    exact ⟨⟨p, d, f, t, o, l⟩, h.known, hp, hd, hf, ht, ho, hl⟩

end Config

/-- **A configuration is decoded exactly, or refused.** A document is a table. If options, linters
and declarations in it are tables and target styles are texts, exactly the accepted documents give a
configuration, and it is the one that is written: each key that is there has the value that is
written, and each other one has its default. So without a key only the value of that key changes, to
its default. -/
theorem decoding_exact (name document : String) {v : Toml}
    (hread : Toml.read? document = some v) :
    ∃ entries, v = .table entries ∧ (Config.InForm entries →
      ((∃ c, Config.ofText name document = .ok c) ↔ Config.Accepted entries) ∧
        (∀ c, Config.ofText name document = .ok c ↔ c.WrittenIn entries) ∧
        ∀ c key shorter, Config.ofText name document = .ok c →
          Toml.read? shorter = some (.table (entries.filter fun e => e.1 ≠ key)) →
          Config.ofText name shorter = .ok (c.reset key)) := by
  obtain ⟨entries, rfl⟩ := Toml.exists_entries_of_read? hread
  have hordered := Toml.ordered_of_read? hread
  refine ⟨entries, rfl, fun hform => ?_⟩
  have hwritten : ∀ c, Config.ofText name document = .ok c ↔ c.WrittenIn entries := fun c => by
    rw [Config.ofText_eq_ok_iff, Config.Holds, hread]
    simp only [Option.some.injEq, exists_eq_left', Config.ofToml?_eq_some_iff hordered hform]
  refine ⟨?_, hwritten, fun c key shorter hc hshorter => ?_⟩
  · simp only [hwritten, Config.exists_writtenIn_iff hordered]
  · obtain ⟨v, hv, hc⟩ := Config.ofText_eq_ok_iff.mp hc
    obtain rfl := Option.some.inj (hread.symm.trans hv)
    exact Config.ofText_eq_ok_iff.mpr ⟨_, hshorter, Config.ofToml?_filter hc key⟩

/-- A document that ends a run late and has one option. -/
def lateOptions : String := "fail-fast = false\noptions = \x7bmincyclo = 9\x7d\n"

theorem read?_lateOptions :
    Toml.read? lateOptions =
      some (.table [("fail-fast", .bool false), ("options", .table [("mincyclo", .int 9)])]) := by
  have hlines :
      Toml.Document.read? ((Toml.dropMark lateOptions.toList).length + 1) ⟨[], []⟩
          (Toml.dropMark lateOptions.toList) =
        some ⟨[("fail-fast", .done (.bool false)),
          ("options", .done (.table [("mincyclo", .int 9)]))], []⟩ := by
    cbv
  -- The keys are written in ascending order already, so that sorting leaves them as they are.
  have hsorted :
      [("fail-fast", Toml.bool false), ("options", .table [("mincyclo", .int 9)])].mergeSort
          (fun a b => decide (a.1 ≤ b.1)) =
        [("fail-fast", .bool false), ("options", .table [("mincyclo", .int 9)])] :=
    List.mergeSort_of_pairwise (List.pairwise_pair.mpr (by decide))
  simp only [Toml.read?, hlines, Option.map_some, Toml.Draft.finish, Toml.Draft.toToml,
    Toml.Draft.entriesToToml, hsorted]

/-- The document gives the configuration that it says, and without its first line the run ends at
the first failure again. -/
theorem decoding_exact_lateOptions :
    ∃ c, Config.ofText "codenanny.toml" lateOptions = .ok c ∧ c.failFast = false ∧
      c.options = { Options.unset with mincyclo := some 9 } ∧
      c.packageLinters = Config.default.packageLinters ∧ c.linters = [] ∧
      Config.ofText "codenanny.toml" "options = \x7bmincyclo = 9\x7d\n" =
        .ok { c with failFast := true } := by
  obtain ⟨entries, hentries, hexact⟩ :=
    decoding_exact "codenanny.toml" lateOptions read?_lateOptions
  obtain rfl := Toml.table.inj hentries
  obtain ⟨-, hwritten, hshorter⟩ := hexact
    ⟨by simp, by simp⟩
  let options : Options := { Options.unset with mincyclo := some 9 }
  have hoptions : options.WrittenIn [("mincyclo", .int 9)] :=
    ⟨by decide, .missing (by decide), .missing (by decide),
      .written List.mem_cons_self ⟨9, rfl, rfl, by decide⟩,
      .missing (by decide), .missing (by decide), .missing (by decide)⟩
  have hc := (hwritten { Config.default with failFast := false, options := options }).mpr
    ⟨by decide, .missing (by decide), .missing (by decide), .written List.mem_cons_self rfl,
      .missing (by decide), .written (List.mem_cons_of_mem _ List.mem_cons_self) ⟨_, rfl, hoptions⟩,
      .missing (by decide)⟩
  exact ⟨_, hc, rfl, rfl, rfl, rfl, hshorter _ "fail-fast" _ hc (by cbv)⟩

/-- A whole number that does not fit into a machine word is refused as a confidence, and the
document with it. -/
theorem large_confidence_refused :
    Toml.read? "[options]\nmin-confidence = 18446744073709551616\n" =
        some (.table [("options", .table [("min-confidence", .int 18446744073709551616)])]) ∧
      ∀ c, Config.ofText "test.toml" "[options]\nmin-confidence = 18446744073709551616\n" ≠
        .ok c := by
  have hread : Toml.read? "[options]\nmin-confidence = 18446744073709551616\n" =
      some (.table [("options", .table [("min-confidence", .int 18446744073709551616)])]) := by
    cbv
  refine ⟨hread, fun c hc => ?_⟩
  obtain ⟨v, hv, hc⟩ := Config.ofText_eq_ok_iff.mp hc
  obtain rfl := Option.some.inj (hread.symm.trans hv)
  have hnone : Config.ofToml?
      (.table [("options", .table [("min-confidence", .int 18446744073709551616)])]) = none := by
    rfl
  exact Option.some_ne_none c (hc.symm.trans hnone)

end LintVerdict
