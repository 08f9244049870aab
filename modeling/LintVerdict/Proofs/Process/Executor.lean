import LintVerdict.Process.Executor
import LintVerdict.Proofs.Files.Growth
import LintVerdict.Proofs.Files.Location
import LintVerdict.Proofs.FirstError

/-!
# What an executor remembers

An executor looks a program up until it is found, and then never again. Between two requests the
files and the environment may become any others, and so may the files while a command runs. What is
remembered of a program depends only on the lookups of that program: it is what the first one found
that found anything.

A step of an executor is described by the path that it goes by, which is remembered or looked up.
All else follows from what a step does with that path.

## Main definitions

* `Executor.Event`, `Executor.State`: what happens to an executor, and where it stands.
* `Executor.State.Uses`: a request that goes by a path.
* `Executor.State.Misses`: a request for a program that is not found.
* `Executor.FirstFound`: the first lookup of a program that finds it.

## Main results

* `Executor.State.uses_iff`, `Executor.State.misses_iff`: what comes of a request.
* `Executor.State.remembered?_after_iff`: what is remembered after some events.
* `Executor.locations_last`: what was found is used from then on, and what was not is looked up
  again.
-/

namespace LintVerdict.Executor

variable {x y : Executor} {s t : Session} {c : Command} {program other : String}
  {dir path path' : SystemText}

/-! ### One request -/

/-- The path that a request for a program goes by. -/
def path? (x : Executor) (s : Session) (program : String) : Option SystemText :=
  (x.remembered? program).or (s.findProgram? program)

/-- The start of a command from the file of its program. -/
def launchAt (x : Executor) (path : SystemText) (c : Command) (dir : SystemText) : Launch :=
  ⟨path, c.args, some dir, x.timeout⟩

/-- From one executor to another, a program was found: it is remembered where, and all else is as
it was. -/
structure Learns (x y : Executor) (program : String) (path : SystemText) : Prop where
  timeout : y.timeout = x.timeout
  remembered : y.remembered? program = some path
  others : ∀ other, other ≠ program → y.remembered? other = x.remembered? other
  nodup : (x.located.map Prod.fst).Nodup → (y.located.map Prod.fst).Nodup

theorem remembered?_eq_none_iff :
    x.remembered? program = none ↔ program ∉ x.located.map Prod.fst := by
  rw [remembered?, Option.map_eq_none_iff, List.find?_eq_none, List.mem_map]
  constructor
  · rintro h ⟨l, hl, rfl⟩
    exact h l hl (decide_eq_true rfl)
  · exact fun h l hl heq => h ⟨l, hl, of_decide_eq_true heq⟩

/-- The entries of an executor are what it remembers. -/
theorem mem_located_iff (h : (x.located.map Prod.fst).Nodup) :
    (program, path) ∈ x.located ↔ x.remembered? program = some path := by
  rw [remembered?, Option.map_eq_some_iff]
  constructor
  · exact fun hmem => ⟨(program, path), find?_of_nodup_keys h hmem, rfl⟩
  · rintro ⟨l, hl, rfl⟩
    have hkey : l.1 = program := by simpa using List.find?_some hl
    exact hkey ▸ List.mem_of_find?_eq_some hl

/-- One more entry. -/
theorem learns_concat (h : x.remembered? program = none) (path : SystemText) :
    x.Learns { x with located := x.located ++ [(program, path)] } program path where
  timeout := rfl
  remembered := by
    rw [remembered?, Option.map_eq_none_iff] at h
    rw [remembered?, List.find?_append, h]
    simp
  others other hne := by
    simp [remembered?, List.find?_append, Ne.symm hne]
  nodup hnodup := by
    have hnew := remembered?_eq_none_iff.mp h
    rw [List.map_append, List.nodup_append]
    refine ⟨hnodup, List.pairwise_singleton _ _, fun a ha b hb heq => hnew ?_⟩
    obtain rfl := List.mem_singleton.mp hb
    exact heq ▸ ha

/-- A program that is remembered or found is located. -/
theorem exists_locate_of_path (h : x.path? s program = some path) :
    ∃ y, x.Learns y program path ∧ x.locate s program = (.ok path, y) := by
  rw [path?] at h
  rw [locate]
  cases hx : x.remembered? program with
  | some known =>
      rw [hx, Option.some_or] at h
      obtain rfl := Option.some.inj h
      exact ⟨x, ⟨rfl, hx, fun _ _ => rfl, id⟩, rfl⟩
  | none =>
      rw [hx, Option.none_or] at h
      rw [h]
      exact ⟨_, learns_concat hx path, rfl⟩

/-- Any other one is not, and nothing changes. -/
theorem locate_of_no_path (h : x.path? s program = none) :
    x.locate s program = (.error (.notInstalled program), x) := by
  obtain ⟨hx, hs⟩ := Option.or_eq_none_iff.mp h
  rw [locate, hx, hs]

/-- A command is started from where its program is. -/
theorem exists_run_of_path (programs : Programs) (dir : SystemText)
    (h : x.path? s c.program = some path) :
    ∃ y, x.Learns y c.program path ∧
      x.run programs c dir s =
        (x.result c.program (s.launch programs (x.launchAt path c dir)).1, y,
          (s.launch programs (x.launchAt path c dir)).2) := by
  obtain ⟨y, hlearns, hlocate⟩ := exists_locate_of_path h
  refine ⟨y, hlearns, ?_⟩
  have hresult (ending : Except SystemError Ending) :
      y.result c.program ending = x.result c.program ending := by
    unfold result
    rw [hlearns.timeout]
  rw [run, hlocate]
  dsimp only
  rw [hlearns.timeout, hresult, launchAt]

/-- Without its program it is not started. -/
theorem run_of_no_path (programs : Programs) (dir : SystemText) (h : x.path? s c.program = none) :
    x.run programs c dir s = (.error (.notInstalled c.program), x, s) := by
  rw [run, locate_of_no_path h]

/-! ### Events -/

/-- What happens to an executor, or to the machine that it works on. -/
inductive Event where
  /-- The files or the environment become others. -/
  | change (files : Files) (env : List (SystemText × SystemText))
  /-- A program is located. -/
  | locate (program : String)
  /-- A command is run in a directory. -/
  | run (c : Command) (dir : SystemText)

/-- The program that an event asks for. -/
def Event.program? : Event → Option String
  | change _ _ => none
  | locate program => some program
  | run c _ => some c.program

/-- Where an executor stands, with the machine that it works on. -/
structure State where
  /-- The executor. -/
  executor : Executor
  /-- The machine. -/
  session : Session

namespace State

/-- Where an event leads. -/
def step (programs : Programs) (st : State) : Event → State
  | .change files env => ⟨st.executor, { st.session with files, env }⟩
  | .locate program => ⟨(st.executor.locate st.session program).2, st.session⟩
  | .run c dir =>
    let answer := st.executor.run programs c dir st.session
    ⟨answer.2.1, answer.2.2⟩

/-- Where events lead, one after the other. -/
def after (programs : Programs) (st : State) (events : List Event) : State :=
  events.foldl (step programs) st

/-- A request goes by a path: that is what it tells, or what it starts the command from. -/
def Uses (programs : Programs) (st : State) (path : SystemText) : Event → Prop
  | .change _ _ => False
  | .locate program => (st.executor.locate st.session program).1 = .ok path
  | .run c dir =>
    let (ending, session) := st.session.launch programs (st.executor.launchAt path c dir)
    (st.executor.run programs c dir st.session).1 = st.executor.result c.program ending ∧
      (st.executor.run programs c dir st.session).2.2 = session

/-- A request is for a program that is not found: that is what it tells, and nothing is remembered
or started. -/
def Misses (programs : Programs) (st : State) : Event → Prop
  | .change _ _ => False
  | .locate program =>
    st.executor.locate st.session program = (.error (.notInstalled program), st.executor)
  | .run c dir =>
    st.executor.run programs c dir st.session =
      (.error (.notInstalled c.program), st.executor, st.session)

variable {programs : Programs} {st : State} {e e' : Event} {events : List Event}

/-- The path that a request goes by where an executor stands. -/
def path? (st : State) (program : String) : Option SystemText :=
  st.executor.path? st.session program

/-- The same command is not started from two paths at once. -/
theorem eq_of_launch_eq
    (h : (s.launch programs (x.launchAt path c dir)).2 =
      (s.launch programs (x.launchAt path' c dir)).2) : path = path' := by
  have hstarted : s.started ++ [x.launchAt path c dir] = s.started ++ [x.launchAt path' c dir] :=
    congrArg Session.started h
  rw [List.append_cancel_left_eq, List.singleton_inj] at hstarted
  exact congrArg Launch.program hstarted

/-- **A request goes by a path** if the program is remembered or found there. -/
theorem uses_iff (he : e.program? = some program) :
    st.Uses programs path e ↔ st.path? program = some path := by
  cases e with
  | change files env => cases he
  | locate p =>
      obtain rfl := Option.some.inj he
      rw [Uses, State.path?]
      cases hpath : st.executor.path? st.session p with
      | none => simp [locate_of_no_path hpath]
      | some known =>
          obtain ⟨y, -, hlocate⟩ := exists_locate_of_path hpath
          simp [hlocate]
  | run c dir =>
      obtain rfl := Option.some.inj he
      rw [Uses, State.path?]
      dsimp only
      cases hpath : st.executor.path? st.session c.program with
      | none =>
          rw [run_of_no_path programs dir hpath]
          refine iff_of_false (fun h => ?_) nofun
          have hstarted : st.session.started =
              st.session.started ++ [st.executor.launchAt path c dir] :=
            congrArg Session.started h.2
          simp at hstarted
      | some known =>
          obtain ⟨y, -, hrun⟩ := exists_run_of_path programs dir hpath
          rw [hrun, Option.some.injEq]
          constructor
          · exact fun h => eq_of_launch_eq h.2
          · rintro rfl
            exact ⟨rfl, rfl⟩

/-- **A request misses its program** if it is neither remembered nor found. -/
theorem misses_iff (he : e.program? = some program) :
    st.Misses programs e ↔ st.path? program = none := by
  cases e with
  | change files env => cases he
  | locate p =>
      obtain rfl := Option.some.inj he
      rw [Misses, State.path?]
      refine ⟨fun h => Option.eq_none_iff_forall_ne_some.mpr fun known hpath => ?_,
        locate_of_no_path⟩
      obtain ⟨y, -, hlocate⟩ := exists_locate_of_path hpath
      cases hlocate.symm.trans h
  | run c dir =>
      obtain rfl := Option.some.inj he
      rw [Misses, State.path?]
      refine ⟨fun h => Option.eq_none_iff_forall_ne_some.mpr fun known hpath => ?_,
        run_of_no_path programs dir⟩
      obtain ⟨y, -, hrun⟩ := exists_run_of_path programs dir hpath
      have hstarted : st.session.started ++ [st.executor.launchAt known c dir] =
          st.session.started :=
        congrArg (fun answer => answer.2.2.started) (hrun.symm.trans h)
      simp at hstarted

/-! ### One step -/

/-- What a request goes by is remembered. -/
theorem learns_step (he : e.program? = some program) (h : st.path? program = some path) :
    st.executor.Learns (st.step programs e).executor program path := by
  cases e with
  | change files env => cases he
  | locate p =>
      obtain rfl := Option.some.inj he
      obtain ⟨y, hlearns, hlocate⟩ := exists_locate_of_path h
      rwa [step, hlocate]
  | run c dir =>
      obtain rfl := Option.some.inj he
      obtain ⟨y, hlearns, hrun⟩ := exists_run_of_path programs dir h
      rwa [step, hrun]

/-- A request that misses its program leaves all as it was. -/
theorem step_of_misses (h : st.Misses programs e) : st.step programs e = st := by
  cases e with
  | change files env => exact h.elim
  | locate p => rw [step, show st.executor.locate st.session p = _ from h]
  | run c dir => rw [step, show st.executor.run programs c dir st.session = _ from h]

/-- A request remembers the path that it goes by, if there is one. -/
theorem remembered?_step (he : e.program? = some program) :
    (st.step programs e).executor.remembered? program = st.path? program := by
  cases hpath : st.path? program with
  | some path => exact (learns_step he hpath).remembered
  | none =>
      rw [step_of_misses ((misses_iff he).mpr hpath)]
      exact (Option.or_eq_none_iff.mp hpath).1

/-- What is remembered of other programs does not change. -/
theorem remembered?_step_of_ne (he : e.program? ≠ some program) :
    (st.step programs e).executor.remembered? program = st.executor.remembered? program := by
  cases hprogram : e.program? with
  | none =>
      cases e with
      | change files env => rfl
      | locate p => cases hprogram
      | run c dir => cases hprogram
  | some p =>
      have hne : program ≠ p := fun heq => he (hprogram.trans (congrArg some heq.symm))
      cases hpath : st.path? p with
      | some path => exact (learns_step hprogram hpath).others program hne
      | none => rw [step_of_misses ((misses_iff hprogram).mpr hpath)]

/-- What is remembered is kept. -/
theorem remembered?_step_of_some (h : st.executor.remembered? program = some path) :
    (st.step programs e).executor.remembered? program = some path := by
  by_cases he : e.program? = some program
  · rw [remembered?_step he, State.path?, Executor.path?, h, Option.some_or]
  · rw [remembered?_step_of_ne he, h]

/-- No program is remembered twice. -/
theorem nodup_step (h : (st.executor.located.map Prod.fst).Nodup) :
    ((st.step programs e).executor.located.map Prod.fst).Nodup := by
  cases hprogram : e.program? with
  | none =>
      cases e with
      | change files env => exact h
      | locate p => cases hprogram
      | run c dir => cases hprogram
  | some p =>
      cases hpath : st.path? p with
      | some path => exact (learns_step hprogram hpath).nodup h
      | none => rwa [step_of_misses ((misses_iff hprogram).mpr hpath)]

/-! ### Any events -/

theorem after_cons : st.after programs (e :: events) = (st.step programs e).after programs events :=
  rfl

theorem remembered?_after_of_some (h : st.executor.remembered? program = some path) :
    (st.after programs events).executor.remembered? program = some path := by
  induction events generalizing st with
  | nil => exact h
  | cons e events ih => exact ih (remembered?_step_of_some h)

theorem remembered?_after_of_ne (h : ∀ e ∈ events, e.program? ≠ some program) :
    (st.after programs events).executor.remembered? program =
      st.executor.remembered? program := by
  induction events generalizing st with
  | nil => rfl
  | cons e events ih =>
      rw [List.forall_mem_cons] at h
      rw [after_cons, ih h.2, remembered?_step_of_ne h.1]

theorem nodup_after (h : (st.executor.located.map Prod.fst).Nodup) :
    ((st.after programs events).executor.located.map Prod.fst).Nodup := by
  induction events generalizing st with
  | nil => exact h
  | cons e events ih => exact ih (nodup_step h)

end State

/-- The first lookup of a program that finds it, in the events from a state on, finds it at a path.
What is remembered plays no part in this. -/
inductive FirstFound (programs : Programs) (program : String) (path : SystemText) :
    State → List Event → Prop
  /-- The program is asked for and found. -/
  | here {st : State} {e : Event} {events : List Event} :
      e.program? = some program → st.session.findProgram? program = some path →
      FirstFound programs program path st (e :: events)
  /-- It is not asked for, or it is not found, and it is found later. -/
  | later {st : State} {e : Event} {events : List Event} :
      (e.program? = some program → st.session.findProgram? program = none) →
      FirstFound programs program path (st.step programs e) events →
      FirstFound programs program path st (e :: events)

namespace State

variable {programs : Programs} {st : State} {e e' : Event} {events : List Event}

/-- A lookup that finds the program is the first one. -/
theorem firstFound_cons_of_found (he : e.program? = some program)
    (hfound : st.session.findProgram? program = some path') :
    FirstFound programs program path st (e :: events) ↔ path' = path := by
  constructor
  · intro h
    cases h with
    | here _ hpath => exact Option.some.inj (hfound.symm.trans hpath)
    | later hnone _ => cases hfound.symm.trans (hnone he)
  · rintro rfl
    exact .here he hfound

/-- An event that does not find it does not matter. -/
theorem firstFound_cons_of_not_found
    (hnone : e.program? = some program → st.session.findProgram? program = none) :
    FirstFound programs program path st (e :: events) ↔
      FirstFound programs program path (st.step programs e) events := by
  refine ⟨fun h => ?_, .later hnone⟩
  cases h with
  | here he hpath => cases (hnone he).symm.trans hpath
  | later _ h => exact h

/-- **What is remembered after some events** is what was remembered before them, or else what the
first lookup found in them that found anything. -/
theorem remembered?_after_iff :
    (st.after programs events).executor.remembered? program = some path ↔
      st.executor.remembered? program = some path ∨
        st.executor.remembered? program = none ∧
          FirstFound programs program path st events := by
  induction events generalizing st with
  | nil =>
      rw [or_iff_left fun h => nomatch h.2]
      rfl
  | cons e events ih =>
      rw [after_cons, ih]
      by_cases he : e.program? = some program
      · rw [remembered?_step he, State.path?, Executor.path?]
        cases hknown : st.executor.remembered? program with
        | some known => simp
        | none =>
            rw [Option.none_or]
            cases hfound : st.session.findProgram? program with
            | some found => simp [firstFound_cons_of_found he hfound]
            | none => simp [firstFound_cons_of_not_found fun _ => hfound]
      · rw [remembered?_step_of_ne he, firstFound_cons_of_not_found fun h => absurd h he]

/-- A path that a request has gone by is what later requests for the program go by. -/
theorem Uses.after (h : st.Uses programs path e) (he' : e'.program? = e.program?) :
    ((st.step programs e).after programs events).Uses programs path e' := by
  obtain ⟨program, he⟩ : ∃ program, e.program? = some program := by
    cases e with
    | change files env => exact h.elim
    | locate p => exact ⟨p, rfl⟩
    | run c dir => exact ⟨c.program, rfl⟩
  have hstep : (st.step programs e).executor.remembered? program = some path :=
    (remembered?_step he).trans ((uses_iff he).mp h)
  rw [uses_iff (he'.trans he), State.path?, Executor.path?, remembered?_after_of_some hstep,
    Option.some_or]

/-- Where nothing is remembered of a program, the next request for it looks it up. -/
theorem uses_after_iff (hnone : st.executor.remembered? program = none)
    (hevents : ∀ other ∈ events, other.program? ≠ some program)
    (he' : e'.program? = some program) :
    (st.after programs events).Uses programs path e' ↔
      (st.after programs events).session.findProgram? program = some path := by
  rw [uses_iff he', State.path?, Executor.path?, remembered?_after_of_ne hevents, hnone,
    Option.none_or]

end State

/-- **What was found lasts.** After any events on a new executor:

* a path that a request has gone by is what every later request for the program goes by, whatever
  happens to the files in between;
* a request that goes by no path tells that its program is not installed and leaves the executor and
  the machine as they were, and the next request for the program looks it up again;
* no event changes what is remembered of a program that it does not ask for;
* an entry is what the first lookup of its program found that found it, and no program has two. -/
theorem locations_last (programs : Programs) (timeout : Nat) (s : Session) (events : List Event) :
    let start : State := ⟨new timeout, s⟩
    let st := start.after programs events
    (∀ e path, st.Uses programs path e → ∀ more e', e'.program? = e.program? →
        ((st.step programs e).after programs more).Uses programs path e') ∧
      (∀ e program, e.program? = some program → (∀ path, ¬ st.Uses programs path e) →
        st.Misses programs e ∧ st.step programs e = st ∧
          ∀ more e', (∀ other ∈ more, other.program? ≠ some program) →
            e'.program? = some program →
            ∀ path, ((st.step programs e).after programs more).Uses programs path e' ↔
              ((st.step programs e).after programs more).session.findProgram? program =
                some path) ∧
      (∀ e program, e.program? ≠ some program →
        (st.step programs e).executor.remembered? program = st.executor.remembered? program) ∧
      (∀ program path, (program, path) ∈ st.executor.located ↔
        FirstFound programs program path start events) ∧
      (st.executor.located.map Prod.fst).Nodup := by
  intro start st
  have hnodup : (st.executor.located.map Prod.fst).Nodup := State.nodup_after List.nodup_nil
  refine ⟨fun e path huses more e' he' => huses.after he', fun e program he hnot => ?_,
    fun e program he => State.remembered?_step_of_ne he, fun program path => ?_, hnodup⟩
  · have hpath : st.path? program = none := Option.eq_none_iff_forall_ne_some.mpr
      fun path h => hnot path ((State.uses_iff he).mpr h)
    have hmisses : st.Misses programs e := (State.misses_iff he).mpr hpath
    have hstep := State.step_of_misses hmisses
    refine ⟨hmisses, hstep, fun more e' hmore he' path => ?_⟩
    rw [hstep]
    exact State.uses_after_iff (Option.or_eq_none_iff.mp hpath).1 hmore he'
  · have hnew : start.executor.remembered? program = none := rfl
    rw [mem_located_iff hnodup, State.remembered?_after_iff, hnew]
    simp

/-- A session in which programs are looked up in one directory. -/
def binSession (entries : List (SystemText × Node)) : Session :=
  ⟨⟨.dir [("bin", .dir entries)], []⟩, [("PATH", "/bin")], false, []⟩

theorem findProgram?_binSession :
    (binSession [("probe", .file ⟨#[]⟩ true)]).findProgram? "probe" = some "/bin/probe" := by
  have hplace : (binSession [("probe", .file ⟨#[]⟩ true)]).files.place "/bin/probe" true =
      .ok ["bin", "probe"] := by
    rw [Files.place_of_walk (show _ = '/' :: "bin/probe".toList from rfl) (by decide) (by decide)]
    cbv
  have hprogram : (binSession [("probe", .file ⟨#[]⟩ true)]).files.isProgram "/bin/probe" = true :=
    Files.isProgram_iff.mpr ⟨_, Files.node_eq_ok_iff.mpr ⟨_, hplace, rfl⟩, rfl⟩
  have hcandidates : (binSession [("probe", .file ⟨#[]⟩ true)]).candidates "probe" =
      ["/bin/probe"] := by
    decide
  rw [Session.findProgram?, hcandidates, List.find?_cons_of_pos hprogram]

theorem findProgram?_binSession_nil : (binSession []).findProgram? "probe" = none := by
  have hplace : (binSession []).files.place "/bin/probe" true = .error .notFound := by
    rw [Files.place_of_walk (show _ = '/' :: "bin/probe".toList from rfl) (by decide) (by decide)]
    cbv
  have hcandidates : (binSession []).candidates "probe" = ["/bin/probe"] := by
    decide
  rw [Session.findProgram?, hcandidates, List.find?_singleton,
    Files.isProgram_of_place_error hplace]
  rfl

/-- A program that is missing, then found and then gone is run from where it was found. -/
theorem locations_last_gone :
    let programs : Programs := fun x _ => (.error .denied, x.files)
    let start : State := ⟨new 0, binSession []⟩
    let found : Event :=
      .change (binSession [("probe", .file ⟨#[]⟩ true)]).files [("PATH", "/bin")]
    let gone : Event := .change (binSession []).files [("PATH", "/bin")]
    let st := start.after programs [.locate "probe", found]
    start.Misses programs (.locate "probe") ∧ st.Uses programs "/bin/probe" (.locate "probe") ∧
      ((st.step programs (.locate "probe")).after programs [gone]).Uses programs "/bin/probe"
        (.run ⟨"probe", []⟩ "/") := by
  intro programs start found gone st
  have hmissing : start.path? "probe" = none := findProgram?_binSession_nil
  have hmisses : start.Misses programs (.locate "probe") := (State.misses_iff rfl).mpr hmissing
  have hst : st = ⟨new 0, binSession [("probe", .file ⟨#[]⟩ true)]⟩ :=
    congrArg (fun st : State => st.step programs found) (State.step_of_misses hmisses)
  have hpath : st.path? "probe" = some "/bin/probe" := by
    rw [hst]
    exact findProgram?_binSession
  have huses : st.Uses programs "/bin/probe" (.locate "probe") := (State.uses_iff rfl).mpr hpath
  exact ⟨hmisses, huses,
    (locations_last programs 0 (binSession []) [.locate "probe", found]).1 _ _ huses [gone] _ rfl⟩

end LintVerdict.Executor
