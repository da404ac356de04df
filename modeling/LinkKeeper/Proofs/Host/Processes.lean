import LinkKeeper.Host.Spawn

/-!
What the processes that a shell starts can do to it.

Programs, commands in brackets, commands in the background and the commands of a pipeline run as processes of their own.
They read and write, and the shell takes their statuses. All else of the shell is as before, whatever they do: its
variables, functions and options, its directory, and what it does on signals.

* `State.Apart`, `Run.Apart`: nothing else has changed, and a part of a run changes nothing else.
* `Run.apart_isolated`: whatever runs as a process of its own.
* `Worker.apart_waitFor`, `Worker.apart_command`: programs, and the commands that run so.
* `Run.Fails`: a fault that is told of; `ending_run`: how a shell ends that does not know its options.
-/

namespace LinkKeeper.Shell

/-- What other processes do to the state of a shell: they read and write, and the shell takes their statuses. -/
def State.Apart (s t : State) : Prop :=
  t = { s with
    status := t.status
    substituted := t.substituted
    background := t.background
    sinks := t.sinks
    sources := t.sources }

theorem State.Apart.trans {s t u : State} (first : s.Apart t) (later : t.Apart u) : s.Apart u := by
  unfold Apart at *
  rw [first] at later
  exact later

namespace Run

variable {α β : Type} {x : Run α} {f : α → Run β} {s : State}

theorem run_bind (x : Run α) (f : α → Run β) (s : State) :
    (x >>= f).run.run s =
      match x.run.run s with
      | (.ok a, t) => (f a).run.run t
      | (.error l, t) => (.error l, t) := by
  show (ExceptT.bindCont f (x.run.run s).1).run (x.run.run s).2 = _
  obtain ⟨l | a, t⟩ := x.run.run s <;> rfl

@[simp] theorem run_pure (a : α) (s : State) : (pure a : Run α).run.run s = (.ok a, s) := rfl

@[simp] theorem run_throw (l : Leave) (s : State) : (throw l : Run α).run.run s = (.error l, s) := rfl

@[simp] theorem run_get (s : State) : (get : Run State).run.run s = (.ok s, s) := rfl

@[simp] theorem run_modify (change : State → State) (s : State) :
    (modify change : Run Unit).run.run s = (.ok (), change s) := rfl

theorem run_tryCatch (x : Run α) (f : Leave → Run α) (s : State) :
    (tryCatch x f).run.run s =
      match x.run.run s with
      | (.ok a, t) => (.ok a, t)
      | (.error l, t) => (f l).run.run t := by
  rw [ExceptT.run_tryCatch, StateT.run_bind]
  obtain ⟨l | a, t⟩ := x.run.run s <;> rfl

/-- A part of a run does no more to a shell than other processes do. -/
def Apart (x : Run α) : Prop := ∀ s : State, s.Apart (x.run.run s).2

theorem apart_pure (a : α) : Apart (pure a) := fun _ => rfl

theorem apart_throw (l : Leave) : Apart (throw l : Run α) := fun _ => rfl

theorem apart_get : Apart (get : Run State) := fun _ => rfl

theorem apart_modify {change : State → State} (apart : ∀ s : State, s.Apart (change s)) : Apart (modify change) :=
  apart

/-- One part after another. -/
theorem apart_bind_at (first : s.Apart (x.run.run s).2) (onward : ∀ a, Apart (f a)) :
    s.Apart ((x >>= f).run.run s).2 := by
  rw [run_bind]
  generalize x.run.run s = left at first ⊢
  obtain ⟨l | a, t⟩ := left
  · exact first
  · exact first.trans (onward a t)

theorem Apart.bind (first : Apart x) (onward : ∀ a, Apart (f a)) : Apart (x >>= f) :=
  fun s => apart_bind_at (first s) onward

theorem apart_ite {p : Prop} [Decidable p] {y : Run α} (first : Apart x) (second : Apart y) :
    Apart (if p then x else y) := by
  split
  · exact first
  · exact second

theorem apart_forIn {γ : Type} {xs : List γ} {b : β} {round : γ → β → Run (ForInStep β)}
    (each : ∀ a b, Apart (round a b)) : Apart (forIn xs b round) := by
  induction xs generalizing b with
  | nil => exact apart_pure b
  | cons a xs ih =>
      rw [List.forIn_cons]
      refine (each a b).bind fun step => ?_
      cases step with
      | done b => exact apart_pure b
      | yield b => exact ih

theorem run_withState (change restore : State → State) (x : Run α) (s : State) :
    (withState change restore x).run.run s = ((x.run.run (change s)).1, restore (x.run.run (change s)).2) := by
  simp only [withState, run_bind, run_modify, run_tryCatch]
  obtain ⟨l | a, t⟩ := x.run.run (change s) <;> rfl

/-- Changes that are undone afterwards do not count. -/
theorem apart_withState_at {change restore : State → State} (apart : Apart x)
    (undone : ∀ t, (change s).Apart t → s.Apart (restore t)) :
    s.Apart ((withState change restore x).run.run s).2 := by
  rw [run_withState]
  exact undone _ (apart (change s))

/-- Whatever runs as a process of its own is apart from the shell. -/
theorem apart_isolated (action : Run Unit) : Apart (isolated action) := fun _ => rfl

theorem apart_captured (action : Run Unit) : Apart (captured action) := fun _ => rfl

theorem apart_setStatus (n : Nat) : Apart (setStatus n) := fun _ => rfl

theorem apart_take (ending : ProcessEnd) : Apart (take ending) := by
  cases ending with
  | exited code => exact apart_setStatus _
  | killed signal => exact apart_throw _

theorem apart_write (descriptor : Nat) (r : Raw) : Apart (write descriptor r) := by
  refine apart_get.bind fun s => ?_
  split
  · refine Apart.bind ?_ fun _ => apart_pure true
    exact apart_modify fun _ => rfl
  · exact apart_pure true
  · exact apart_pure _

theorem apart_readAll (descriptor : Nat) : Apart (readAll descriptor) := by
  intro s
  unfold readAll
  simp only [run_bind, run_get]
  split <;> rfl

theorem apart_complain (message : Raw) : Apart (complain message) :=
  apart_get.bind fun _ => (apart_write _ _).bind fun _ => apart_pure ()

end Run

namespace Worker

open Run

/-- What a program has printed is written. -/
theorem apart_printed (name : Raw) (printed : Printed) :
    Apart (do
      for complaint in printed.complaints do
        let _ ← write 2 (name ++ ": ".toList ++ complaint ++ ['\n'])
      let _ ← write 1 printed.output
      return ProcessEnd.exited (.ofNat printed.status)) := by
  refine Apart.bind ?_ fun _ => (apart_write _ _).bind fun _ => apart_pure _
  exact apart_forIn fun complaint _ => (apart_write _ _).bind fun _ => apart_pure _

/-- A program that is started changes nothing else of the shell. -/
theorem apart_runProgram (again : Worker) (name : Raw) (arguments : List Raw) (p : HostProgram) :
    Apart (runProgram again name arguments p) := by
  unfold runProgram
  dsimp only
  split
  · refine (apart_readAll 0).bind fun input => ?_
    split
    · exact apart_isolated _
    · exact apart_printed name _
  · refine (apart_pure []).bind fun input => ?_
    split
    · exact apart_isolated _
    · exact apart_printed name _

theorem apart_runNamed (again : Worker) (name : Raw) (arguments : List Raw) :
    Apart (runNamed again name arguments) := by
  have refuse (status : UInt8) (why : Raw) : Apart (complain why *> pure (ProcessEnd.exited status)) :=
    (apart_complain _).bind fun _ => apart_pure _
  unfold runNamed
  refine apart_ite (refuse _ _) ?_
  split
  · exact apart_runProgram again name arguments _
  · exact refuse _ _
  · exact refuse _ _
  · exact refuse _ _

theorem apart_waitFor (again : Worker) (name : Raw) (arguments : List Raw) :
    Apart (waitFor again name arguments) := by
  refine (apart_runNamed again name arguments).bind fun ending => ?_
  cases ending with
  | exited code => exact apart_setStatus _
  | killed signal =>
      dsimp only
      split
      · exact (apart_write _ _).bind fun _ => apart_setStatus _
      · exact apart_setStatus _

theorem apart_checkFailure : Apart checkFailure := by
  refine apart_get.bind fun s => ?_
  exact apart_ite (apart_throw _) (apart_pure _)

/-- The commands of a pipeline, each in its process. -/
theorem apart_pipe (again : Worker) (input : Option Raw) (cs : List Command) : Apart (pipe again input cs) := by
  induction cs generalizing input with
  | nil => exact apart_pure ()
  | cons c rest ih =>
      unfold pipe
      refine apart_ite ?_ ?_
      · exact (apart_isolated _).bind fun ending => apart_take ending
      · exact (apart_captured _).bind fun _ => (apart_take _).bind fun _ => ih _

end Worker

/-- Commands that run as processes of their own. -/
def Command.IsProcess : Command → Prop
  | .subshell _ _ | .background _ => True
  | .pipeline _ commands => commands.length ≠ 1
  | _ => False

/-- A command that runs as a process of its own, or as several, changes nothing else of the shell, however it ends. -/
theorem Worker.apart_command (again : Worker) {c : Command} (process : c.IsProcess) : Run.Apart (command again c) := by
  cases c with
  | subshell body rs =>
      refine (Run.apart_isolated _).bind fun ending => (Run.apart_take ending).bind fun _ => apart_checkFailure
  | background body =>
      refine (Run.apart_isolated _).bind fun ending => ?_
      exact Run.apart_modify fun _ => rfl
  | pipeline negated commands =>
      have judged : Run.Apart (do
          if negated then Run.setStatus (if (← get).status = 0 then 1 else 0) else checkFailure) := by
        split
        · exact Run.apart_get.bind fun _ => Run.apart_setStatus _
        · exact apart_checkFailure
      intro s
      -- What is looked at is as before after the pipeline, since it is the state at its start that gives it.
      show s.Apart ((Run.withState (fun t => { t with tested := s.tested || negated })
        (fun t => { t with tested := s.tested }) _ >>= fun _ => _).run.run s).2
      refine Run.apart_bind_at (Run.apart_withState_at ?_ fun t apart => ?_) fun _ => judged
      · split
        · exact absurd rfl process
        · exact apart_pipe again none commands
      · unfold State.Apart at *
        rw [apart]
  | _ => exact process.elim

/-! ### Failures -/

namespace Run

variable {α β : Type} {x : Run α} {f : α → Run β} {n : Nat}

/-- A part of a run is left for a fault that it has told of, with this status. -/
def Fails (x : Run α) (n : Nat) : Prop :=
  ∀ s : State, ∃ t, x.run.run s = (.error .failed, t) ∧ t.status = n ∧ s.Apart t

theorem Fails.bind (fails : x.Fails n) : (x >>= f).Fails n := by
  intro s
  obtain ⟨t, ran, ended⟩ := fails s
  exact ⟨t, by rw [run_bind, ran], ended⟩

theorem write_ok (descriptor : Nat) (r : Raw) (s : State) :
    ∃ b t, (write descriptor r).run.run s = (.ok b, t) := by
  unfold write
  simp only [run_bind, run_get]
  split <;> exact ⟨_, _, rfl⟩

theorem complain_ok (message : Raw) (s : State) : ∃ t, (complain message).run.run s = (.ok (), t) := by
  obtain ⟨b, t, written⟩ := write_ok 2 (s.title ++ message ++ ['\n']) s
  refine ⟨t, ?_⟩
  unfold complain
  simp only [run_bind, run_get, written, run_pure]

theorem fails_fail (n : Nat) (message : Raw) : (fail n message : Run α).Fails n := by
  intro s
  obtain ⟨t, told⟩ := complain_ok message s
  have apart := apart_complain message s
  rw [told] at apart
  refine ⟨{ t with status := n }, ?_, rfl, apart.trans rfl⟩
  unfold fail
  rw [run_bind, told]
  rfl

/-- A process that is left with a status ends with its octet. -/
theorem isolated_exits {action : Run Unit} {s : State} (left : (action.run.run s).1 = .error (.exits n)) :
    ((isolated action).run s).1 = .exited (.ofNat n) := by
  cases ran : action.run.run s with
  | mk outcome t =>
      rw [ran] at left
      obtain rfl : outcome = .error (.exits n) := left
      -- What comes of the run is all that the process is told by.
      exact congrArg (fun r => ((isolated (ExceptT.mk fun _ => r)).run s).1) ran

end Run

namespace Builtins

open Run

/-- A letter that stands for no option is a fault, whatever comes after it. -/
theorem fails_setOptions {c : Char} (unknown : c ∉ optionNames.map Prod.snd) (own : c ∉ ['o', 'c', '-'])
    (mayRun : Bool) (letters : Raw) (rest : List Raw) :
    (setOptions mayRun (('-' :: c :: letters) :: rest)).Fails 2 := by
  have none : optionNames.any (·.2 = c) = false := by
    rw [List.any_eq_false]
    rintro option mem same
    exact unknown (List.mem_map.mpr ⟨option, mem, of_decide_eq_true same⟩)
  have fails (on : Bool) : (setOptions.change on c).Fails 2 := by
    unfold setOptions.change
    rw [none]
    exact (fails_fail 2 _).bind
  simp only [List.mem_cons, List.not_mem_nil, not_or, or_false] at own
  obtain ⟨names, runs, ends⟩ := own
  rw [setOptions.eq_def]
  dsimp only
  rw [if_neg (by decide), if_neg (by simp), if_neg (by simp [ends]), List.forIn_cons, if_neg names,
    if_neg (by simp [runs])]
  exact (fails _).bind.bind.bind

end Builtins

namespace Worker

open Run

/-- What fails ends the shell with its status, if nothing is to be done at the end. -/
theorem run_toItsEnd (again : Worker) {action : Run Unit} {n : Nat} (fails : action.Fails n) {s : State}
    (quiet : s.traps.lookup 0 = none) : ((toItsEnd again action).run.run s).1 = .error (.exits n) := by
  obtain ⟨t, ran, status, apart⟩ := fails s
  have traps : t.traps = s.traps := by rw [apart]
  unfold toItsEnd
  have left : (action *> return none : Run (Option Leave)).run.run s = (.error .failed, t) := by
    rw [seqRight_eq_bind, run_bind, ran]
  rw [run_bind, run_tryCatch, left]
  simp only [run_bind, run_get, run_modify, run_pure, run_throw, traps, quiet, status]

theorem run_startShell (again : Worker) {c : Char} (unknown : c ∉ Builtins.optionNames.map Prod.snd)
    (own : c ∉ ['o', 'c', '-']) (name letters : Raw) (rest : List Raw) (s : State) :
    ((startShell again name (('-' :: c :: letters) :: rest)).run.run s).1 = .error (.exits 2) := by
  unfold startShell
  rw [run_bind, run_modify]
  refine run_toItsEnd again (Builtins.fails_setOptions unknown own true letters rest).bind ?_
  refine List.lookup_eq_none_iff.mpr fun trap mem => ?_
  obtain ⟨-, kept⟩ := List.mem_filter.mp mem
  have later : trap.1 ≠ 0 := of_decide_eq_true (Bool.and_eq_true_iff.mp kept).1
  exact bne_iff_ne.mpr later.symm

end Worker

/-- A shell whose first option begins with a letter that stands for none ends with two. -/
theorem ending_run {c : Char} (unknown : c ∉ Builtins.optionNames.map Prod.snd)
    (own : c ∉ ['o', 'c', '-']) (name letters : Raw) (rest : List Raw) :
    (run name (('-' :: c :: letters) :: rest)).ending = .exited 2 := by
  have left := Worker.run_startShell (Task.run greatestDepth) unknown own name letters rest State.initial
  exact Run.isolated_exits left

end LinkKeeper.Shell
