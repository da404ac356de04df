import LinkKeeper.Reconcile.Pass

/-!
Paths through a program: what it asks and what it ends with when the answers are any whatever.

* `Program.Path`: the paths; `Program.path_run` says that every run takes one.
* `Program.path_bind_iff`: a path through a sequence of two programs is one through each.
* `Program.path_except_bind_iff`, `Program.run_except_bind_ok`: the same for programs that may fail.
* `Pass.steps_append`: steps after steps are one program after another.
-/

namespace LinkKeeper

namespace Program

variable {Q : Type} {A : Q → Type} {α β σ : Type}

theorem bind_done (p : Program Q A α) : p.bind done = p := by
  induction p with
  | done a => rfl
  | ask q next ih => exact congrArg (ask q) (funext ih)

theorem bind_bind {γ : Type} (p : Program Q A α) (f : α → Program Q A β) (g : β → Program Q A γ) :
    (p.bind f).bind g = p.bind fun a => (f a).bind g := by
  induction p with
  | done a => rfl
  | ask q next ih => exact congrArg (ask q) (funext ih)

instance : LawfulMonad (Program Q A) :=
  LawfulMonad.mk' (Program Q A) bind_done (fun _ _ => rfl) bind_bind

theorem trace_ask (answer : (q : Q) → σ → A q × σ) (q : Q) (next : A q → Program Q A α) (s : σ) :
    (ask q next).trace answer s =
      ⟨q, (answer q s).1⟩ :: (next (answer q s).1).trace answer (answer q s).2 := rfl

/-- The program can ask these questions, get these answers and end with this result. -/
inductive Path : Program Q A α → List ((q : Q) × A q) → α → Prop where
  | done {a : α} : Path (.done a) [] a
  | ask {q : Q} {next : A q → Program Q A α} {answer : A q} {rest : List ((q : Q) × A q)} {a : α} :
      Path (next answer) rest a → Path (.ask q next) (⟨q, answer⟩ :: rest) a

/-- A run takes the path that its trace tells. -/
theorem path_run (answer : (q : Q) → σ → A q × σ) (p : Program Q A α) (s : σ) :
    p.Path (p.trace answer s) (p.run answer s).1 := by
  induction p generalizing s with
  | done a => exact .done
  | ask q next ih => exact .ask (ih _ _)

variable {events : List ((q : Q) × A q)}

theorem path_done_iff {a b : α} : (done a : Program Q A α).Path events b ↔ events = [] ∧ b = a := by
  constructor
  · intro path
    cases path
    exact ⟨rfl, rfl⟩
  · rintro ⟨rfl, rfl⟩
    exact .done

theorem path_ask_iff {q : Q} {next : A q → Program Q A α} {a : α} :
    (ask q next).Path events a ↔
      ∃ answer rest, events = ⟨q, answer⟩ :: rest ∧ (next answer).Path rest a := by
  constructor
  · intro path
    cases path with
    | ask later => exact ⟨_, _, rfl, later⟩
  · rintro ⟨answer, rest, rfl, later⟩
    exact .ask later

theorem path_bind_iff {p : Program Q A α} {f : α → Program Q A β} {b : β} :
    (p.bind f).Path events b ↔
      ∃ a first rest, events = first ++ rest ∧ p.Path first a ∧ (f a).Path rest b := by
  constructor
  · intro path
    induction p generalizing events with
    | done a => exact ⟨a, [], events, rfl, .done, path⟩
    | ask q next ih =>
        obtain ⟨answer, later, rfl, onward⟩ := path_ask_iff.mp path
        obtain ⟨a, first, rest, rfl, taken, path⟩ := ih answer onward
        exact ⟨a, ⟨q, answer⟩ :: first, rest, rfl, .ask taken, path⟩
  · rintro ⟨a, first, rest, rfl, taken, path⟩
    induction taken with
    | done => exact path
    | ask _ ih => exact .ask (ih path)

theorem path_query_iff {q : Q} {answer : A q} :
    (query q).Path events answer ↔ events = [⟨q, answer⟩] := by
  constructor
  · intro path
    obtain ⟨reply, rest, rfl, ended⟩ := path_ask_iff.mp path
    obtain ⟨rfl, rfl⟩ := path_done_iff.mp ended
    rfl
  · rintro rfl
    exact .ask .done

/-- A program that may fail goes on with what it has ended with. -/
theorem run_except_bind_ok {ε : Type} {answer : (q : Q) → σ → A q × σ} {x : ExceptT ε (Program Q A) α}
    {f : α → ExceptT ε (Program Q A) β} {a : α} {s t : σ} (first : Program.run answer x.run s = (.ok a, t)) :
    Program.run answer (x >>= f).run s = Program.run answer (f a).run t := by
  refine (Program.run_bind answer x.run _ s).trans ?_
  rw [first]
  rfl

/-- A sequence of two programs that may fail ends with the error of the first, or goes on with the second. -/
theorem path_except_bind_iff {ε : Type} {x : ExceptT ε (Program Q A) α} {f : α → ExceptT ε (Program Q A) β}
    {r : Except ε β} :
    Program.Path (x >>= f).run events r ↔
      (∃ e, Program.Path x.run events (.error e) ∧ r = .error e) ∨
        ∃ a first rest, events = first ++ rest ∧ Program.Path x.run first (.ok a) ∧
          Program.Path (f a).run rest r := by
  refine Program.path_bind_iff.trans ?_
  constructor
  · rintro ⟨outcome, first, rest, rfl, taken, path⟩
    cases outcome with
    | error e =>
        obtain ⟨rfl, rfl⟩ := Program.path_done_iff.mp path
        exact .inl ⟨e, by rwa [List.append_nil], rfl⟩
    | ok a => exact .inr ⟨a, first, rest, rfl, taken, path⟩
  · rintro (⟨e, taken, rfl⟩ | ⟨a, first, rest, rfl, taken, path⟩)
    · exact ⟨.error e, events, [], (List.append_nil _).symm, taken, .done⟩
    · exact ⟨.ok a, first, rest, rfl, taken, path⟩

end Program

namespace Pass

/-- A call with its answer. -/
abbrev Event := (c : Call) × c.Answer

variable {α β : Type} {events : List Event}

/-- The pass can make these calls, get these answers and end with this result. -/
abbrev Path (x : PassProgram α) (events : List Event) (r : Except KeeperError α) : Prop :=
  Program.Path x.run events r

theorem path_pure_iff {a : α} {r : Except KeeperError α} :
    Path (pure a) events r ↔ events = [] ∧ r = .ok a := Program.path_done_iff

theorem path_throw_iff {e : KeeperError} {r : Except KeeperError α} :
    Path (throw e) events r ↔ events = [] ∧ r = .error e := Program.path_done_iff

/-- A sequence of two programs ends with the error of the first, or goes on with the second. -/
theorem path_bind_iff {x : PassProgram α} {f : α → PassProgram β} {r : Except KeeperError β} :
    Path (x >>= f) events r ↔
      (∃ e, Path x events (.error e) ∧ r = .error e) ∨
        ∃ a first rest, events = first ++ rest ∧ Path x first (.ok a) ∧ Path (f a) rest r :=
  Program.path_except_bind_iff

theorem path_bind_pure {x : PassProgram α} {r : Except KeeperError α}
    (path : Path (x >>= fun a => pure a) events r) : Path x events r := by
  rcases path_bind_iff.mp path with ⟨e, taken, rfl⟩ | ⟨a, first, rest, rfl, taken, ended⟩
  · exact taken
  · obtain ⟨rfl, rfl⟩ := path_pure_iff.mp ended
    rwa [List.append_nil]

/-- A program whose result is replaced takes the same path. -/
theorem path_replace {x : PassProgram α} {b : β} {r : Except KeeperError β}
    (path : Path (x >>= fun _ => pure b) events r) : ∃ q, Path x events q ∧ r = q.map fun _ => b := by
  rcases path_bind_iff.mp path with ⟨e, taken, rfl⟩ | ⟨a, first, rest, rfl, taken, ended⟩
  · exact ⟨.error e, taken, rfl⟩
  · obtain ⟨rfl, rfl⟩ := path_pure_iff.mp ended
    exact ⟨.ok a, by rwa [List.append_nil], rfl⟩

/-- A call ends with its answer, and fails when that is an error. -/
theorem path_call_iff {ε : Type} {wrap : ε → KeeperError} {p : Program Call Call.Answer (Except ε α)}
    {r : Except KeeperError α} :
    Path (call wrap p) events r ↔ ∃ answer, p.Path events answer ∧ r = answer.mapError wrap := by
  refine Program.path_bind_iff.trans ?_
  constructor
  · rintro ⟨answer, first, rest, rfl, taken, ended⟩
    obtain ⟨rfl, rfl⟩ := Program.path_done_iff.mp ended
    exact ⟨answer, by rwa [List.append_nil], rfl⟩
  · rintro ⟨answer, taken, rfl⟩
    exact ⟨answer, events, [], (List.append_nil _).symm, taken, .done⟩

/-- A call whose answer is an error ends the pass with it. -/
theorem path_call_bind_iff {ε : Type} {wrap : ε → KeeperError}
    {p : Program Call Call.Answer (Except ε α)} {f : α → PassProgram β} {r : Except KeeperError β} :
    Path (call wrap p >>= f) events r ↔
      (∃ e, p.Path events (.error e) ∧ r = .error (wrap e)) ∨
        ∃ a first rest, events = first ++ rest ∧ p.Path first (.ok a) ∧ Path (f a) rest r := by
  rw [path_bind_iff]
  constructor
  · rintro (⟨e, asked, rfl⟩ | ⟨a, first, rest, rfl, asked, path⟩)
    · obtain ⟨answer, taken, same⟩ := path_call_iff.mp asked
      cases answer with
      | error cause =>
          cases same
          exact .inl ⟨cause, taken, rfl⟩
      | ok a => cases same
    · obtain ⟨answer, taken, same⟩ := path_call_iff.mp asked
      cases answer with
      | error cause => cases same
      | ok b =>
          cases same
          exact .inr ⟨_, first, rest, rfl, taken, path⟩
  · rintro (⟨cause, taken, rfl⟩ | ⟨a, first, rest, rfl, taken, path⟩)
    · exact .inl ⟨wrap cause, path_call_iff.mpr ⟨.error cause, taken, rfl⟩, rfl⟩
    · exact .inr ⟨a, first, rest, rfl, path_call_iff.mpr ⟨.ok a, taken, rfl⟩, path⟩

theorem steps_append (key : ObjectKey) (mac : String) (address : Net.Network) (s : PassState)
    (first later : List Step) :
    steps key mac address s (first ++ later) =
      steps key mac address s first >>= fun t => steps key mac address t later := by
  induction first generalizing s with
  | nil => exact (pure_bind _ _).symm
  | cons x xs ih =>
      simp only [List.cons_append, steps, bind_assoc, ih]

end Pass

end LinkKeeper
