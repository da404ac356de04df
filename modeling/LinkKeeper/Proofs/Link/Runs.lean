import LinkKeeper.Proofs.Link.Host
import LinkKeeper.Proofs.Link.Reads

/-!
Runs of the operations on a host, however they end.

An operation is put together of others in a row. What is said of a run follows from what is said of its parts: which
commands it runs, what it keeps of the host, and what it comes to when it ends well, which it does only without a
failure.

* `LinkHost.run_bind_ok`, `LinkHost.run_bind_error`: how two operations in a row end.
* `LinkHost.forall_trace_bind`: what is true of each of their commands.
* `LinkHost.run_bind_keeps`, `LinkHost.Calls`: what they keep, and calls in a row.
* `LinkHost.Yields.of_ok`: what an operation comes to when it ends well.
-/

namespace LinkKeeper

namespace Program

variable {Q α σ : Type} {A : Q → Type} {answer : (q : Q) → σ → A q × σ}

/-- What every command of a run keeps, the run keeps. -/
theorem run_keeps {kept : σ → Prop} (p : Program Q A α) {s : σ}
    (keeps : ∀ event ∈ p.trace answer s, ∀ t, kept t → kept (answer event.1 t).2)
    (holds : kept s) : kept (p.run answer s).2 := by
  induction p generalizing s with
  | done a => exact holds
  | ask q next ih =>
      rw [trace_ask, List.forall_mem_cons] at keeps
      exact ih _ keeps.2 (keeps.1 s holds)

/-- What a command gives in a run, it gives in some state. -/
theorem exists_of_mem_trace {p : Program Q A α} {s : σ} {event : (q : Q) × A q}
    (mem : event ∈ p.trace answer s) : ∃ t, event.2 = (answer event.1 t).1 := by
  induction p generalizing s with
  | done a => cases mem
  | ask q next ih =>
      rw [trace_ask, List.mem_cons] at mem
      rcases mem with rfl | later
      · exact ⟨s, rfl⟩
      · exact ih _ later

end Program

namespace LinkHost

variable {σ α β : Type} {h : LinkHost σ} {x : LinkProgram α} {f : α → LinkProgram β} {s t : σ} {c : IpCommand}

/-! ### Two operations in a row -/

theorem run_bind_error {e : LinkError} (first : h.run x s = (.error e, t)) :
    h.run (x >>= f) s = (.error e, t) := by
  refine (Program.run_bind h.answer x.run _ s).trans ?_
  rw [show Program.run h.answer x.run s = (.error e, t) from first]
  rfl

/-- Two operations in a row end well only if both do. -/
theorem run_bind_ok {b : β} (ran : h.run (x >>= f) s = (.ok b, t)) :
    ∃ a u, h.run x s = (.ok a, u) ∧ h.run (f a) u = (.ok b, t) := by
  cases first : h.run x s with
  | mk outcome u =>
      cases outcome with
      | error e => cases (run_bind_error first).symm.trans ran
      | ok a => exact ⟨a, u, rfl, (run_bind first).symm.trans ran⟩

/-- What is true of each command of two operations in a row. -/
theorem forall_trace_bind {P : Links.Event → Prop} (first : ∀ event ∈ h.trace x s, P event)
    (onward : ∀ a t, h.run x s = (.ok a, t) → ∀ event ∈ h.trace (f a) t, P event) :
    ∀ event ∈ h.trace (x >>= f) s, P event := by
  rw [trace_bind, List.forall_mem_append]
  refine ⟨first, ?_⟩
  cases ran : h.run x s with
  | mk outcome t =>
      cases outcome with
      | error e => exact List.forall_mem_nil _
      | ok a => exact onward a t ran

/-- Two operations in a row keep what both do. -/
theorem run_bind_keeps {kept : σ → Prop} (first : kept (h.run x s).2)
    (onward : ∀ a t, h.run x s = (.ok a, t) → kept t → kept (h.run (f a) t).2) : kept (h.run (x >>= f) s).2 := by
  cases ran : h.run x s with
  | mk outcome t =>
      rw [ran] at first
      cases outcome with
      | error e => rwa [run_bind_error ran]
      | ok a =>
          rw [run_bind ran]
          exact onward a t ran first

/-! ### Calls in a row -/

theorem run_keeps {kept : σ → Prop} (asked : IpCommand → Prop) (asks : ∀ event ∈ h.trace x s, asked event.1)
    (keeps : ∀ c, asked c → ∀ t, kept t → kept (h.answer c t).2) (holds : kept s) : kept (h.run x s).2 :=
  Program.run_keeps x.run (fun event mem => keeps event.1 (asks event mem)) holds

/-- The states that calls of an operation lead to, one after the other and however they end. -/
inductive Calls (h : LinkHost σ) (x : LinkProgram α) (s : σ) : σ → Prop where
  | none : Calls h x s s
  | again {t : σ} (earlier : Calls h x s t) : Calls h x s (h.run x t).2

/-! ### Runs without a failure -/

theorem unfailing_bind (first : h.Unfailing x s) (onward : ∀ a t, h.run x s = (.ok a, t) → h.Unfailing (f a) t) :
    h.Unfailing (x >>= f) s := forall_trace_bind first onward

theorem unfailing_run (succeeds : (h.answer c s).1.isOk = true) : h.Unfailing (Links.run c) s :=
  List.forall_mem_singleton.mpr succeeds

theorem unfailing_single (succeeds : (h.answer c s).1.isOk = true) : h.Unfailing (Links.runAll [c]) s :=
  unfailing_bind (unfailing_run succeeds) fun _ _ _ => List.forall_mem_nil _

theorem unfailing_report {entry : Json.Decoder α} (succeeds : (h.answer c s).1.isOk = true) :
    h.Unfailing (Links.report entry c) s := by
  refine unfailing_bind (unfailing_run succeeds) ?_
  intro text t _
  cases Report.parse? entry text <;> exact List.forall_mem_nil _

theorem unfailing_find (mac : String) (succeeds : (h.answer .showLinks s).1.isOk = true) :
    h.Unfailing (Links.find mac) s := by
  refine unfailing_bind (unfailing_bind (unfailing_report succeeds) fun _ _ _ => List.forall_mem_nil _) ?_
  intro entry t _
  cases entry <;> exact List.forall_mem_nil _

theorem unfailing_globalAddresses {device : String} (succeeds : (h.answer (.showAddresses device) s).1.isOk = true) :
    h.Unfailing (Links.globalAddresses device) s :=
  unfailing_bind (unfailing_report succeeds) fun _ _ _ => List.forall_mem_nil _

/-- An operation that passes over no failure ends well only if there is none. -/
theorem unfailing_of_ok (heeds : Links.Heeds x) {a : α} (ran : h.run x s = (.ok a, t)) : h.Unfailing x s := by
  have path := Program.path_run h.answer x.run s
  rw [show Program.run h.answer x.run s = (.ok a, t) from ran] at path
  exact heeds _ _ path

/-- What an operation comes to when it ends well. -/
theorem Yields.of_unfailing {post : α → List IpCommand → σ → Prop} (yields : h.Yields x s post)
    (unfailing : h.Unfailing x s) {a : α} (ran : h.run x s = (.ok a, t)) : post a (h.changes x s) t := by
  obtain ⟨b, u, same, holds⟩ := yields unfailing
  cases ran.symm.trans same
  exact holds

theorem Yields.of_ok {post : α → List IpCommand → σ → Prop} (yields : h.Yields x s post) (heeds : Links.Heeds x)
    {a : α} (ran : h.run x s = (.ok a, t)) : post a (h.changes x s) t :=
  yields.of_unfailing (unfailing_of_ok heeds ran) ran

/-- One command as the only one of a row. -/
theorem yields_single {post : σ → Prop} (holds : ∀ text t, h.answer c s = (.ok text, t) → post t) :
    h.Yields (Links.runAll [c]) s fun _ _ t => post t := by
  have one : h.Yields (Links.run c) s fun _ _ t => post t := yields_run holds
  exact yields_bind one fun _ _ _ reached => yields_pure reached

/-! ### Runs without a change -/

theorem changes_eq_nil_iff : h.changes x s = [] ↔ ∀ event ∈ h.trace x s, event.1.isChange = false := by
  unfold changes
  rw [List.filter_eq_nil_iff, List.forall_mem_map]
  simp

/-- Two operations in a row change nothing if neither does. -/
theorem changes_bind_eq_nil (first : h.changes x s = [])
    (onward : ∀ a t, h.run x s = (.ok a, t) → h.changes (f a) t = []) : h.changes (x >>= f) s = [] :=
  changes_eq_nil_iff.mpr <| forall_trace_bind (changes_eq_nil_iff.mp first) fun a t ran =>
    changes_eq_nil_iff.mp (onward a t ran)

theorem changes_find (mac : String) (s : σ) : h.changes (Links.find mac) s = [] :=
  changes_eq_nil_iff.mpr (Links.path_find (Program.path_run h.answer _ s)).asks

theorem changes_globalAddresses (device : String) (s : σ) : h.changes (Links.globalAddresses device) s = [] := by
  obtain ⟨reply, traced, -⟩ := Links.path_globalAddresses (Program.path_run h.answer _ s)
  rw [changes_eq_nil_iff, trace, traced]
  exact List.forall_mem_singleton.mpr rfl

end LinkHost

end LinkKeeper
