import Mathlib.Data.List.Forall2
import LinkKeeper.Proofs.Reconcile.Copies
import LinkKeeper.Proofs.Reconcile.Recorded
import LinkKeeper.Proofs.Resource.Rewritten

/-!
Two passes side by side, in surroundings that differ in the versions of the objects only, and perhaps in doubles that
their writers have set.

A pass looks at neither: it takes them from the copy that it reads and hands them back with the copy that it writes.
So two passes over objects that are the same but for these go the same way, if their surroundings accept and refuse
the same writes.

* `NetworkInterface.Alike`: the same interface but for these; if it is to be exact, but for the version.
* `Pass.Parallel`: two parts of passes make calls that are alike, and end alike.
* `Pass.Parallel.bind`: one part after another.
* `Pass.Simulation`: what the surroundings have to do for it, told call by call.
* `Pass.Simulation.reconcile`: then whole passes run in parallel.
-/

namespace LinkKeeper

open Net

namespace NetworkInterface

/-- The interface without its version, and with all doubles that writers have set set to zero. -/
def bare (nic : NetworkInterface) : NetworkInterface :=
  { nic with metadata := { nic.metadata.zeroed with resourceVersion := none } }

/-- The same interface, but for its version and for doubles that writers have set. These are the same, too, if that is
to be `exact`. -/
structure Alike (exact : Prop) (nic other : NetworkInterface) : Prop where
  bare : nic.bare = other.bare
  unversioned : exact → nic.unversioned = other.unversioned

variable {nic other : NetworkInterface} {exact : Prop}

theorem bare_unversioned (nic : NetworkInterface) : nic.unversioned.bare = nic.bare := rfl

/-- What does not look at the version is the same of objects that are the same up to their versions. -/
theorem congr_unversioned {α : Type} (same : nic.unversioned = other.unversioned) (f : NetworkInterface → α)
    (apart : ∀ nic, f nic.unversioned = f nic) : f nic = f other := by
  rw [← apart nic, same, apart]

theorem withoutFinalizer_congr (same : nic.unversioned = other.unversioned) :
    nic.withoutFinalizer.unversioned = other.withoutFinalizer.unversioned :=
  congr_unversioned same (fun nic => nic.withoutFinalizer.unversioned) fun _ => rfl

namespace Alike

/-- What is the same up to the version is alike. -/
theorem of_unversioned (same : nic.unversioned = other.unversioned) : nic.Alike exact other where
  bare := by rw [← bare_unversioned nic, same, bare_unversioned]
  unversioned _ := same

theorem mono {looser : Prop} (alike : nic.Alike exact other) (weakens : looser → exact) : nic.Alike looser other :=
  ⟨alike.bare, fun holds => alike.unversioned (weakens holds)⟩

variable (alike : nic.Alike exact other)
include alike

/-- What looks at neither the version nor what writers have set is the same of what is alike. -/
theorem congr {α : Type} (f : NetworkInterface → α) (apart : ∀ nic, f nic.bare = f nic) : f nic = f other := by
  rw [← apart nic, alike.bare, apart]

/-- What is made of it in the same way is alike. -/
theorem map (f : NetworkInterface → NetworkInterface) (bare : ∀ nic, (f nic).bare = f nic.bare)
    (unversioned : ∀ nic, (f nic).unversioned = f nic.unversioned) : (f nic).Alike exact (f other) where
  bare := by rw [bare, alike.bare, bare]
  unversioned holds := by rw [unversioned, alike.unversioned holds, unversioned]

theorem withoutFinalizer : nic.withoutFinalizer.Alike exact other.withoutFinalizer :=
  alike.map NetworkInterface.withoutFinalizer (fun _ => rfl) fun _ => rfl

theorem withLinkName (name : String) : (nic.withLinkName name).Alike exact (other.withLinkName name) :=
  alike.map (NetworkInterface.withLinkName · name) (fun _ => rfl) fun _ => rfl

end Alike

end NetworkInterface

/-- The same call, with objects that are alike. -/
inductive Call.Alike (exact : Prop) : Call → Call → Prop where
  | same (c : Call) : Alike exact c c
  | writeInterface {nic other : NetworkInterface} (alike : nic.Alike exact other) :
      Alike exact (.writeInterface nic) (.writeInterface other)
  | writeStatus {nic other : NetworkInterface} (alike : nic.Alike exact other) :
      Alike exact (.writeStatus nic) (.writeStatus other)

namespace Pass

/-! ### Programs side by side -/

/-- Both have ended with the same error, where `stop` holds, or both with results for which `post` holds. -/
inductive Ends {ε α β σ τ : Type} (post : α → β → σ → τ → Prop) (stop : σ → τ → Prop) :
    Except ε α × σ → Except ε β × τ → Prop where
  | ok {a : α} {b : β} {s : σ} {t : τ} (holds : post a b s t) : Ends post stop (.ok a, s) (.ok b, t)
  | error {e : ε} {s : σ} {t : τ} (holds : stop s t) : Ends post stop (.error e, s) (.error e, t)

theorem Ends.mono {ε α β σ τ : Type} {post weaker : α → β → σ → τ → Prop} {stop : σ → τ → Prop}
    {p : Except ε α × σ} {q : Except ε β × τ} (ends : Ends post stop p q)
    (weakens : ∀ a b s t, post a b s t → weaker a b s t) : Ends weaker stop p q := by
  cases ends with
  | ok holds => exact .ok (weakens _ _ _ _ holds)
  | error holds => exact .error holds

/-- The same answers are alike. -/
theorem Ends.of_eq {ε α σ τ : Type} {post : σ → τ → Prop} {stop : σ → τ → Prop} {p : Except ε α × σ}
    {q : Except ε α × τ} (same : p.1 = q.1) (holds : post p.2 q.2) (stops : ∀ s t, post s t → stop s t) :
    Ends (fun a b s t => a = b ∧ post s t) stop p q := by
  obtain ⟨a, s⟩ := p
  obtain ⟨b, t⟩ := q
  obtain rfl : a = b := same
  cases a with
  | ok a => exact .ok ⟨rfl, holds⟩
  | error e => exact .error (stops s t holds)

/-- What has ended alike with the same results has the same result. -/
theorem Ends.eq {ε α σ τ : Type} {post : σ → τ → Prop} {p : Except ε α × σ} {q : Except ε α × τ}
    (ends : Ends (fun a b s t => a = b ∧ post s t) post p q) : p.1 = q.1 ∧ post p.2 q.2 := by
  cases ends with
  | ok holds => exact ⟨congrArg _ holds.1, holds.2⟩
  | error holds => exact ⟨rfl, holds⟩

section Parallel

variable {σ τ α β γ δ : Type} (left : (c : Call) → σ → c.Answer × σ) (right : (c : Call) → τ → c.Answer × τ)

/-- What is called on both sides, one call after the other. -/
abbrev CallsAlike (exact : Prop) : List Event → List Event → Prop :=
  List.Forall₂ fun here there => here.1.Alike exact there.1

/-- Two parts of passes make calls that are alike, and end alike. -/
structure Parallel (exact : Prop) (post : α → β → σ → τ → Prop) (stop : σ → τ → Prop) (x : PassProgram α)
    (y : PassProgram β) (s : σ) (t : τ) : Prop where
  calls : CallsAlike exact (Program.trace left x.run s) (Program.trace right y.run t)
  ends : Ends post stop (Program.run left x.run s) (Program.run right y.run t)

variable {left right} {exact : Prop} {post : α → β → σ → τ → Prop} {stop : σ → τ → Prop} {s : σ} {t : τ}

theorem Parallel.pure {a : α} {b : β} (holds : post a b s t) :
    Parallel left right exact post stop (pure a) (pure b) s t := ⟨.nil, .ok holds⟩

theorem Parallel.throw {e : KeeperError} (holds : stop s t) :
    Parallel left right exact post stop (throw e) (throw e) s t := ⟨.nil, .error holds⟩

theorem run_bind (answer : (c : Call) → σ → c.Answer × σ) (x : PassProgram α) (f : α → PassProgram γ) (s : σ) :
    Program.run answer (x >>= f).run s =
      Program.run answer (ExceptT.bindCont f (Program.run answer x.run s).1) (Program.run answer x.run s).2 :=
  Program.run_bind answer x.run _ s

theorem trace_bind (answer : (c : Call) → σ → c.Answer × σ) (x : PassProgram α) (f : α → PassProgram γ)
    (s : σ) :
    Program.trace answer (x >>= f).run s =
      Program.trace answer x.run s ++
        Program.trace answer (ExceptT.bindCont f (Program.run answer x.run s).1)
          (Program.run answer x.run s).2 :=
  Program.trace_bind answer x.run _ s

/-- One part after another. -/
theorem Parallel.bind {x : PassProgram α} {y : PassProgram β} {f : α → PassProgram γ} {g : β → PassProgram δ}
    {last : γ → δ → σ → τ → Prop} (first : Parallel left right exact post stop x y s t)
    (onward : ∀ a b s t, post a b s t → Parallel left right exact last stop (f a) (g b) s t) :
    Parallel left right exact last stop (x >>= f) (y >>= g) s t := by
  obtain ⟨calls, ends⟩ := first
  -- Where the first part has failed on both sides, nothing more is called.
  constructor
  · rw [trace_bind, trace_bind]
    refine List.rel_append calls ?_
    generalize Program.run left x.run s = here at ends
    generalize Program.run right y.run t = there at ends
    cases ends with
    | ok holds => exact (onward _ _ _ _ holds).calls
    | error => exact .nil
  · rw [run_bind, run_bind]
    generalize Program.run left x.run s = here at ends
    generalize Program.run right y.run t = there at ends
    cases ends with
    | ok holds => exact (onward _ _ _ _ holds).ends
    | error holds => exact .error holds

theorem Parallel.mono {weaker : α → β → σ → τ → Prop} {x : PassProgram α} {y : PassProgram β}
    (parallel : Parallel left right exact post stop x y s t) (weakens : ∀ a b s t, post a b s t → weaker a b s t) :
    Parallel left right exact weaker stop x y s t := ⟨parallel.calls, parallel.ends.mono weakens⟩

/-- Two calls that are answered alike. -/
theorem Parallel.call {ε : Type} {wrap : ε → KeeperError} {p : Program Call Call.Answer (Except ε α)}
    {q : Program Call Call.Answer (Except ε β)}
    (calls : CallsAlike exact (Program.trace left p s) (Program.trace right q t))
    (ends : Ends post stop (Program.run left p s) (Program.run right q t)) :
    Parallel left right exact post stop (Pass.call wrap p) (Pass.call wrap q) s t := by
  have leftTrace := Program.trace_bind left p (fun answer => .done (answer.mapError wrap)) s
  have rightTrace := Program.trace_bind right q (fun answer => .done (answer.mapError wrap)) t
  have leftRun := Program.run_bind left p (fun answer => .done (answer.mapError wrap)) s
  have rightRun := Program.run_bind right q (fun answer => .done (answer.mapError wrap)) t
  simp only [Program.trace, List.append_nil] at leftTrace rightTrace
  constructor
  · exact Eq.mpr (congr (congrArg _ leftTrace) rightTrace) calls
  · refine Eq.mpr (congr (congrArg _ leftRun) rightRun) ?_
    generalize Program.run left p s = here at ends
    generalize Program.run right q t = there at ends
    cases ends with
    | ok holds => exact .ok holds
    | error holds => exact .error holds

end Parallel

/-! ### What the surroundings have to do -/

/-- What both have read: nothing, or a copy each. -/
inductive Read {σ τ : Type} (level : σ → τ → Prop) (copies : NetworkInterface → NetworkInterface → σ → τ → Prop) :
    Option NetworkInterface → Option NetworkInterface → σ → τ → Prop where
  | copy {nic other : NetworkInterface} {s : σ} {t : τ} (held : copies nic other s t) :
      Read level copies (some nic) (some other) s t
  | absent {s : σ} {t : τ} (levels : level s t) : Read level copies none none s t

/-- Two surroundings treat passes over the interface with a name alike. `level` holds between them, and `copies`
while a copy of the interface is held in each of them. -/
structure Simulation {σ τ : Type} (left : (c : Call) → σ → c.Answer × σ) (right : (c : Call) → τ → c.Answer × τ)
    (exact : Prop) (name : String) (level : σ → τ → Prop)
    (copies : NetworkInterface → NetworkInterface → σ → τ → Prop) : Prop where
  level_of_copies : ∀ {nic other s t}, copies nic other s t → level s t
  alike : ∀ {nic other s t}, copies nic other s t → nic.Alike exact other
  read : ∀ {s t}, level s t →
    Ends (Read level copies) level (left (.readInterface name) s) (right (.readInterface name) t)
  release : ∀ {nic other s t}, copies nic other s t →
    Ends copies level (left (.writeInterface nic.withoutFinalizer) s)
      (right (.writeInterface other.withoutFinalizer) t)
  record : ∀ {nic other s t} link, copies nic other s t →
    Ends copies level (left (.writeStatus (nic.withLinkName link)) s)
      (right (.writeStatus (other.withLinkName link)) t)
  network : ∀ {nic other s t owner}, copies nic other s t → nic.ownerNetwork? = some owner →
    Ends (fun a b s t => a.map desiredRoutes = b.map desiredRoutes ∧ copies nic other s t) level
      (left (.readNetwork owner) s) (right (.readNetwork owner) t)
  outside : ∀ {nic other s t} {c : Call}, c.toStore = false → copies nic other s t →
    (left c s).1 = (right c t).1 ∧ copies nic other (left c s).2 (right c t).2

namespace Simulation

variable {σ τ : Type} {left : (c : Call) → σ → c.Answer × σ} {right : (c : Call) → τ → c.Answer × τ}
  {exact : Prop} {name : String} {level : σ → τ → Prop} {copies : NetworkInterface → NetworkInterface → σ → τ → Prop}
  {s : σ} {t : τ} {nic other : NetworkInterface} {first second : PassState}

/-- The same is known of both copies. -/
def States (copies : NetworkInterface → NetworkInterface → σ → τ → Prop) (first second : PassState) (s : σ)
    (t : τ) : Prop :=
  first.released = second.released ∧ copies first.nic second.nic s t

section Steps

variable (sim : Simulation left right exact name level copies)
include sim

/-- What is asked outside of the store is answered the same. -/
theorem asked {ε α : Type} {wrap : ε → KeeperError} {p : Program Call Call.Answer (Except ε α)} {c : Call}
    {give : c.Answer → Except ε α} (asks : p = .ask c fun answer => .done (give answer))
    (outside : c.toStore = false) (held : copies nic other s t) :
    Parallel left right exact (fun a b s t => a = b ∧ copies nic other s t) level (Pass.call wrap p)
      (Pass.call wrap p) s t := by
  subst asks
  obtain ⟨same, onward⟩ := sim.outside outside held
  exact .call (.cons (.same c) .nil) (.of_eq (congrArg give same) onward fun _ _ => sim.level_of_copies)

variable {key : ObjectKey} {mac : String} {address : Network} (states : States copies first second s t)
include states

theorem step_tearDownLink :
    Parallel left right exact (States copies) level (step key mac address first .tearDownLink)
      (step key mac address second .tearDownLink) s t :=
  .bind (sim.asked rfl rfl states.2) fun _ _ _ _ held => .pure ⟨states.1, held.2⟩

theorem step_releaseFinalizer :
    Parallel left right exact (States copies) level (step key mac address first .releaseFinalizer)
      (step key mac address second .releaseFinalizer) s t := by
  have alike := (sim.alike states.2).withoutFinalizer
  refine .bind (.call (.cons (.writeInterface alike) .nil) (sim.release states.2)) ?_
  intro written other s t held
  exact .pure ⟨rfl, held⟩

theorem step_verifyAttached :
    Parallel left right exact (States copies) level (step key mac address first .verifyAttached)
      (step key mac address second .verifyAttached) s t := by
  refine .bind (?_ : Parallel left right exact (fun _ _ => copies first.nic second.nic) level _ _ s t)
    fun _ _ _ _ held => .pure ⟨states.1, held⟩
  refine .bind (sim.asked rfl rfl states.2) ?_
  rintro document _ s t ⟨rfl, held⟩
  by_cases attached : document.hasInterface mac = true
  · rw [if_pos attached]
    exact .pure held
  · rw [if_neg attached]
    exact .throw (sim.level_of_copies held)

theorem step_recordLinkName :
    Parallel left right exact (States copies) level (step key mac address first .recordLinkName)
      (step key mac address second .recordLinkName) s t := by
  obtain ⟨released, held⟩ := states
  have alike := sim.alike held
  refine .bind (sim.asked rfl rfl held) ?_
  rintro name _ s t ⟨rfl, held⟩
  rw [released, alike.congr NetworkInterface.linkName? fun _ => rfl]
  by_cases recorded : (!second.released && second.nic.linkName? = some name) = true
  · rw [if_pos recorded, if_pos recorded]
    exact .pure ⟨released, held⟩
  · rw [if_neg recorded, if_neg recorded]
    refine .bind (.call (.cons (.writeStatus (alike.withLinkName name)) .nil) (sim.record name held)) ?_
    intro written other s t held
    exact .pure ⟨rfl, held⟩

theorem step_configureLink :
    Parallel left right exact (States copies) level (step key mac address first .configureLink)
      (step key mac address second .configureLink) s t :=
  .bind (sim.asked rfl rfl states.2) fun _ _ _ _ held => .pure ⟨states.1, held.2⟩

theorem step_syncRoutes :
    Parallel left right exact (States copies) level (step key mac address first .syncRoutes)
      (step key mac address second .syncRoutes) s t := by
  obtain ⟨released, held⟩ := states
  refine .bind (?_ : Parallel left right exact (fun _ _ => copies first.nic second.nic) level _ _ s t)
    fun _ _ _ _ held => .pure ⟨released, held⟩
  unfold syncNetworkRoutes
  rw [← (sim.alike held).congr NetworkInterface.ownerNetwork? fun _ => rfl]
  cases owned : first.nic.ownerNetwork? with
  | none => exact .throw (sim.level_of_copies held)
  | some owner =>
      refine .bind (.call (.cons (.same _) .nil) (sim.network held owned)) ?_
      rintro here there s t ⟨routes, held⟩
      cases here with
      | none =>
          obtain rfl : there = none := Option.map_eq_none_iff.mp routes.symm
          exact .throw (sim.level_of_copies held)
      | some network =>
          obtain ⟨other, rfl, declared⟩ := Option.map_eq_some_iff.mp routes.symm
          dsimp only
          rw [declared]
          cases desiredRoutes network with
          | error e => exact .throw (sim.level_of_copies held)
          | ok routes => exact (sim.asked rfl rfl held).mono fun _ _ _ _ held => held.2

/-- Every step runs in parallel. -/
theorem step (step : Step) :
    Parallel left right exact (States copies) level (Pass.step key mac address first step)
      (Pass.step key mac address second step) s t := by
  cases step with
  | tearDownLink => exact sim.step_tearDownLink states
  | releaseFinalizer => exact sim.step_releaseFinalizer states
  | verifyAttached => exact sim.step_verifyAttached states
  | recordLinkName => exact sim.step_recordLinkName states
  | configureLink => exact sim.step_configureLink states
  | syncRoutes => exact sim.step_syncRoutes states

theorem steps (planned : List Step) :
    Parallel left right exact (States copies) level (Pass.steps key mac address first planned)
      (Pass.steps key mac address second planned) s t := by
  induction planned generalizing first second s t with
  | nil => exact .pure states
  | cons next rest ih => exact .bind (sim.step states next) fun _ _ _ _ states => ih states

end Steps

/-- Whole passes run in parallel. -/
theorem reconcile {key : ObjectKey} (sim : Simulation left right exact key.name level copies) (settings : Settings)
    (levels : level s t) :
    Parallel left right exact (fun a b s t => a = b ∧ level s t) level (Pass.reconcile settings key)
      (Pass.reconcile settings key) s t := by
  refine .bind (.call (.cons (.same _) .nil) (sim.read levels)) ?_
  rintro _ _ s t read
  cases read with
  | absent levels => exact .pure ⟨rfl, levels⟩
  | @copy nic other _ _ held =>
      have phase := (sim.alike held).congr (Phase.of settings) fun _ => rfl
      have levels := sim.level_of_copies held
      dsimp only
      rw [phase]
      cases Phase.of settings _ with
      | error e => exact .throw levels
      | ok phase =>
          cases phase with
          | foreign => exact .pure ⟨rfl, levels⟩
          | awaitingAddress => exact .pure ⟨rfl, levels⟩
          | active plan =>
              have states : States copies ⟨nic, false⟩ ⟨other, false⟩ s t := ⟨rfl, held⟩
              refine .bind (sim.steps states plan.steps) ?_
              intro _ _ s t states
              exact .pure ⟨rfl, sim.level_of_copies states.2⟩

end Simulation

end Pass

end LinkKeeper
