import LinkKeeper.Proofs.Reconcile.Runs
import LinkKeeper.Proofs.Reconcile.Writes

/-!
Interfaces that go for good.

When nothing but the finalizer of the keeper holds an interface that is to be deleted, a pass tears its
link down and the interface goes with the finalizer. The steps that follow in the same pass would bring
the link up again. They do not get that far, for the name of the link has to be written first, and what
would have to be written is there no longer, not even when another writer has made a new interface of
the same name.

* `Pass.Stale`: what holds of the copy of a pass once its interface has gone.
* `Pass.ensures_departing`: no pass over such an interface connects the link.
* `Pass.reconcile_departing`: how such a pass ends when nothing goes wrong.
* `Pass.departing_stays_down`: both, and the pass after it.
-/

namespace LinkKeeper

open Net

/-- Nothing but the finalizer of the keeper holds the interface. -/
structure NetworkInterface.HeldAlone (nic : NetworkInterface) : Prop where
  held : nic.hasFinalizer = true
  alone : ∀ finalizer ∈ nic.metadata.finalizers.getD [], finalizer = interfaceFinalizer

/-- Whether the call gives a link its address or its routes. -/
def Call.connects : Call → Bool
  | .configureLink _ _ | .syncRoutes _ _ => true
  | _ => false

section Departing

variable {nic : NetworkInterface}

theorem NetworkInterface.HeldAlone.withoutFinalizer (held : nic.HeldAlone) :
    nic.withoutFinalizer.metadata.finalizers.getD [] = [] := by
  have alone := held.alone
  unfold NetworkInterface.withoutFinalizer
  cases finalizers : nic.metadata.finalizers with
  | none => rfl
  | some names =>
      rw [finalizers] at alone
      refine List.filter_eq_nil_iff.mpr fun finalizer mem => ?_
      simpa using alone finalizer mem

/-- Without that finalizer the store lets it go. -/
theorem NetworkInterface.HeldAlone.isReleased (held : nic.HeldAlone) (terminating : nic.isTerminating = true)
    (s : MemoryStore) (stored : NetworkInterface) :
    MemoryStore.isReleased (s.updated nic.withoutFinalizer stored) = true := by
  have kept : (s.updated nic.withoutFinalizer stored).isTerminating = true := terminating
  have none : (s.updated nic.withoutFinalizer stored).metadata.finalizers.getD [] = [] :=
    held.withoutFinalizer
  unfold MemoryStore.isReleased
  rw [kept, none]
  rfl

end Departing

namespace Pass

/-! ### With other writers at work -/

/-- The call does not connect a link. -/
abbrev Unconnected (_ : List Moment) (m : Moment) : Prop := m.call.connects = false

/-- The copy has been released by the pass, and is of an interface that is there no longer. -/
structure Stale (st : PassState) (s : MemoryStore) : Prop where
  released : st.released = true
  outdated : s.Outdated st.nic

section Steps

variable {settings : Settings} {key : ObjectKey} {mac : String} {address : Network} {st : PassState}
  {past : List Moment} {s : MemoryStore}

theorem ensures_tearDownLink :
    Ensures Unconnected (fun _ t _ => t = st) (step key mac address st .tearDownLink) past s := by
  refine ensures_bind (ensures_call (upholds_idle rfl ?_))
  intro consistent answer _
  exact ⟨rfl, fun u others _ _ => ensures_pure rfl⟩

theorem ensures_releaseFinalizer (terminating : st.nic.isTerminating = true) (held : st.nic.HeldAlone) :
    Ensures Unconnected (fun _ t u => Stale t u) (step key mac address st .releaseFinalizer) past s := by
  refine ensures_bind (ensures_call (upholds_query ?_))
  intro consistent answer t answered
  refine ⟨rfl, fun u others written got => ensures_pure ⟨rfl, ?_⟩⟩
  have after := answered.reaches.consistent consistent
  obtain ⟨rfl, rfl⟩ := answered
  cases outcome : s.target st.nic.withoutFinalizer with
  | error e =>
      rw [MemoryStore.update_of_refused outcome] at got
      cases got
  | ok found =>
      obtain ⟨name, stored⟩ := found
      have gone := MemoryStore.outdated_update consistent outcome (held.isReleased terminating s stored)
      have same : (s.update st.nic.withoutFinalizer).1 = .ok (s.updated st.nic.withoutFinalizer stored) := by
        rw [MemoryStore.update_of_target outcome]
      rw [same] at got
      cases got
      exact gone.reaches after others

theorem ensures_verifyAttached (stale : Stale st s) :
    Ensures Unconnected (fun _ t u => Stale t u) (step key mac address st .verifyAttached) past s := by
  refine ensures_bind (ensures_bind (ensures_call (upholds_idle rfl ?_)))
  intro consistent answer _
  refine ⟨rfl, fun u others document _ => ?_⟩
  split
  · exact ensures_pure (ensures_pure ⟨stale.released, stale.outdated.reaches consistent others⟩)
  · exact ensures_throw

/-- The name of the link cannot be recorded. -/
theorem ensures_recordLinkName (stale : Stale st s) :
    Ensures Unconnected (fun _ _ _ => False) (step key mac address st .recordLinkName) past s := by
  refine ensures_bind (ensures_call (upholds_idle rfl ?_))
  intro consistent answer _
  refine ⟨rfl, fun u others name _ => ?_⟩
  have outdated := stale.outdated.reaches consistent others
  rw [if_neg (by simp [stale.released])]
  refine ensures_bind (ensures_call (upholds_query ?_))
  rintro - answer t ⟨rfl, rfl⟩
  refine ⟨rfl, fun v _ written got => ?_⟩
  cases outcome : u.target (st.nic.withLinkName name) with
  | error e =>
      rw [MemoryStore.updateStatus_of_refused outcome] at got
      cases got
  | ok found => exact absurd outcome (outdated.refused rfl)

/-- The steps that would bring the link up again do not get that far. -/
theorem ensures_converge (stale : Stale st s) :
    Ensures Unconnected (fun _ _ _ => True) (steps key mac address st convergeSteps) past s := by
  refine ensures_bind ((ensures_verifyAttached stale).mono fun _ _ _ stale => ?_)
  exact ensures_bind ((ensures_recordLinkName stale).mono fun _ _ _ impossible => impossible.elim)

theorem ensures_release (terminating : st.nic.isTerminating = true) (held : st.nic.HeldAlone) :
    Ensures Unconnected (fun _ t u => Stale t u) (steps key mac address st releaseSteps) past s := by
  refine ensures_bind (ensures_tearDownLink.mono ?_)
  rintro _ _ _ rfl
  refine ensures_bind ((ensures_releaseFinalizer terminating held).mono fun _ _ _ stale => ?_)
  exact ensures_pure stale

/-- The steps that are planned for the interface connect no link. -/
theorem ensures_planned {nic : NetworkInterface} (terminating : nic.isTerminating = true)
    (held : nic.HeldAlone) :
    Ensures Unconnected (fun _ _ _ => True)
      (steps key mac address ⟨nic, false⟩ (Phase.steps settings nic)) past s := by
  have releases : Phase.releases nic = true := Bool.and_eq_true_iff.mpr ⟨terminating, held.held⟩
  have released : Ensures Unconnected (fun _ t u => Stale t u)
      (steps key mac address ⟨nic, false⟩ releaseSteps) past s := ensures_release terminating held
  unfold Phase.steps
  rw [if_pos releases, steps_append]
  refine ensures_bind (released.mono fun _ _ _ stale => ?_)
  split
  · exact ensures_pure trivial
  · exact ensures_converge stale

end Steps

/-- A pass that finds such an interface connects no link. -/
theorem ensures_departing {settings : Settings} {key : ObjectKey} {s : MemoryStore} {nic : NetworkInterface}
    (present : s.interfaces.get? key.name = some nic) (terminating : nic.isTerminating = true)
    (held : nic.HeldAlone) :
    Ensures Unconnected (fun _ _ _ => True) (reconcile settings key) [] s := by
  refine ensures_reconcile (fun _ => rfl) ?_
  intro found mac address u _ read _ _ _ _
  rw [present] at read
  cases read
  exact ensures_planned terminating held

end Pass

/-! ### When nothing goes wrong -/

/-- The collaborators do what a pass asks of them for the link with the hardware address. -/
structure World.Serves (w : World) (mac : String) (address : Network) : Prop where
  accepts : w.store.pendingConflicts = 0
  tearsDown : (w.links.tearDown mac address).1 = .ok ()
  answers : w.machine.failing = false
  attached : w.machine.document.hasInterface mac = true
  resolves : ∃ name, ((w.links.tearDown mac address).2.name mac).1 = .ok name

/-- What comes out of a pass that lets an interface go. -/
def departed (settings : Settings) (key : ObjectKey) : Except KeeperError Outcome :=
  if settings.endAfterTearDown then .ok .done else .error (.store (.notFound interfaceKind key.name))

theorem departed_transient {settings : Settings} {key : ObjectKey} {e : KeeperError}
    (failed : departed settings key = .error e) : e.retry = .transient := by
  unfold departed at failed
  split at failed
  · cases failed
  · cases failed
    rfl

namespace Pass

section Runs

variable {settings : Settings} {key : ObjectKey} {mac : String} {address : Network}
  {nic : NetworkInterface} {st : PassState} {w : World}

/-- The release of an interface that is stored as it was read. -/
theorem runIn_releaseSteps (serves : w.Serves mac address) (named : nic.metadata.name = some key.name)
    (present : w.store.interfaces.get? key.name = some nic) (terminating : nic.isTerminating = true)
    (held : nic.HeldAlone) :
    ∃ written v, runIn w (steps key mac address ⟨nic, false⟩ releaseSteps) = (.ok ⟨written, true⟩, v) ∧
      written.metadata.name = some key.name ∧ v.store.interfaces.get? key.name = none ∧
      v.store.pendingConflicts = 0 ∧ v.links = (w.links.tearDown mac address).2 ∧ v.machine = w.machine := by
  have accepted : w.store.target nic.withoutFinalizer = .ok (key.name, nic) :=
    MemoryStore.target_eq_ok_iff.mpr ⟨named, serves.accepts, present, rfl⟩
  have update := MemoryStore.update_of_target accepted
  rw [if_pos (held.isReleased terminating w.store nic)] at update
  have torn : runIn w (step key mac address ⟨nic, false⟩ .tearDownLink) =
      (.ok ⟨nic, false⟩, { w with links := (w.links.tearDown mac address).2 }) := by
    rw [runIn_tearDownLink, serves.tearsDown]
    rfl
  have released : runIn { w with links := (w.links.tearDown mac address).2 }
      (step key mac address ⟨nic, false⟩ .releaseFinalizer) =
        (.ok ⟨w.store.updated nic.withoutFinalizer nic, true⟩,
          { w with
            links := (w.links.tearDown mac address).2
            store := (w.store.update nic.withoutFinalizer).2 }) := by
    rw [runIn_releaseFinalizer, update]
    rfl
  refine ⟨_, _, (runIn_steps_ok torn).trans (runIn_steps_ok released), named, ?_, ?_, rfl, rfl⟩
  · rw [update]
    exact Table.get?_erase_self _ _
  · rw [update]
    exact serves.accepts

/-- The steps after it come to an end where the name of the link is to be recorded. -/
theorem runIn_convergeSteps {v : World} (released : st.released = true)
    (named : st.nic.metadata.name = some key.name) (accepts : v.store.pendingConflicts = 0)
    (absent : v.store.interfaces.get? key.name = none) (answers : v.machine.failing = false)
    (attached : v.machine.document.hasInterface mac = true) {name : String}
    (resolves : (v.links.name mac).1 = .ok name) :
    ∃ u, runIn v (steps key mac address st convergeSteps) =
        (.error (.store (.notFound interfaceKind key.name)), u) ∧
      u.store.interfaces.get? key.name = none := by
  have refusal : v.store.target (st.nic.withLinkName name) = .error (.notFound interfaceKind key.name) :=
    MemoryStore.target_of_absent named accepts absent
  have refused := MemoryStore.updateStatus_of_refused refusal
  have verified : runIn v (step key mac address st .verifyAttached) =
      (.ok st, { v with machine := v.machine.fetch.2 }) := runIn_verifyAttached answers attached
  have unrecorded : runIn { v with machine := v.machine.fetch.2 }
      (step key mac address st .recordLinkName) =
        (.error (.store (.notFound interfaceKind key.name)),
          { v with
            machine := v.machine.fetch.2
            links := (v.links.name mac).2
            store := (v.store.updateStatus (st.nic.withLinkName name)).2 }) := by
    have resolved : (({ v with machine := v.machine.fetch.2 } : World).links.name mac).1 = .ok name := resolves
    rw [runIn_recordLinkName resolved released]
    dsimp only
    rw [refused]
    rfl
  refine ⟨_, (runIn_steps_ok verified).trans (runIn_steps_error unrecorded), ?_⟩
  dsimp only
  rw [refused, (refused_objects _ _ _).1]
  exact absent

/-- A pass that lets an interface go while all goes well. -/
theorem reconcile_departing (named : nic.metadata.name = some key.name)
    (present : w.store.interfaces.get? key.name = some nic) (here : nic.spec.nodeName = settings.nodeName)
    (terminating : nic.isTerminating = true) (held : nic.HeldAlone) (known : nic.macAddress? = some mac)
    (parsed : addressOf nic = .ok address) (serves : w.Serves mac address) :
    ∃ v, w.reconcile settings key = (departed settings key, v) ∧
      v.store.interfaces.get? key.name = none := by
  obtain ⟨written, v, released, own, absent, accepts, links, machine⟩ :=
    runIn_releaseSteps serves named present terminating held
  obtain ⟨-, -, answers, attached, name, resolves⟩ := serves
  have planned : Phase.steps settings nic =
      releaseSteps ++ if settings.endAfterTearDown then [] else convergeSteps :=
    if_pos (Bool.and_eq_true_iff.mpr ⟨terminating, held.held⟩)
  rw [World.reconcile_some present, phase_active here known parsed]
  dsimp only
  rw [planned, steps_append, runIn_bind_ok released]
  unfold departed
  cases settings.endAfterTearDown with
  | true => exact ⟨v, rfl, absent⟩
  | false =>
      rw [← machine] at answers attached
      rw [← links] at resolves
      have converged : ∃ u, runIn v (steps key mac address ⟨written, true⟩ convergeSteps) =
          (.error (.store (.notFound interfaceKind key.name)), u) ∧
            u.store.interfaces.get? key.name = none :=
        runIn_convergeSteps rfl own accepts absent answers attached resolves
      obtain ⟨u, ended, gone⟩ := converged
      rw [if_neg Bool.false_ne_true, ended]
      exact ⟨u, rfl, gone⟩

end Runs

/-- An interface that is to go and that only the keeper holds goes for good: whatever other writers do
meanwhile, no pass over it connects its link. When all goes well it is gone after one pass, and the next
pass finds nothing to do. -/
theorem departing_stays_down {settings : Settings} {key : ObjectKey} {s : MemoryStore}
    {nic : NetworkInterface} (reached : MemoryStore.empty.Reaches s)
    (present : s.interfaces.get? key.name = some nic) (here : nic.spec.nodeName = settings.nodeName)
    (terminating : nic.isTerminating = true) (held : nic.HeldAlone) :
    (∀ moments result, Interleaved (reconcile settings key).run s moments result →
      ∀ m ∈ moments, m.call.connects = false) ∧
    ∀ w : World, w.store = s → ∀ mac, nic.macAddress? = some mac →
      (∀ e, addressOf nic = .error e → w.reconcile settings key = (.error e, w)) ∧
      ∀ address, addressOf nic = .ok address → w.Serves mac address →
        ∃ v, w.reconcile settings key = (departed settings key, v) ∧
          (∀ e, departed settings key = .error e → e.retry = .transient) ∧
          v.store.interfaces.get? key.name = none ∧
          v.reconcile settings key = (.ok .done, v) ∧
          Program.trace World.answer (reconcile settings key).run v = [⟨.readInterface key.name, .ok none⟩] := by
  have consistent := reached.consistent MemoryStore.consistent_empty
  constructor
  · intro moments result run m mem
    obtain ⟨earlier, later, split⟩ := List.append_of_mem mem
    exact ((ensures_departing present terminating held).sound consistent run).1 earlier m later split
  · rintro w rfl mac known
    constructor
    · intro e malformed
      rw [World.reconcile_some present, phase_malformed here known malformed]
    · intro address parsed serves
      obtain ⟨v, ended, gone⟩ :=
        reconcile_departing (consistent.named present) present here terminating held known parsed serves
      exact ⟨v, ended, fun _ => departed_transient, gone, World.reconcile_none gone, World.trace_none gone⟩

set_option maxRecDepth 8000 in
theorem departing_sample_stays_down :
    (∀ m ∈ World.moments (reconcile departingSettings departingKey).run departingWorld,
      m.call.connects = false) ∧
    ∃ v, departingWorld.reconcile departingSettings departingKey =
        (.error (.store (.notFound interfaceKind "nic-a")), v) ∧
      v.store.interfaces.get? "nic-a" = none ∧
      v.reconcile departingSettings departingKey = (.ok .done, v) := by
  have held : (departing.atVersion "1").HeldAlone := ⟨by decide, by decide⟩
  have reached : MemoryStore.empty.Reaches departingWorld.store := .single (.put departing)
  obtain ⟨down, settles⟩ := @departing_stays_down departingSettings departingKey _ _ reached rfl rfl rfl held
  refine ⟨down _ _ (World.interleaved _ departingWorld), ?_⟩
  obtain ⟨-, settled⟩ := settles departingWorld rfl "02:00:00:00:00:01" rfl
  obtain ⟨v, ended, -, gone, next, -⟩ := settled _ rfl ⟨rfl, rfl, rfl, rfl, "eth1", rfl⟩
  exact ⟨v, ended, gone, next⟩

end Pass

end LinkKeeper
