import LinkKeeper.Proofs.Reconcile.Simulation
import LinkKeeper.Store.Cluster

/-!
A pass over one store or another.

A pass asks its store for four things. What is left of its calls is answered from outside of the store, the same for
every store.

* `ObjectStore`: a store as a pass uses it; `ObjectStore.memory` and `ObjectStore.cluster` are the two.
* `ObjectStore.reconcile`, `ObjectStore.trace`: a pass over a store, and what it calls.
* `ObjectStore.reconcile_ended`: a pass that tears a link down and lets its interface go.
* `World.reconcile_eq`: passes in a world are passes over the store in memory.
-/

namespace LinkKeeper

/-- A store as a pass uses it. -/
structure ObjectStore (σ : Type) where
  getInterface : String → σ → Except StoreError (Option NetworkInterface) × σ
  update : NetworkInterface → σ → Except StoreError NetworkInterface × σ
  updateStatus : NetworkInterface → σ → Except StoreError NetworkInterface × σ
  getNetwork : String → σ → Except StoreError (Option PrivateNetwork) × σ

/-- What is outside of the store: it answers the other calls of a pass. -/
abbrev Outside (ω : Type) := (c : Call) → ω → c.Answer × ω

namespace ObjectStore

variable {σ ω : Type}

/-- The store in memory. -/
def memory : ObjectStore MemoryStore where
  getInterface name s := (.ok (s.getInterface name), s)
  update nic s := s.update nic
  updateStatus nic s := s.updateStatus nic
  getNetwork name s := (.ok (s.getNetwork name), s)

/-- The store behind an API that answers requests. -/
def cluster (answer : ApiRequest → σ → Option Http.Response × σ) : ObjectStore σ where
  getInterface name := Program.run answer (ClusterStore.getInterface name)
  update nic := Program.run answer (ClusterStore.update nic)
  updateStatus nic := Program.run answer (ClusterStore.updateStatus nic)
  getNetwork name := Program.run answer (ClusterStore.getNetwork name)

/-- Answers the calls of a pass: those for the store from the store, the others from outside of it. -/
def answer (store : ObjectStore σ) (outside : Outside ω) : (c : Call) → σ × ω → c.Answer × (σ × ω)
  | .readInterface name, (s, w) => (store.getInterface name s).map id (·, w)
  | .writeInterface nic, (s, w) => (store.update nic s).map id (·, w)
  | .writeStatus nic, (s, w) => (store.updateStatus nic s).map id (·, w)
  | .readNetwork name, (s, w) => (store.getNetwork name s).map id (·, w)
  | c, (s, w) => (outside c w).map id (s, ·)

theorem answer_outside (store : ObjectStore σ) (outside : Outside ω) {c : Call} (apart : c.toStore = false)
    (s : σ) (w : ω) : store.answer outside c (s, w) = (outside c w).map id (s, ·) := by
  cases c with
  | readInterface | writeInterface | writeStatus | readNetwork => cases apart
  | _ => rfl

/-- Runs a pass over the interface with the key. -/
def reconcile (store : ObjectStore σ) (outside : Outside ω) (settings : Settings) (key : ObjectKey) (start : σ × ω) :
    Except KeeperError Outcome × (σ × ω) :=
  Program.run (store.answer outside) (ExceptT.run (Pass.reconcile settings key)) start

/-- The calls of a pass with their answers. -/
def trace (store : ObjectStore σ) (outside : Outside ω) (settings : Settings) (key : ObjectKey) (start : σ × ω) :
    List Pass.Event :=
  Program.trace (store.answer outside) (ExceptT.run (Pass.reconcile settings key)) start

section Ended

variable {store : ObjectStore σ} {outside : Outside ω}

theorem run_call {ε α : Type} {wrap : ε → KeeperError} {p : Program Call Call.Answer (Except ε α)} {a : α}
    {s t : σ × ω} (ran : Program.run (store.answer outside) p s = (.ok a, t)) :
    Program.run (store.answer outside) (Pass.call wrap p).run s = (.ok a, t) := by
  unfold Pass.call
  rw [ExceptT.run_mk, Program.run_bind, ran]
  rfl

/-- A pass that ends once a link is torn down and the finalizer is taken off. -/
theorem reconcile_ended {settings : Settings} {key : ObjectKey} {nic written : NetworkInterface} {mac : String}
    {address : Net.Network} {s t : σ} {w v : ω} {last : σ × ω}
    (read : store.answer outside (.readInterface key.name) (s, w) = (.ok (some nic), t, w))
    (active : Phase.of settings nic = .ok (.active ⟨mac, address, [.tearDownLink, .releaseFinalizer]⟩))
    (torn : outside (.tearDownLink mac address) w = (.ok (), v))
    (wrote : store.answer outside (.writeInterface nic.withoutFinalizer) (t, v) = (.ok written, last)) :
    store.reconcile outside settings key (s, w) = (.ok .done, last) := by
  have asked : Program.run (store.answer outside) (Pass.readInterface key.name).run (s, w) = (.ok (some nic), t, w) :=
    run_call ((Program.run_query _ _ _).trans read)
  have tore : Program.run (store.answer outside) (Pass.tearDownLink mac address).run (t, w) = (.ok (), t, v) := by
    have told : store.answer outside (.tearDownLink mac address) (t, w) = (.ok (), t, v) := by
      rw [answer_outside _ _ rfl, torn]
      rfl
    exact run_call ((Program.run_query _ _ _).trans told)
  have released : Program.run (store.answer outside) (Pass.release ⟨nic, false⟩).run (t, v) =
      (.ok ⟨written, true⟩, last) :=
    Program.run_except_bind_ok (run_call ((Program.run_query _ _ _).trans wrote))
  have stepped : Program.run (store.answer outside)
      (Pass.steps key mac address ⟨nic, false⟩ [.tearDownLink, .releaseFinalizer]).run (t, w) =
        (.ok ⟨written, true⟩, last) :=
    (Program.run_except_bind_ok (Program.run_except_bind_ok tore)).trans (Program.run_except_bind_ok released)
  refine (Program.run_except_bind_ok asked).trans ?_
  dsimp only
  rw [active]
  exact Program.run_except_bind_ok stepped

end Ended

end ObjectStore

namespace World

/-- The links and the metadata service of a world, beside its store. -/
def outside : Outside (WorldLinks × MemoryInstance) := fun c w =>
  (World.answer c ⟨.empty, w.1, w.2⟩).map id fun world => (world.links, world.machine)

theorem answer_eq (c : Call) (w : World) :
    World.answer c w =
      (ObjectStore.memory.answer outside c (w.store, w.links, w.machine)).map id fun s => ⟨s.1, s.2.1, s.2.2⟩ := by
  cases c <;> rfl

/-- A pass in a world is a pass over its store in memory. -/
theorem reconcile_eq (w : World) (settings : Settings) (key : ObjectKey) :
    w.reconcile settings key =
      (ObjectStore.memory.reconcile outside settings key (w.store, w.links, w.machine)).map id fun s =>
        ⟨s.1, s.2.1, s.2.2⟩ := by
  unfold reconcile ObjectStore.reconcile
  generalize ExceptT.run (Pass.reconcile settings key) = program
  induction program generalizing w with
  | done result => rfl
  | ask c next ih =>
      rw [Program.run_ask, Program.run_ask, answer_eq]
      exact ih _ _

end World

end LinkKeeper
