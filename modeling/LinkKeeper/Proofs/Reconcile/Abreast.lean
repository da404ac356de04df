import LinkKeeper.Proofs.Reconcile.Notes
import LinkKeeper.Proofs.Reconcile.Simulation
import LinkKeeper.Proofs.Store.Current

/-!
Passes over one interface in two worlds.

Two worlds that hold the same networks and the same interface, up to its version, and that answer the same outside
of the store let a pass go the same way, whatever else is in them.

* `World.Spares`: what a pass over an interface leaves as it was.
* `World.Abreast`: two worlds in which the same has happened to an interface.
* `World.Abreast.simulation`: passes over it go the same way.
* `World.Abreast.reconcile`: they give the same result and note the same.
-/

namespace LinkKeeper

namespace World

/-- Nothing but the interface with the name and the notes has changed. -/
structure Spares (name : String) (before w : World) : Prop where
  settled : w.store.Settled
  elsewhere : ∀ other, other ≠ name → w.store.getInterface other = before.store.getInterface other
  networks : w.store.networks = before.store.networks
  outside : w.fresh = before.fresh

/-- In both worlds the same has happened to the interface with the name, up to its version, and nothing else. -/
structure Abreast (name : String) (w₀ v₀ w v : World) : Prop where
  left : Spares name w₀ w
  right : Spares name v₀ v
  interface : (w.store.getInterface name).map NetworkInterface.unversioned =
    (v.store.getInterface name).map NetworkInterface.unversioned
  noted : ∃ more, w.notes = w₀.notes.append more ∧ v.notes = v₀.notes.append more

/-- The copies are those in the stores, or the interface is gone from both. -/
structure Holding (name : String) (w₀ v₀ : World) (nic other : NetworkInterface) (w v : World) : Prop where
  abreast : Abreast name w₀ v₀ w v
  same : nic.unversioned = other.unversioned
  named : nic.metadata.name = some name
  stored : (w.store.getInterface name = some nic ∧ v.store.getInterface name = some other) ∨
    (w.store.getInterface name = none ∧ v.store.getInterface name = none)

section Abreast

variable {name : String} {w₀ v₀ w v : World} {nic other : NetworkInterface}

theorem Holding.named_other (holding : Holding name w₀ v₀ nic other w v) : other.metadata.name = some name :=
  (NetworkInterface.congr_unversioned holding.same (fun nic => nic.metadata.name) fun _ => rfl).symm.trans
    holding.named

/-- The stores may be written at the name. -/
theorem Abreast.rewritten {s t : MemoryStore} {here there : Option NetworkInterface}
    (abreast : Abreast name w₀ v₀ w v) (settled : s.Settled) (settledOther : t.Settled)
    (first : w.store.Rewritten s name here) (second : v.store.Rewritten t name there)
    (same : here.map NetworkInterface.unversioned = there.map NetworkInterface.unversioned) :
    Abreast name w₀ v₀ { w with store := s } { v with store := t } where
  left := ⟨settled, fun other apart => (first.elsewhere other apart).trans (abreast.left.elsewhere other apart),
    first.networks.trans abreast.left.networks, abreast.left.outside⟩
  right := ⟨settledOther,
    fun other apart => (second.elsewhere other apart).trans (abreast.right.elsewhere other apart),
    second.networks.trans abreast.right.networks, abreast.right.outside⟩
  interface := by
    show (s.getInterface name).map _ = (t.getInterface name).map _
    rw [first.now, second.now]
    exact same
  noted := abreast.noted

/-- What both stores have accepted becomes what is held. -/
theorem Holding.accepted {p q : Except StoreError NetworkInterface × MemoryStore}
    {written writtenOther : NetworkInterface} (gone : Bool) (holding : Holding name w₀ v₀ nic other w v)
    (settled : p.2.Settled) (settledOther : q.2.Settled) (first : p.1 = .ok written)
    (second : q.1 = .ok writtenOther) (same : written.unversioned = writtenOther.unversioned)
    (named : written.metadata.name = some name)
    (here : w.store.Rewritten p.2 name (if gone then none else some written))
    (there : v.store.Rewritten q.2 name (if gone then none else some writtenOther)) :
    Pass.Ends (Holding name w₀ v₀) (Abreast name w₀ v₀) (p.map id ({ w with store := · }))
      (q.map id ({ v with store := · })) := by
  obtain ⟨_, s⟩ := p
  obtain ⟨_, t⟩ := q
  cases first
  cases second
  cases gone with
  | true =>
      exact .ok ⟨holding.abreast.rewritten settled settledOther here there rfl, same, named,
        .inr ⟨here.now, there.now⟩⟩
  | false =>
      exact .ok ⟨holding.abreast.rewritten settled settledOther here there (congrArg some same), same, named,
        .inl ⟨here.now, there.now⟩⟩

/-- What is gone from both is written in neither. -/
theorem Holding.refused {p q : Except StoreError NetworkInterface × MemoryStore} {e : StoreError}
    (holding : Holding name w₀ v₀ nic other w v) (settled : p.2.Settled) (settledOther : q.2.Settled)
    (first : p.1 = .error e) (second : q.1 = .error e) (here : w.store.Rewritten p.2 name none)
    (there : v.store.Rewritten q.2 name none) :
    Pass.Ends (Holding name w₀ v₀) (Abreast name w₀ v₀) (p.map id ({ w with store := · }))
      (q.map id ({ v with store := · })) := by
  obtain ⟨_, s⟩ := p
  obtain ⟨_, t⟩ := q
  cases first
  cases second
  exact .error (holding.abreast.rewritten settled settledOther here there rfl)

/-- Taking the finalizer off. -/
theorem Holding.release (holding : Holding name w₀ v₀ nic other w v) :
    Pass.Ends (Holding name w₀ v₀) (Abreast name w₀ v₀) (World.answer (.writeInterface nic.withoutFinalizer) w)
      (World.answer (.writeInterface other.withoutFinalizer) v) := by
  have named : nic.withoutFinalizer.metadata.name = some name := holding.named
  have namedOther : other.withoutFinalizer.metadata.name = some name := holding.named_other
  have settled := holding.abreast.left.settled
  have settledOther := holding.abreast.right.settled
  have here := settled.update nic.withoutFinalizer
  have there := settledOther.update other.withoutFinalizer
  rcases holding.stored with ⟨present, presentOther⟩ | ⟨absent, absentOther⟩
  · obtain ⟨written, accepted, kept, rewritten⟩ := MemoryStore.update_of_current settled present named rfl
    obtain ⟨writtenOther, acceptedOther, keptOther, rewrittenOther⟩ :=
      MemoryStore.update_of_current settledOther presentOther namedOther rfl
    have leaves : MemoryStore.isReleased nic.withoutFinalizer = MemoryStore.isReleased other.withoutFinalizer :=
      NetworkInterface.congr_unversioned holding.same
        (fun nic => MemoryStore.isReleased nic.withoutFinalizer) fun _ => rfl
    have same : written.unversioned = writtenOther.unversioned := by
      rw [kept, keptOther, NetworkInterface.withoutFinalizer_congr holding.same,
        NetworkInterface.congr_unversioned holding.same NetworkInterface.status fun _ => rfl]
    have own : written.metadata.name = some name := by
      rw [← named]
      exact congrArg (fun nic => nic.metadata.name) kept
    rw [leaves] at rewritten
    exact holding.accepted _ here there accepted acceptedOther same own rewritten rewrittenOther
  · obtain ⟨⟨refused, unwritten⟩, -⟩ := MemoryStore.writes_of_absent settled absent named
    obtain ⟨⟨refusedOther, unwrittenOther⟩, -⟩ := MemoryStore.writes_of_absent settledOther absentOther namedOther
    exact holding.refused here there refused refusedOther unwritten unwrittenOther

/-- Recording the name of the link. -/
theorem Holding.record (link : String) (holding : Holding name w₀ v₀ nic other w v) :
    Pass.Ends (Holding name w₀ v₀) (Abreast name w₀ v₀) (World.answer (.writeStatus (nic.withLinkName link)) w)
      (World.answer (.writeStatus (other.withLinkName link)) v) := by
  have named : (nic.withLinkName link).metadata.name = some name := holding.named
  have namedOther : (other.withLinkName link).metadata.name = some name := holding.named_other
  have settled := holding.abreast.left.settled
  have settledOther := holding.abreast.right.settled
  have here := settled.updateStatus (nic.withLinkName link)
  have there := settledOther.updateStatus (other.withLinkName link)
  rcases holding.stored with ⟨present, presentOther⟩ | ⟨absent, absentOther⟩
  · obtain ⟨written, accepted, kept, rewritten⟩ := MemoryStore.updateStatus_of_current settled present named rfl
    obtain ⟨writtenOther, acceptedOther, keptOther, rewrittenOther⟩ :=
      MemoryStore.updateStatus_of_current settledOther presentOther namedOther rfl
    have same : written.unversioned = writtenOther.unversioned := by
      rw [kept, keptOther, holding.same,
        NetworkInterface.congr_unversioned holding.same (fun nic => (nic.withLinkName link).status) fun _ => rfl]
    have own : written.metadata.name = some name := by
      rw [← holding.named]
      exact congrArg (fun nic => nic.metadata.name) kept
    exact holding.accepted false here there accepted acceptedOther same own rewritten rewrittenOther
  · obtain ⟨-, refused, unwritten⟩ := MemoryStore.writes_of_absent settled absent named
    obtain ⟨-, refusedOther, unwrittenOther⟩ := MemoryStore.writes_of_absent settledOther absentOther namedOther
    exact holding.refused here there refused refusedOther unwritten unwrittenOther

/-- What is asked outside of the store. -/
theorem Holding.outside {c : Call} (outside : c.toStore = false) (started : w₀.fresh = v₀.fresh)
    (holding : Holding name w₀ v₀ nic other w v) :
    (World.answer c w).1 = (World.answer c v).1 ∧
      Holding name w₀ v₀ nic other (World.answer c w).2 (World.answer c v).2 := by
  obtain ⟨abreast, same, named, stored⟩ := holding
  obtain ⟨left, right, interface, more, noted, notedOther⟩ := abreast
  have first := forgets_answer outside w
  have second := forgets_answer outside v
  have alike : w.fresh = v.fresh := left.outside.trans (started.trans right.outside.symm)
  rw [← alike] at second
  refine ⟨first.answer.trans second.answer.symm, ⟨?_, ?_, ?_, more.append (World.answer c w.fresh).2.notes, ?_, ?_⟩,
    same, named, ?_⟩
  · exact ⟨first.store ▸ left.settled, by rw [first.store]; exact left.elsewhere, by rw [first.store, left.networks],
      first.outside.trans left.outside⟩
  · exact ⟨second.store ▸ right.settled, by rw [second.store]; exact right.elsewhere,
      by rw [second.store, right.networks], second.outside.trans (alike.symm.trans left.outside |>.trans started)⟩
  · rw [first.store, second.store]
    exact interface
  · rw [first.notes, noted, Notes.append_assoc]
  · rw [second.notes, notedOther, Notes.append_assoc]
  · rw [first.store, second.store]
    exact stored

/-- Passes over the interface go the same way in both worlds. -/
theorem simulation (networks : w₀.store.networks = v₀.store.networks) (started : w₀.fresh = v₀.fresh) :
    Pass.Simulation World.answer World.answer True name (Abreast name w₀ v₀) (Holding name w₀ v₀) where
  level_of_copies holding := holding.abreast
  alike holding := .of_unversioned holding.same
  release holding := holding.release
  record link holding := holding.record link
  outside outside holding := holding.outside outside started
  read := by
    intro w v abreast
    have same := abreast.interface
    show Pass.Ends _ _ (.ok (w.store.getInterface name), w) (.ok (v.store.getInterface name), v)
    cases here : w.store.getInterface name with
    | none =>
        rw [here] at same
        rw [Option.map_eq_none_iff.mp same.symm]
        exact .ok (.absent abreast)
    | some nic =>
        rw [here] at same
        obtain ⟨other, there, alike⟩ := Option.map_eq_some_iff.mp same.symm
        rw [there]
        exact .ok (.copy ⟨abreast, alike.symm, abreast.left.settled.consistent.named here, .inl ⟨here, there⟩⟩)
  network := by
    intro nic other w v owner holding _
    have same : w.store.networks = v.store.networks :=
      holding.abreast.left.networks.trans (networks.trans holding.abreast.right.networks.symm)
    refine .ok ⟨?_, holding⟩
    exact congrArg (fun networks => (networks.get? owner).map desiredRoutes) same

/-- Two worlds in which passes over the interface with the name go the same way from now on. -/
structure Twins (name : String) (w v : World) : Prop where
  settled : w.store.Settled
  settledOther : v.store.Settled
  networks : w.store.networks = v.store.networks
  outside : w.fresh = v.fresh
  interface : (w.store.getInterface name).map NetworkInterface.unversioned =
    (v.store.getInterface name).map NetworkInterface.unversioned

/-- A pass over the interface gives the same result in both, notes the same, and changes nothing else. -/
theorem Twins.reconcile {key : ObjectKey} (twins : Twins key.name w v) (settings : Settings) :
    (w.reconcile settings key).1 = (v.reconcile settings key).1 ∧
      Abreast key.name w v (w.reconcile settings key).2 (v.reconcile settings key).2 := by
  have started : Abreast key.name w v w v :=
    ⟨⟨twins.settled, fun _ _ => rfl, rfl, rfl⟩, ⟨twins.settledOther, fun _ _ => rfl, rfl, rfl⟩, twins.interface,
      .none, w.notes.append_none.symm, v.notes.append_none.symm⟩
  exact ((simulation twins.networks twins.outside).reconcile settings started).ends.eq

end Abreast

end World

end LinkKeeper
