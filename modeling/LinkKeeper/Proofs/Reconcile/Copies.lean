import LinkKeeper.Proofs.Reconcile.Writes

/-!
Copies of an interface, and what the two writes of a pass make of them.

A pass writes an interface twice at most: once without the finalizer, and once with the name of its
link. Either write gives the stored interface a new version and is told here up to that.

* `NetworkInterface.unversioned`: an interface without its version.
* `Moment.Keeps`: what an interface keeps when it is written is enough to tell its link.
* `MemoryStore.Rewritten`: a store in which one interface has been written.
* `MemoryStore.released_of_update`, `MemoryStore.recorded_of_updateStatus`: what an accepted write of a
  copy that is right amounts to.
-/

namespace LinkKeeper

namespace NetworkInterface

/-- The interface without its version. -/
def unversioned (nic : NetworkInterface) : NetworkInterface := { nic with metadata.resourceVersion := none }

/-- Whether nothing holds the interface any more once it is let go. -/
def departs (nic : NetworkInterface) : Bool :=
  Phase.releases nic && (nic.withoutFinalizer.metadata.finalizers.getD []).isEmpty

variable {nic : NetworkInterface} {name : String}

theorem linkName?_of_unversioned {other : NetworkInterface} (same : nic.unversioned = other.unversioned) :
    nic.linkName? = other.linkName? :=
  show nic.unversioned.linkName? = other.unversioned.linkName? from congrArg linkName? same

theorem releases_of_unversioned {other : NetworkInterface} (same : nic.unversioned = other.unversioned) :
    Phase.releases nic = Phase.releases other :=
  show Phase.releases nic.unversioned = Phase.releases other.unversioned from congrArg Phase.releases same

theorem releases_withLinkName (nic : NetworkInterface) (name : String) :
    Phase.releases (nic.withLinkName name) = Phase.releases nic := rfl

theorem linkName?_withLinkName (resolved : name ≠ "") : (nic.withLinkName name).linkName? = some name := by
  simp [linkName?, withLinkName, nonempty, resolved]

/-- The name of a link that is recorded already changes nothing. -/
theorem withLinkName_of_recorded (recorded : nic.linkName? = some name) : nic.withLinkName name = nic := by
  obtain ⟨metadata, spec, status⟩ := nic
  cases status with
  | none => cases recorded
  | some status =>
      obtain ⟨mac, link⟩ := status
      obtain rfl : link = some name := (Option.filter_eq_some_iff.mp recorded).1
      rfl

theorem hasFinalizer_withoutFinalizer (nic : NetworkInterface) : nic.withoutFinalizer.hasFinalizer = false := by
  unfold hasFinalizer withoutFinalizer
  cases nic.metadata.finalizers with
  | none => rfl
  | some finalizers => simp

theorem releases_withoutFinalizer (nic : NetworkInterface) : Phase.releases nic.withoutFinalizer = false := by
  unfold Phase.releases
  rw [hasFinalizer_withoutFinalizer, Bool.and_false]

end NetworkInterface

/-! ### What a write keeps -/

namespace Moment

variable {stored now later : NetworkInterface}

theorem Keeps.trans (first : Keeps stored now) (second : Keeps now later) : Keeps stored later :=
  ⟨second.spec.trans first.spec, second.macAddress.trans first.macAddress,
    second.metadata.trans first.metadata⟩

theorem Keeps.macAddress? (keeps : Keeps stored now) : now.macAddress? = stored.macAddress? :=
  congrArg NetworkInterface.nonempty keeps.macAddress

/-- What the finalizers and the version do not matter for stays as it is. -/
theorem Keeps.field {α : Type} (keeps : Keeps stored now) (field : ObjectMeta → α)
    (apart : ∀ m, field { m with finalizers := none, resourceVersion := none } = field m) :
    field now.metadata = field stored.metadata := by
  rw [← apart now.metadata, keeps.metadata, apart]

theorem Keeps.name (keeps : Keeps stored now) : now.metadata.name = stored.metadata.name :=
  keeps.field (fun m => m.name) fun _ => rfl

theorem Keeps.ownerNetwork? (keeps : Keeps stored now) : now.ownerNetwork? = stored.ownerNetwork? :=
  keeps.field (fun m => ((m.ownerReferences.getD []).find? _).map OwnerReference.name) fun _ => rfl

theorem Keeps.address (keeps : Keeps stored now) : addressOf now = addressOf stored := by
  unfold addressOf
  rw [keeps.spec, keeps.name]

end Moment

/-! ### Accepted writes -/

namespace MemoryStore

/-- The second store is the first with something else under one name. -/
structure Rewritten (s t : MemoryStore) (name : String) (now : Option NetworkInterface) : Prop where
  now : t.getInterface name = now
  elsewhere : ∀ other, other ≠ name → t.getInterface other = s.getInterface other
  networks : t.networks = s.networks

theorem Rewritten.refl (s : MemoryStore) (name : String) : s.Rewritten s name (s.getInterface name) :=
  ⟨rfl, fun _ _ => rfl, rfl⟩

theorem Rewritten.trans {s t u : MemoryStore} {name : String} {now later : Option NetworkInterface}
    (first : s.Rewritten t name now) (second : t.Rewritten u name later) : s.Rewritten u name later :=
  ⟨second.now, fun other apart => (second.elsewhere other apart).trans (first.elsewhere other apart),
    second.networks.trans first.networks⟩

/-- A copy has been written in place of the stored interface that it was made of. -/
structure Accepted (s : MemoryStore) (name : String) (nic written : NetworkInterface) (t : MemoryStore) :
    Prop where
  present : s.getInterface name = some nic
  keeps : Moment.Keeps nic written
  handedOut : t.HandedOut written
  consistent : t.Consistent

section Accepted

variable {s t : MemoryStore} {nic written : NetworkInterface} {name link : String}

/-- What an accepted release amounts to. -/
theorem released_of_update (consistent : s.Consistent) (known : s.HandedOut nic)
    (named : nic.metadata.name = some name) (releases : Phase.releases nic = true)
    (accepted : s.update nic.withoutFinalizer = (.ok written, t)) :
    s.Accepted name nic written t ∧ written.unversioned = nic.withoutFinalizer.unversioned ∧
      s.Rewritten t name (if nic.departs then none else some written) := by
  cases outcome : s.target nic.withoutFinalizer with
  | error e =>
      rw [update_of_refused outcome] at accepted
      cases accepted
  | ok found =>
      obtain ⟨under, stored⟩ := found
      obtain ⟨own, -, present, -⟩ := target_eq_ok_iff.mp outcome
      obtain rfl : name = under := Option.some.inj (named.symm.trans own)
      obtain rfl : stored = nic := known.eq_of_target rfl outcome
      have handedOut := handedOut_update consistent outcome
      have touch := touches_of_update outcome
      have after := touch.consistent consistent
      have released : isReleased (s.updated stored.withoutFinalizer stored) = stored.departs := by
        have kept : (s.updated stored.withoutFinalizer stored).isTerminating = true :=
          (Bool.and_eq_true_iff.mp releases).1
        unfold isReleased NetworkInterface.departs
        rw [kept, releases]
        rfl
      rw [update_of_target outcome, released] at accepted handedOut touch after
      cases accepted
      refine ⟨⟨present, Moment.keeps_withoutFinalizer _ _, handedOut, after⟩, rfl, ?_, touch.elsewhere, rfl⟩
      unfold getInterface
      dsimp only
      split
      · exact Table.get?_erase_self _ _
      · exact Table.get?_insert_self _ _ _

/-- What an accepted write of the name of the link amounts to. -/
theorem recorded_of_updateStatus (consistent : s.Consistent) (known : s.HandedOut nic)
    (named : nic.metadata.name = some name)
    (accepted : s.updateStatus (nic.withLinkName link) = (.ok written, t)) :
    s.Accepted name nic written t ∧ written.unversioned = (nic.withLinkName link).unversioned ∧
      s.Rewritten t name (some written) := by
  cases outcome : s.target (nic.withLinkName link) with
  | error e =>
      rw [updateStatus_of_refused outcome] at accepted
      cases accepted
  | ok found =>
      obtain ⟨under, stored⟩ := found
      obtain ⟨own, -, present, -⟩ := target_eq_ok_iff.mp outcome
      obtain rfl : name = under := Option.some.inj (named.symm.trans own)
      obtain rfl : stored = nic := known.eq_of_target rfl outcome
      have handedOut := handedOut_updateStatus consistent outcome
      have touch := touches_of_updateStatus consistent outcome
      have after := touch.consistent consistent
      rw [updateStatus_of_target outcome] at accepted handedOut touch after
      cases accepted
      refine ⟨⟨present, Moment.keeps_withLinkName _ _ _, handedOut, after⟩, rfl, ?_, touch.elsewhere, rfl⟩
      exact Table.get?_insert_self _ _ _

/-- A refused write leaves the objects as they are. -/
theorem rewritten_of_refused {cause : StoreError}
    (refused : s.update written = (.error cause, t) ∨ s.updateStatus written = (.error cause, t)) :
    s.Rewritten t name (s.getInterface name) := by
  have same : t.interfaces = s.interfaces ∧ t.networks = s.networks := by
    cases outcome : s.target written with
    | ok found =>
        rw [update_of_target outcome, updateStatus_of_target outcome] at refused
        rcases refused with same | same <;> cases same
    | error e =>
        rw [update_of_refused outcome, updateStatus_of_refused outcome] at refused
        rcases refused with same | same
        · cases same
          exact Pass.refused_objects s written _
        · cases same
          exact Pass.refused_objects s written _
  obtain ⟨interfaces, networks⟩ := same
  unfold getInterface
  exact ⟨congrArg (·.get? name) interfaces, fun other _ => congrArg (·.get? other) interfaces, networks⟩

/-- No write of a copy that is up to date is refused unless that is asked for. -/
theorem not_refused {copy : NetworkInterface} {cause : StoreError}
    (refused : s.update copy = (.error cause, t) ∨ s.updateStatus copy = (.error cause, t))
    (accepts : s.pendingConflicts = 0) (named : copy.metadata.name = some name)
    (present : s.getInterface name = some nic)
    (version : nic.metadata.resourceVersion = copy.metadata.resourceVersion) : False := by
  have accepted : s.target copy = .ok (name, nic) := target_eq_ok_iff.mpr ⟨named, accepts, present, version⟩
  rw [update_of_target accepted, updateStatus_of_target accepted] at refused
  rcases refused with same | same
  · cases same
  · cases same

/-- Where no refusal is pending, none is after a write. -/
theorem accepts_after_write (accepts : s.pendingConflicts = 0) (nic : NetworkInterface) :
    (s.update nic).2.pendingConflicts = 0 ∧ (s.updateStatus nic).2.pendingConflicts = 0 := by
  have refusing (w : StoreWrite) : ((s.noted w).refused nic).pendingConflicts = 0 := by
    unfold refused
    split
    · exact Nat.sub_eq_zero_of_le (Nat.le_trans (Nat.le_of_eq accepts) (Nat.zero_le 1))
    · exact accepts
  cases outcome : s.target nic with
  | ok found =>
      rw [update_of_target outcome, updateStatus_of_target outcome]
      exact ⟨accepts, accepts⟩
  | error e =>
      rw [update_of_refused outcome, updateStatus_of_refused outcome]
      exact ⟨refusing _, refusing _⟩

end Accepted

end MemoryStore

end LinkKeeper
