import LinkKeeper.Proofs.Reconcile.Copies

/-!
Writes of a copy that is up to date.

Where no refusal has been asked for and nobody else writes, a write is accepted as long as the object is there.

* `MemoryStore.Settled`: a store that refuses nothing unless it has to.
* `MemoryStore.update_of_current`, `MemoryStore.updateStatus_of_current`: what a write of the stored copy does.
* `MemoryStore.writes_of_absent`: a write of an object that is gone.
-/

namespace LinkKeeper

namespace MemoryStore

/-- The store is consistent, and no refusal is pending. -/
structure Settled (s : MemoryStore) : Prop where
  consistent : s.Consistent
  accepts : s.pendingConflicts = 0

section Settled

variable {s : MemoryStore} {copy stored : NetworkInterface} {name : String}

theorem Settled.update (settled : s.Settled) (copy : NetworkInterface) : (s.update copy).2.Settled :=
  ⟨(Reaches.single (.update copy)).consistent settled.consistent,
    (accepts_after_write settled.accepts copy).1⟩

theorem Settled.updateStatus (settled : s.Settled) (copy : NetworkInterface) :
    (s.updateStatus copy).2.Settled :=
  ⟨(Reaches.single (.updateStatus copy)).consistent settled.consistent,
    (accepts_after_write settled.accepts copy).2⟩

theorem Settled.target (settled : s.Settled) (present : s.getInterface name = some stored)
    (own : copy.metadata.name = some name)
    (version : copy.metadata.resourceVersion = stored.metadata.resourceVersion) :
    s.target copy = .ok (name, stored) :=
  target_eq_ok_iff.mpr ⟨own, settled.accepts, present, version.symm⟩

/-- A write of everything but the status: the object goes if nothing keeps it any more. -/
theorem update_of_current (settled : s.Settled) (present : s.getInterface name = some stored)
    (own : copy.metadata.name = some name)
    (version : copy.metadata.resourceVersion = stored.metadata.resourceVersion) :
    ∃ written, (s.update copy).1 = .ok written ∧
      written.unversioned = { copy.unversioned with status := stored.status } ∧
      s.Rewritten (s.update copy).2 name (if isReleased copy then none else some written) := by
  have accepted := settled.target present own version
  have elsewhere := (touches_of_update accepted).elsewhere
  have released : isReleased (s.updated copy stored) = isReleased copy := rfl
  rw [update_of_target accepted, released] at elsewhere ⊢
  refine ⟨_, rfl, rfl, ?_, elsewhere, rfl⟩
  unfold getInterface
  dsimp only
  split
  · exact Table.get?_erase_self _ _
  · exact Table.get?_insert_self _ _ _

/-- A write of the status. -/
theorem updateStatus_of_current (settled : s.Settled) (present : s.getInterface name = some stored)
    (own : copy.metadata.name = some name)
    (version : copy.metadata.resourceVersion = stored.metadata.resourceVersion) :
    ∃ written, (s.updateStatus copy).1 = .ok written ∧
      written.unversioned = { stored.unversioned with status := copy.status } ∧
      s.Rewritten (s.updateStatus copy).2 name (some written) := by
  have accepted := settled.target present own version
  have elsewhere := (touches_of_updateStatus settled.consistent accepted).elsewhere
  rw [updateStatus_of_target accepted] at elsewhere ⊢
  exact ⟨_, rfl, rfl, Table.get?_insert_self _ _ _, elsewhere, rfl⟩

/-- An object that is gone cannot be written. -/
theorem writes_of_absent (settled : s.Settled) (absent : s.getInterface name = none)
    (own : copy.metadata.name = some name) :
    ((s.update copy).1 = .error (.notFound interfaceKind name) ∧ s.Rewritten (s.update copy).2 name none) ∧
      (s.updateStatus copy).1 = .error (.notFound interfaceKind name) ∧
        s.Rewritten (s.updateStatus copy).2 name none := by
  have refusal := target_of_absent own settled.accepts absent
  have update := update_of_refused refusal
  have status := updateStatus_of_refused refusal
  have unwritten : s.Rewritten _ name _ := rewritten_of_refused (.inl update)
  have kept : s.Rewritten _ name _ := rewritten_of_refused (.inr status)
  rw [absent] at unwritten kept
  rw [update, status]
  exact ⟨⟨rfl, unwritten⟩, rfl, kept⟩

end Settled

end MemoryStore

end LinkKeeper
