import LinkKeeper.Store.Memory

/-!
Versions in the store in memory.

Many writers share the store. What keeps them from overwriting each other is that a version is never
given out twice, so that it stands for one state of one object for ever.

* `StoreChange`, `MemoryStore.Reaches`: what writers can do to the store.
* `MemoryStore.Consistent`: the invariant of every store that writers can reach.
* `MemoryStore.Reaches.stored_of_issued`: whatever is done to the store, an object that is found at a
  version given out before was there before, under the same name.
* `MemoryStore.HandedOut`, `MemoryStore.Outdated`: what a reader knows of the copy that it holds.
-/

namespace LinkKeeper

/-- What can be done to the store: the operations of its users, and the removal of an object. -/
inductive StoreChange where
  | put (nic : NetworkInterface)
  | putNetwork (network : PrivateNetwork)
  | update (nic : NetworkInterface)
  | updateStatus (nic : NetworkInterface)
  | remove (name : String)
  | removeNetwork (name : String)
  | list (selector : String)
  | refuseNext (writes : Nat)
  | failLists (on : Bool)
  | forgetWrites

/-- The store after a change. -/
def StoreChange.apply (s : MemoryStore) : StoreChange → MemoryStore
  | .put nic => s.put nic
  | .putNetwork network => s.putNetwork network
  | .update nic => (s.update nic).2
  | .updateStatus nic => (s.updateStatus nic).2
  | .remove name => { s with interfaces := s.interfaces.erase name }
  | .removeNetwork name => { s with networks := s.networks.erase name }
  | .list selector => (s.list selector).2
  | .refuseNext writes => { s with pendingConflicts := writes }
  | .failLists on => { s with listsFailing := on }
  | .forgetWrites => { s with writes := [] }

namespace MemoryStore

/-! ### The two writes -/

section Writes

variable {s : MemoryStore} {nic stored : NetworkInterface} {name : String}

/-- A write is accepted when the object has a name, no refusal is pending, and what is stored under the
name has the version that the object carries. -/
theorem target_eq_ok_iff :
    s.target nic = .ok (name, stored) ↔
      nic.metadata.name = some name ∧ s.pendingConflicts = 0 ∧
        s.interfaces.get? name = some stored ∧
        stored.metadata.resourceVersion = nic.metadata.resourceVersion := by
  constructor
  · intro accepted
    unfold target at accepted
    split at accepted
    · cases accepted
    · rename_i own named
      split at accepted
      · cases accepted
      · rename_i quiet
        split at accepted
        · cases accepted
        · rename_i old found
          split at accepted
          · rename_i same
            cases accepted
            exact ⟨named, Nat.eq_zero_of_not_pos quiet, found, same⟩
          · cases accepted
  · rintro ⟨named, quiet, found, same⟩
    simp [target, named, quiet, found, same]

theorem target_of_absent (named : nic.metadata.name = some name) (quiet : s.pendingConflicts = 0)
    (absent : s.interfaces.get? name = none) : s.target nic = .error (.notFound interfaceKind name) := by
  simp [target, named, quiet, absent]

/-- A write is refused for one of three reasons. -/
theorem target_error {e : StoreError} (refusal : s.target nic = .error e) :
    (nic.metadata.name = none ∧ e = .unnamed interfaceKind) ∨
      ∃ name, nic.metadata.name = some name ∧
        (e = .conflict interfaceKind name ∨ e = .notFound interfaceKind name) := by
  unfold target at refusal
  split at refusal
  · rename_i unnamed
    cases refusal
    exact .inl ⟨unnamed, rfl⟩
  · rename_i own named
    refine .inr ⟨own, named, ?_⟩
    split at refusal
    · cases refusal
      exact .inl rfl
    · split at refusal
      · cases refusal
        exact .inr rfl
      · split at refusal
        · cases refusal
        · cases refusal
          exact .inl rfl

/-- The object that a write of everything but the status leaves behind. -/
def updated (s : MemoryStore) (nic stored : NetworkInterface) : NetworkInterface :=
  ⟨nic.metadata.atVersion s.nextVersion, nic.spec, stored.status⟩

/-- The object that a write of the status leaves behind. -/
def statusUpdated (s : MemoryStore) (nic stored : NetworkInterface) : NetworkInterface :=
  ⟨stored.metadata.atVersion s.nextVersion, stored.spec, nic.status⟩

theorem update_of_target (accepted : s.target nic = .ok (name, stored)) :
    s.update nic =
      (.ok (s.updated nic stored),
        { s with
          version := s.version + 1
          interfaces :=
            if isReleased (s.updated nic stored) then s.interfaces.erase name
            else s.interfaces.insert name (s.updated nic stored)
          writes := s.writes ++ [.update (nic.metadata.name.getD "")] }) := by
  have same : (s.noted (.update (nic.metadata.name.getD ""))).target nic = .ok (name, stored) := accepted
  unfold update
  simp only [same]
  rfl

theorem update_of_refused {e : StoreError} (refusal : s.target nic = .error e) :
    s.update nic = (.error e, (s.noted (.update (nic.metadata.name.getD ""))).refused nic) := by
  have same : (s.noted (.update (nic.metadata.name.getD ""))).target nic = .error e := refusal
  unfold update
  simp only [same]

theorem updateStatus_of_target (accepted : s.target nic = .ok (name, stored)) :
    s.updateStatus nic =
      (.ok (s.statusUpdated nic stored),
        { s with
          version := s.version + 1
          interfaces := s.interfaces.insert name (s.statusUpdated nic stored)
          writes := s.writes ++ [.updateStatus (nic.metadata.name.getD "")] }) := by
  have same : (s.noted (.updateStatus (nic.metadata.name.getD ""))).target nic = .ok (name, stored) := accepted
  unfold updateStatus
  simp only [same]
  rfl

theorem updateStatus_of_refused {e : StoreError} (refusal : s.target nic = .error e) :
    s.updateStatus nic =
      (.error e, (s.noted (.updateStatus (nic.metadata.name.getD ""))).refused nic) := by
  have same : (s.noted (.updateStatus (nic.metadata.name.getD ""))).target nic = .error e := refusal
  unfold updateStatus
  simp only [same]

end Writes

/-! ### Versions that have been given out -/

/-- The version has been given out. -/
def Issued (s : MemoryStore) (version : Option String) : Prop :=
  ∃ n ≤ s.version, version = some (toString n)

theorem toString_nat_injective {m n : Nat} (same : toString m = toString n) : m = n := by
  have digits : Nat.toDigits 10 m = Nat.toDigits 10 n := by
    rw [← Nat.toList_repr, ← Nat.toList_repr]
    exact congrArg String.toList same
  rw [← Nat.ofDigitChars_ten_toDigits (n := m), digits, Nat.ofDigitChars_ten_toDigits]

theorem Issued.ne_of_lt {s : MemoryStore} {version : Option String} {n : Nat}
    (issued : s.Issued version) (later : s.version < n) : version ≠ some (toString n) := by
  obtain ⟨m, le, rfl⟩ := issued
  intro same
  have : m = n := toString_nat_injective (Option.some.inj same)
  omega

theorem Issued.mono {s t : MemoryStore} {version : Option String} (issued : s.Issued version)
    (rising : s.version ≤ t.version) : t.Issued version := by
  obtain ⟨n, le, at_n⟩ := issued
  exact ⟨n, Nat.le_trans le rising, at_n⟩

/-- Every interface is stored under its own name, at a version that has been given out, and no two
are stored at the same one. -/
structure Consistent (s : MemoryStore) : Prop where
  named : ∀ {name nic}, s.interfaces.get? name = some nic → nic.metadata.name = some name
  issued : ∀ {name nic}, s.interfaces.get? name = some nic → s.Issued nic.metadata.resourceVersion
  distinct : ∀ {name other nic otherNic}, s.interfaces.get? name = some nic →
    s.interfaces.get? other = some otherNic →
      nic.metadata.resourceVersion = otherNic.metadata.resourceVersion → name = other

theorem consistent_empty : Consistent empty where
  named := fun found => nomatch found
  issued := fun found => nomatch found
  distinct := fun found => nomatch found

/-! ### What one change does -/

/-- A change touches at most one name. An interface that is found there afterwards was there before
or is new: then it has that name, and a version of its own. -/
structure Touches (s t : MemoryStore) (name : String) : Prop where
  rising : s.version ≤ t.version
  elsewhere : ∀ other, other ≠ name → t.interfaces.get? other = s.interfaces.get? other
  there : ∀ nic, t.interfaces.get? name = some nic →
    s.interfaces.get? name = some nic ∨
      nic.metadata.name = some name ∧ s.version < t.version ∧
        nic.metadata.resourceVersion = some (toString t.version)

section Touches

variable {s t : MemoryStore} {name : String} {nic : NetworkInterface}

theorem Touches.of_same (same : t.interfaces = s.interfaces) (rising : s.version ≤ t.version) :
    Touches s t name where
  rising := rising
  elsewhere := fun other _ => by rw [same]
  there := fun nic found => .inl (by rwa [same] at found)

theorem Touches.of_erase (erased : t.interfaces = s.interfaces.erase name)
    (rising : s.version ≤ t.version) : Touches s t name where
  rising := rising
  elsewhere := fun other ne => by rw [erased, Table.get?_erase_of_ne _ ne]
  there := fun nic found => by
    rw [erased, Table.get?_erase_self] at found
    cases found

theorem Touches.of_insert (inserted : t.interfaces = s.interfaces.insert name nic)
    (own : nic.metadata.name = some name) (next : t.version = s.version + 1)
    (fresh : nic.metadata.resourceVersion = some s.nextVersion) : Touches s t name where
  rising := by omega
  elsewhere := fun other ne => by rw [inserted, Table.get?_insert_of_ne _ ne]
  there := fun found here => by
    rw [inserted, Table.get?_insert_self] at here
    obtain rfl := Option.some.inj here
    refine .inr ⟨own, by omega, ?_⟩
    rw [fresh, next]
    rfl

theorem put_touches (s : MemoryStore) (nic : NetworkInterface) : ∃ name, Touches s (s.put nic) name := by
  unfold put
  cases own : nic.metadata.name with
  | none => exact ⟨"", .of_same rfl (Nat.le_refl _)⟩
  | some name => exact ⟨name, .of_insert rfl own rfl rfl⟩

theorem putNetwork_touches (s : MemoryStore) (network : PrivateNetwork) :
    Touches s (s.putNetwork network) name := by
  unfold putNetwork
  cases network.metadata.name with
  | none => exact .of_same rfl (Nat.le_refl _)
  | some name => exact .of_same rfl (Nat.le_succ _)

theorem refused_touches (s : MemoryStore) (nic : NetworkInterface) (w : StoreWrite) :
    Touches s ((s.noted w).refused nic) name := by
  unfold refused
  split
  · exact .of_same rfl (Nat.le_refl _)
  · exact .of_same rfl (Nat.le_refl _)

theorem touches_of_update {stored : NetworkInterface} (accepted : s.target nic = .ok (name, stored)) :
    Touches s (s.update nic).2 name := by
  rw [update_of_target accepted]
  by_cases released : isReleased (s.updated nic stored) = true
  · exact .of_erase (if_pos released) (Nat.le_succ _)
  · exact .of_insert (if_neg released) (target_eq_ok_iff.mp accepted).1 rfl rfl

theorem touches_of_updateStatus {stored : NetworkInterface} (good : s.Consistent)
    (accepted : s.target nic = .ok (name, stored)) : Touches s (s.updateStatus nic).2 name := by
  obtain ⟨-, -, found, -⟩ := target_eq_ok_iff.mp accepted
  have own : stored.metadata.name = some name := good.named found
  rw [updateStatus_of_target accepted]
  exact .of_insert rfl own rfl rfl

theorem update_touches (s : MemoryStore) (nic : NetworkInterface) :
    ∃ name, Touches s (s.update nic).2 name := by
  cases outcome : s.target nic with
  | error e =>
      rw [update_of_refused outcome]
      exact ⟨"", refused_touches s nic _⟩
  | ok found => exact ⟨found.1, touches_of_update outcome⟩

theorem updateStatus_touches (good : s.Consistent) (nic : NetworkInterface) :
    ∃ name, Touches s (s.updateStatus nic).2 name := by
  cases outcome : s.target nic with
  | error e =>
      rw [updateStatus_of_refused outcome]
      exact ⟨"", refused_touches s nic _⟩
  | ok found => exact ⟨found.1, touches_of_updateStatus good outcome⟩

/-- What every change does to the interfaces. -/
theorem change_touches (good : s.Consistent) (c : StoreChange) : ∃ name, Touches s (c.apply s) name := by
  cases c with
  | put nic => exact put_touches s nic
  | putNetwork network => exact ⟨"", putNetwork_touches s network⟩
  | update nic => exact update_touches s nic
  | updateStatus nic => exact updateStatus_touches good nic
  | remove name => exact ⟨name, .of_erase rfl (Nat.le_refl _)⟩
  | list selector =>
      refine ⟨"", ?_⟩
      unfold StoreChange.apply list
      dsimp only
      split
      · exact .of_same rfl (Nat.le_refl _)
      · exact .of_same rfl (Nat.le_refl _)
  | removeNetwork | refuseNext | failLists | forgetWrites => exact ⟨"", .of_same rfl (Nat.le_refl _)⟩

/-- An object that is found after a change at a version given out before has not been changed. -/
theorem Touches.stored_of_issued {other : String} (touch : Touches s t name)
    (issued : s.Issued nic.metadata.resourceVersion) (found : t.interfaces.get? other = some nic) :
    s.interfaces.get? other = some nic := by
  by_cases here : other = name
  · subst here
    rcases touch.there nic found with kept | ⟨-, later, fresh⟩
    · exact kept
    · exact absurd fresh (issued.ne_of_lt later)
  · rw [← touch.elsewhere other here]
    exact found

/-- A change keeps the store consistent. -/
theorem Touches.consistent (touch : Touches s t name) (good : s.Consistent) : t.Consistent := by
  -- Every object found afterwards was there before under the same name, or is the new one.
  have origin : ∀ {other nic}, t.interfaces.get? other = some nic →
      s.interfaces.get? other = some nic ∨
        other = name ∧ nic.metadata.name = some other ∧ s.version < t.version ∧
          nic.metadata.resourceVersion = some (toString t.version) := by
    intro other nic found
    by_cases here : other = name
    · subst here
      exact (touch.there nic found).imp id fun fresh => ⟨rfl, fresh⟩
    · rw [touch.elsewhere other here] at found
      exact .inl found
  constructor
  · intro other nic found
    rcases origin found with kept | ⟨-, own, -⟩
    · exact good.named kept
    · exact own
  · intro other nic found
    rcases origin found with kept | ⟨-, -, -, fresh⟩
    · exact (good.issued kept).mono touch.rising
    · exact ⟨t.version, Nat.le_refl _, fresh⟩
  · intro one two oneNic twoNic foundOne foundTwo same
    rcases origin foundOne with keptOne | ⟨hereOne, -, later, freshOne⟩
    · rcases origin foundTwo with keptTwo | ⟨-, -, later, freshTwo⟩
      · exact good.distinct keptOne keptTwo same
      · exact absurd (same.trans freshTwo) ((good.issued keptOne).ne_of_lt later)
    · rcases origin foundTwo with keptTwo | ⟨hereTwo, -⟩
      · exact absurd (same.symm.trans freshOne) ((good.issued keptTwo).ne_of_lt later)
      · rw [hereOne, hereTwo]

end Touches

/-! ### What many changes do -/

/-- The second store can come out of the first by the doings of writers. -/
inductive Reaches (s : MemoryStore) : MemoryStore → Prop where
  | refl : Reaches s s
  | step {t : MemoryStore} (earlier : Reaches s t) (c : StoreChange) : Reaches s (c.apply t)

namespace Reaches

variable {s t u : MemoryStore}

theorem single (c : StoreChange) : Reaches s (c.apply s) := .step .refl c

theorem trans (first : Reaches s t) (second : Reaches t u) : Reaches s u := by
  induction second with
  | refl => exact first
  | step _ c ih => exact .step ih c

theorem consistent (reach : Reaches s t) (good : s.Consistent) : t.Consistent := by
  induction reach with
  | refl => exact good
  | step _ c ih =>
      obtain ⟨name, touch⟩ := change_touches ih c
      exact touch.consistent ih

theorem version_le (reach : Reaches s t) (good : s.Consistent) : s.version ≤ t.version := by
  induction reach with
  | refl => exact Nat.le_refl _
  | step earlier c ih =>
      obtain ⟨name, touch⟩ := change_touches (earlier.consistent good) c
      exact Nat.le_trans ih touch.rising

/-- Whatever writers do, an object that is found at a version given out before was there before. -/
theorem stored_of_issued {name : String} {nic : NetworkInterface} (reach : Reaches s t)
    (good : s.Consistent) (issued : s.Issued nic.metadata.resourceVersion)
    (found : t.interfaces.get? name = some nic) : s.interfaces.get? name = some nic := by
  induction reach with
  | refl => exact found
  | step earlier c ih =>
      obtain ⟨touched, touch⟩ := change_touches (earlier.consistent good) c
      exact ih (touch.stored_of_issued (issued.mono (earlier.version_le good)) found)

end Reaches

/-! ### What is known of a copy -/

/-- The object has been handed out by the store: its version has been given out, and whatever is
stored at that version is this very object. -/
structure HandedOut (s : MemoryStore) (nic : NetworkInterface) : Prop where
  issued : s.Issued nic.metadata.resourceVersion
  same : ∀ {name stored}, s.interfaces.get? name = some stored →
    stored.metadata.resourceVersion = nic.metadata.resourceVersion → stored = nic

/-- The object is stored no longer, at least not in this version. -/
structure Outdated (s : MemoryStore) (nic : NetworkInterface) : Prop where
  issued : s.Issued nic.metadata.resourceVersion
  gone : ∀ {name stored}, s.interfaces.get? name = some stored →
    stored.metadata.resourceVersion ≠ nic.metadata.resourceVersion

section Copies

variable {s t : MemoryStore} {nic : NetworkInterface} {name : String}

theorem Consistent.handedOut (good : s.Consistent) (found : s.interfaces.get? name = some nic) :
    s.HandedOut nic where
  issued := good.issued found
  same := by
    intro other stored present same
    obtain rfl := good.distinct present found same
    rw [found] at present
    exact (Option.some.inj present).symm

/-- What has been handed out stays right whatever writers do. -/
theorem HandedOut.reaches (copy : s.HandedOut nic) (good : s.Consistent) (reach : s.Reaches t) :
    t.HandedOut nic where
  issued := copy.issued.mono (reach.version_le good)
  same := by
    intro other stored present same
    have issued : s.Issued stored.metadata.resourceVersion := same ▸ copy.issued
    exact copy.same (reach.stored_of_issued good issued present) same

/-- What is outdated stays so whatever writers do. -/
theorem Outdated.reaches (old : s.Outdated nic) (good : s.Consistent) (reach : s.Reaches t) :
    t.Outdated nic where
  issued := old.issued.mono (reach.version_le good)
  gone := by
    intro other stored present same
    have issued : s.Issued stored.metadata.resourceVersion := same ▸ old.issued
    exact old.gone (reach.stored_of_issued good issued present) same

/-- At the version of a change there is at most the object that the change has left. -/
theorem Touches.eq_of_newest {other : String} {stored : NetworkInterface} (touch : Touches s t name)
    (good : s.Consistent) (later : s.version < t.version)
    (found : t.interfaces.get? other = some stored)
    (newest : stored.metadata.resourceVersion = some (toString t.version)) : other = name := by
  by_cases here : other = name
  · exact here
  · rw [touch.elsewhere other here] at found
    exact absurd newest ((good.issued found).ne_of_lt later)

section Written

variable {stored : NetworkInterface}

/-- A write of everything but the status hands out the object that it leaves. -/
theorem handedOut_update (good : s.Consistent) (accepted : s.target nic = .ok (name, stored)) :
    (s.update nic).2.HandedOut (s.updated nic stored) := by
  have touch := touches_of_update accepted
  rw [update_of_target accepted] at touch ⊢
  refine ⟨⟨s.version + 1, Nat.le_refl _, rfl⟩, ?_⟩
  intro other found present same
  obtain rfl := touch.eq_of_newest good (Nat.lt_succ_self _) present same
  by_cases released : isReleased (s.updated nic stored) = true
  · simp only [if_pos released, Table.get?_erase_self] at present
    cases present
  · simp only [if_neg released, Table.get?_insert_self] at present
    exact (Option.some.inj present).symm

/-- A write of the status hands out the object that it leaves. -/
theorem handedOut_updateStatus (good : s.Consistent)
    (accepted : s.target nic = .ok (name, stored)) :
    (s.updateStatus nic).2.HandedOut (s.statusUpdated nic stored) := by
  have touch := touches_of_updateStatus good accepted
  rw [updateStatus_of_target accepted] at touch ⊢
  refine ⟨⟨s.version + 1, Nat.le_refl _, rfl⟩, ?_⟩
  intro other found present same
  obtain rfl := touch.eq_of_newest good (Nat.lt_succ_self _) present same
  simp only [Table.get?_insert_self] at present
  exact (Option.some.inj present).symm

/-- A write that takes the last finalizer off hands out an object that is there no longer. -/
theorem outdated_update (good : s.Consistent) (accepted : s.target nic = .ok (name, stored))
    (released : isReleased (s.updated nic stored) = true) :
    (s.update nic).2.Outdated (s.updated nic stored) := by
  have touch := touches_of_update accepted
  rw [update_of_target accepted] at touch ⊢
  refine ⟨⟨s.version + 1, Nat.le_refl _, rfl⟩, ?_⟩
  intro other found present same
  obtain rfl := touch.eq_of_newest good (Nat.lt_succ_self _) present same
  simp only [if_pos released, Table.get?_erase_self] at present
  cases present

/-- A copy that the store has handed out is what a write of it replaces. -/
theorem HandedOut.eq_of_target {copy : NetworkInterface} (known : s.HandedOut copy)
    (version : nic.metadata.resourceVersion = copy.metadata.resourceVersion)
    (accepted : s.target nic = .ok (name, stored)) : stored = copy := by
  obtain ⟨-, -, found, same⟩ := target_eq_ok_iff.mp accepted
  exact known.same found (same.trans version)

/-- No write of a copy that is outdated is accepted. -/
theorem Outdated.refused {copy : NetworkInterface} (old : s.Outdated copy)
    (version : nic.metadata.resourceVersion = copy.metadata.resourceVersion) :
    s.target nic ≠ .ok (name, stored) := by
  intro accepted
  obtain ⟨-, -, found, same⟩ := target_eq_ok_iff.mp accepted
  exact old.gone found (same.trans version)

end Written

end Copies

end MemoryStore

end LinkKeeper
