import LinkKeeper.Proofs.Store.Versions

/-!
Histories of the store in memory.

Any number of writers work on one store, in any order. A writer reads an object, changes its copy and
writes it back, and the version in the copy tells the store whether another writer was faster.

* `MemoryStore.after`: the store after a history.
* `MemoryStore.givenOut`: the versions that a history gives out.
* `MemoryStore.Accounted`: what holds of the versions in a history, and of the updates that carry them.
* `MemoryStore.no_lost_update`: it holds of every history.
-/

namespace LinkKeeper

namespace StoreChange

/-- What an update writes. -/
def carried? : StoreChange → Option NetworkInterface
  | .update nic | .updateStatus nic => some nic
  | _ => none

/-- What an update is answered with. -/
def answer? (s : MemoryStore) : StoreChange → Option (Except StoreError NetworkInterface)
  | .update nic => some (s.update nic).1
  | .updateStatus nic => some (s.updateStatus nic).1
  | _ => none

/-- The version that a write gives out: that of the object as its writer gets it back, or as it is found
under its name afterwards. -/
def givenOut? (s : MemoryStore) : StoreChange → Option String
  | .put nic =>
    (nic.metadata.name.bind (s.put nic).getInterface).bind fun stored => stored.metadata.resourceVersion
  | .putNetwork network =>
    (network.metadata.name.bind (s.putNetwork network).getNetwork).bind fun stored =>
      stored.metadata.resourceVersion
  | .update nic => (s.update nic).1.toOption.bind fun written => written.metadata.resourceVersion
  | .updateStatus nic => (s.updateStatus nic).1.toOption.bind fun written => written.metadata.resourceVersion
  | _ => none

end StoreChange

namespace MemoryStore

/-- The store after the changes of a history, the first one first. -/
def after (s : MemoryStore) (history : List StoreChange) : MemoryStore :=
  history.foldl StoreChange.apply s

/-- The versions that a history gives out, in order. -/
def givenOut (s : MemoryStore) : List StoreChange → List String
  | [] => []
  | c :: rest => (c.givenOut? s).toList ++ givenOut (c.apply s) rest

/-- The stored objects and the count of versions are the same. -/
structure Unmoved (s t : MemoryStore) : Prop where
  interfaces : t.interfaces = s.interfaces
  networks : t.networks = s.networks
  version : t.version = s.version

/-- An update replaces the object that is stored under a name, or lets it go. -/
structure Replaces (s t : MemoryStore) (name : String) (stored written : NetworkInterface) : Prop where
  present : s.interfaces.get? name = some stored
  next : t.version = s.version + 1
  fresh : written.metadata.resourceVersion = some s.nextVersion
  interfaces : t.interfaces = s.interfaces.erase name ∨ t.interfaces = s.interfaces.insert name written
  networks : t.networks = s.networks

/-! ### One change -/

section Changes

variable {s t : MemoryStore} {c : StoreChange} {nic stored written : NetworkInterface} {name : String}

theorem refused_unmoved (s : MemoryStore) (nic : NetworkInterface) (w : StoreWrite) :
    Unmoved s ((s.noted w).refused nic) := by
  unfold refused
  split
  · exact ⟨rfl, rfl, rfl⟩
  · exact ⟨rfl, rfl, rfl⟩

/-- What an update does that is accepted. -/
theorem replaces_of_target (carries : c.carried? = some nic) (accepted : s.target nic = .ok (name, stored)) :
    ∃ written, c.answer? s = some (.ok written) ∧ c.givenOut? s = some s.nextVersion ∧
      Replaces s (c.apply s) name stored written := by
  obtain ⟨-, -, present, -⟩ := target_eq_ok_iff.mp accepted
  cases c with
  | update =>
      cases carries
      have update := update_of_target accepted
      refine ⟨s.updated nic stored, ?_, ?_, ?_⟩
      · simp only [StoreChange.answer?, update]
      · simp only [StoreChange.givenOut?, update]
        rfl
      · simp only [StoreChange.apply, update]
        refine ⟨present, rfl, rfl, ?_, rfl⟩
        split
        · exact .inl rfl
        · exact .inr rfl
  | updateStatus =>
      cases carries
      have update := updateStatus_of_target accepted
      refine ⟨s.statusUpdated nic stored, ?_, ?_, ?_⟩
      · simp only [StoreChange.answer?, update]
      · simp only [StoreChange.givenOut?, update]
        rfl
      · simp only [StoreChange.apply, update]
        exact ⟨present, rfl, rfl, .inr rfl, rfl⟩
  | _ => cases carries

/-- What an update does that is refused. -/
theorem unmoved_of_target {e : StoreError} (carries : c.carried? = some nic) (refusal : s.target nic = .error e) :
    c.answer? s = some (.error e) ∧ c.givenOut? s = none ∧ Unmoved s (c.apply s) := by
  cases c with
  | update =>
      cases carries
      have update := update_of_refused refusal
      simp only [StoreChange.answer?, StoreChange.givenOut?, StoreChange.apply, update]
      exact ⟨trivial, rfl, refused_unmoved s nic _⟩
  | updateStatus =>
      cases carries
      have update := updateStatus_of_refused refusal
      simp only [StoreChange.answer?, StoreChange.givenOut?, StoreChange.apply, update]
      exact ⟨trivial, rfl, refused_unmoved s nic _⟩
  | _ => cases carries

/-- An update is accepted just when there is something for it to replace. -/
theorem accepted_iff_target (carries : c.carried? = some nic) :
    (∃ written, c.answer? s = some (.ok written)) ↔ ∃ name stored, s.target nic = .ok (name, stored) := by
  constructor
  · rintro ⟨written, answered⟩
    cases outcome : s.target nic with
    | error e =>
        rw [(unmoved_of_target carries outcome).1] at answered
        cases answered
    | ok found => exact ⟨found.1, found.2, rfl⟩
  · rintro ⟨name, stored, accepted⟩
    obtain ⟨written, answered, -⟩ := replaces_of_target carries accepted
    exact ⟨written, answered⟩

/-- A change gives out the next version, or none. -/
theorem givenOut?_cases (s : MemoryStore) (c : StoreChange) :
    (c.givenOut? s = none ∧ (c.apply s).version = s.version) ∨
      c.givenOut? s = some s.nextVersion ∧ (c.apply s).version = s.version + 1 := by
  cases carries : c.carried? with
  | some nic =>
      cases outcome : s.target nic with
      | error e =>
          obtain ⟨-, gives, unmoved⟩ := unmoved_of_target carries outcome
          exact .inl ⟨gives, unmoved.version⟩
      | ok found =>
          obtain ⟨written, -, gives, replaces⟩ := replaces_of_target carries outcome
          exact .inr ⟨gives, replaces.next⟩
  | none =>
      cases c with
      | put nic =>
          cases own : nic.metadata.name with
          | none => simp [StoreChange.givenOut?, StoreChange.apply, put, own]
          | some name =>
              refine .inr ?_
              simp [StoreChange.givenOut?, StoreChange.apply, put, own, getInterface, ObjectMeta.atVersion]
      | putNetwork network =>
          cases own : network.metadata.name with
          | none => simp [StoreChange.givenOut?, StoreChange.apply, putNetwork, own]
          | some name =>
              refine .inr ?_
              simp [StoreChange.givenOut?, StoreChange.apply, putNetwork, own, getNetwork,
                ObjectMeta.atVersion]
      | update | updateStatus => cases carries
      | list selector =>
          refine .inl ⟨rfl, ?_⟩
          rw [StoreChange.apply, list]
          dsimp only
          split
          · rfl
          · rfl
      | remove | removeNetwork | refuseNext | failLists | forgetWrites => exact .inl ⟨rfl, rfl⟩

/-- A change puts one network in its place, takes one away or leaves them all as they are. -/
theorem networks_after (s : MemoryStore) (c : StoreChange) :
    (c.apply s).networks = s.networks ∨ (∃ name, (c.apply s).networks = s.networks.erase name) ∨
      ∃ name network, c = .putNetwork network ∧ network.metadata.name = some name ∧
        (c.apply s).networks =
          s.networks.insert name { network with metadata := network.metadata.atVersion s.nextVersion } := by
  cases carries : c.carried? with
  | some nic =>
      refine .inl ?_
      cases outcome : s.target nic with
      | error e => exact (unmoved_of_target carries outcome).2.2.networks
      | ok target =>
          obtain ⟨written, -, -, replaces⟩ := replaces_of_target carries outcome
          exact replaces.networks
  | none =>
      cases c with
      | putNetwork network =>
          rw [StoreChange.apply, putNetwork]
          cases own : network.metadata.name with
          | none => exact .inl rfl
          | some name => exact .inr (.inr ⟨name, network, rfl, own, rfl⟩)
      | removeNetwork name => exact .inr (.inl ⟨name, rfl⟩)
      | put stored =>
          rw [StoreChange.apply, put]
          split
          · exact .inl rfl
          · exact .inl rfl
      | update | updateStatus => cases carries
      | list selector =>
          rw [StoreChange.apply, list]
          dsimp only
          split
          · exact .inl rfl
          · exact .inl rfl
      | remove | refuseNext | failLists | forgetWrites => exact .inl rfl

/-- Every network is stored under its own name. -/
theorem Reaches.network_named {network : PrivateNetwork} (reached : empty.Reaches s)
    (found : s.getNetwork name = some network) : network.metadata.name = some name := by
  unfold getNetwork at found
  induction reached with
  | refl => cases found
  | @step t _ c ih =>
      rcases networks_after t c with same | ⟨under, erased⟩ | ⟨under, stored, -, own, inserted⟩
      · exact ih (same ▸ found)
      · rw [erased, Table.get?_erase] at found
        split at found
        · cases found
        · exact ih found
      · rw [inserted, Table.get?_insert] at found
        split at found
        · rename_i here
          cases found
          exact here ▸ own
        · exact ih found

/-- A network that is found after a change was there before, or is at the version given out. -/
theorem network_after {network : PrivateNetwork} (found : (c.apply s).networks.get? name = some network) :
    s.networks.get? name = some network ∨
      ∃ version, c.givenOut? s = some version ∧ network.metadata.resourceVersion = some version := by
  rcases networks_after s c with same | ⟨under, erased⟩ | ⟨under, stored, rfl, own, inserted⟩
  · exact .inl (same ▸ found)
  · rw [erased, Table.get?_erase] at found
    split at found
    · cases found
    · exact .inl found
  · have gives : (StoreChange.putNetwork stored).givenOut? s = some s.nextVersion := by
      simp [StoreChange.givenOut?, putNetwork, own, getNetwork, ObjectMeta.atVersion]
    rw [inserted, Table.get?_insert] at found
    split at found
    · cases found
      exact .inr ⟨s.nextVersion, gives, rfl⟩
    · exact .inl found

/-- So is an interface. -/
theorem interface_after (good : s.Consistent) (found : (c.apply s).interfaces.get? name = some nic) :
    s.interfaces.get? name = some nic ∨
      ∃ version, c.givenOut? s = some version ∧ nic.metadata.resourceVersion = some version := by
  obtain ⟨touched, touch⟩ := change_touches good c
  by_cases here : name = touched
  · subst here
    rcases touch.there nic found with kept | ⟨-, later, fresh⟩
    · exact .inl kept
    · rcases givenOut?_cases s c with ⟨-, same⟩ | ⟨gives, next⟩
      · omega
      · rw [next] at fresh
        exact .inr ⟨s.nextVersion, gives, fresh⟩
  · rw [touch.elsewhere name here] at found
    exact .inl found

/-- What an update has replaced is stored no longer. -/
theorem Replaces.outdated (replaces : Replaces s t name stored written) (good : s.Consistent) :
    t.Outdated stored where
  issued := (good.issued replaces.present).mono (by have := replaces.next; omega)
  gone := by
    intro other found present same
    have issued := good.issued replaces.present
    by_cases here : other = name
    · -- Under the name there is nothing, or what was written at a new version.
      subst here
      rcases replaces.interfaces with erased | inserted
      · rw [erased, Table.get?_erase_self] at present
        cases present
      · rw [inserted, Table.get?_insert_self] at present
        cases present
        exact issued.ne_of_lt (Nat.lt_succ_self _) (same.symm.trans replaces.fresh)
    · have before : s.interfaces.get? other = some found := by
        rcases replaces.interfaces with erased | inserted
        · rwa [erased, Table.get?_erase_of_ne _ here] at present
        · rwa [inserted, Table.get?_insert_of_ne _ here] at present
      exact here (good.distinct before replaces.present same)

end Changes

/-! ### Whole histories -/

section Histories

variable {s : MemoryStore}

theorem after_append (s : MemoryStore) (first later : List StoreChange) :
    s.after (first ++ later) = (s.after first).after later := List.foldl_append

theorem reaches_after (s : MemoryStore) (history : List StoreChange) : s.Reaches (s.after history) := by
  induction history generalizing s with
  | nil => exact .refl
  | cons c rest ih => exact (Reaches.single c).trans (ih (c.apply s))

/-- A history gives out later versions only. -/
theorem later_of_mem_givenOut {history : List StoreChange} {version : String}
    (mem : version ∈ s.givenOut history) : ∃ n, s.version < n ∧ version = toString n := by
  induction history generalizing s with
  | nil => cases mem
  | cons c rest ih =>
      rcases List.mem_append.mp mem with here | later
      · rcases givenOut?_cases s c with ⟨gives, -⟩ | ⟨gives, -⟩
        · rw [gives] at here
          cases here
        · rw [gives, Option.toList_some, List.mem_singleton] at here
          exact ⟨s.version + 1, Nat.lt_succ_self _, here⟩
      · obtain ⟨n, lt, rfl⟩ := ih later
        refine ⟨n, ?_, rfl⟩
        rcases givenOut?_cases s c with ⟨-, same⟩ | ⟨-, next⟩
        · omega
        · omega

/-- A history gives out no version twice. -/
theorem nodup_givenOut (s : MemoryStore) (history : List StoreChange) : (s.givenOut history).Nodup := by
  induction history generalizing s with
  | nil => exact .nil
  | cons c rest ih =>
      rcases givenOut?_cases s c with ⟨gives, -⟩ | ⟨gives, next⟩
      · simpa only [givenOut, gives, Option.toList_none, List.nil_append] using ih (c.apply s)
      · simp only [givenOut, gives, Option.toList_some, List.singleton_append]
        refine List.nodup_cons.mpr ⟨?_, ih (c.apply s)⟩
        intro again
        obtain ⟨n, lt, same⟩ := later_of_mem_givenOut again
        have : s.version + 1 = n := toString_nat_injective same
        omega

/-- Every stored object is at one of the versions. -/
structure Found (s : MemoryStore) (versions : List String) : Prop where
  interfaces : ∀ name nic, s.getInterface name = some nic →
    ∃ version ∈ versions, nic.metadata.resourceVersion = some version
  networks : ∀ name network, s.getNetwork name = some network →
    ∃ version ∈ versions, network.metadata.resourceVersion = some version

theorem found_empty : Found empty [] where
  interfaces := fun _ _ found => nomatch found
  networks := fun _ _ found => nomatch found

/-- What is found after a history was at its version before or has got it in the history. -/
theorem Found.after {known : List String} (found : Found s known) (good : s.Consistent)
    (history : List StoreChange) : Found (s.after history) (known ++ s.givenOut history) := by
  induction history generalizing s known with
  | nil =>
      rw [givenOut, List.append_nil]
      exact found
  | cons c rest ih =>
      have step : Found (c.apply s) (known ++ (c.givenOut? s).toList) := by
        constructor
        · intro name nic present
          rcases interface_after good present with kept | ⟨version, gives, fresh⟩
          · obtain ⟨version, mem, at_version⟩ := found.interfaces name nic kept
            exact ⟨version, List.mem_append_left _ mem, at_version⟩
          · exact ⟨version, List.mem_append_right _ (by simp [gives]), fresh⟩
        · intro name network present
          rcases network_after present with kept | ⟨version, gives, fresh⟩
          · obtain ⟨version, mem, at_version⟩ := found.networks name network kept
            exact ⟨version, List.mem_append_left _ mem, at_version⟩
          · exact ⟨version, List.mem_append_right _ (by simp [gives]), fresh⟩
      have later := ih step ((Reaches.single c).consistent good)
      rwa [List.append_assoc] at later

end Histories

/-! ### Updates in a history -/

section Updates

variable {s t : MemoryStore} {c d : StoreChange} {nic other copy : NetworkInterface}

/-- An update is accepted when no refusal is pending and it carries the stored version. -/
theorem accepted_iff (carries : c.carried? = some nic) :
    (∃ written, c.answer? s = some (.ok written)) ↔
      ∃ name stored, nic.metadata.name = some name ∧ s.pendingConflicts = 0 ∧
        s.getInterface name = some stored ∧
          stored.metadata.resourceVersion = nic.metadata.resourceVersion := by
  refine (accepted_iff_target carries).trans ?_
  constructor
  · rintro ⟨name, stored, accepted⟩
    exact ⟨name, stored, target_eq_ok_iff.mp accepted⟩
  · rintro ⟨name, stored, current⟩
    exact ⟨name, stored, target_eq_ok_iff.mpr current⟩

/-- An update is accepted only while the object is still as it was read. -/
theorem unwritten_of_accepted {name : String} (good : s.Consistent) (others : s.Reaches t)
    (read : s.getInterface name = some copy)
    (carries : c.carried? = some nic) (version : copy.metadata.resourceVersion = nic.metadata.resourceVersion)
    (accepted : ∃ written, c.answer? t = some (.ok written)) :
    nic.metadata.name = some name ∧ t.getInterface name = some copy := by
  obtain ⟨under, stored, named, -, found, same⟩ := (accepted_iff carries).mp accepted
  have issued : s.Issued stored.metadata.resourceVersion := by
    rw [same, ← version]
    exact good.issued read
  have before : s.interfaces.get? under = some stored := others.stored_of_issued good issued found
  obtain rfl : under = name := good.distinct before read (same.trans version.symm)
  rw [getInterface, before] at read
  cases read
  exact ⟨named, found⟩

/-- Once an update is accepted, no other that carries the same version is. -/
theorem refused_of_accepted (good : s.Consistent) (others : (c.apply s).Reaches t)
    (carries : c.carried? = some nic) (carriesOther : d.carried? = some other)
    (same : nic.metadata.resourceVersion = other.metadata.resourceVersion)
    (accepted : ∃ written, c.answer? s = some (.ok written)) : ∃ e, d.answer? t = some (.error e) := by
  obtain ⟨name, stored, target⟩ := (accepted_iff_target carries).mp accepted
  obtain ⟨-, -, -, version⟩ := target_eq_ok_iff.mp target
  obtain ⟨written, -, -, replaces⟩ := replaces_of_target carries target
  have outdated : t.Outdated stored :=
    (replaces.outdated good).reaches ((Reaches.single c).consistent good) others
  cases outcome : t.target other with
  | error e => exact ⟨e, (unmoved_of_target carriesOther outcome).1⟩
  | ok found => exact absurd outcome (outdated.refused (same.symm.trans version.symm))

/-- An update that is refused changes nothing, and is told why. -/
theorem unmoved_of_refused {e : StoreError} (carries : c.carried? = some nic)
    (refused : c.answer? s = some (.error e)) :
    ((∃ name, e = .conflict interfaceKind name) ∨ (∃ name, e = .notFound interfaceKind name) ∨
      e = .unnamed interfaceKind) ∧ Unmoved s (c.apply s) := by
  cases outcome : s.target nic with
  | error cause =>
      obtain ⟨answered, -, unmoved⟩ := unmoved_of_target carries outcome
      obtain rfl : cause = e := by
        rw [answered] at refused
        cases refused
        rfl
      refine ⟨?_, unmoved⟩
      rcases target_error outcome with ⟨-, unnamed⟩ | ⟨name, -, conflict | missing⟩
      · exact .inr (.inr unnamed)
      · exact .inl ⟨name, conflict⟩
      · exact .inr (.inl ⟨name, missing⟩)
  | ok found =>
      obtain ⟨written, answered, -⟩ := replaces_of_target carries outcome
      rw [answered] at refused
      cases refused

end Updates

/-- What holds of the versions in a history of a store that was empty at first, and of the updates that
carry them. -/
structure Accounted (history : List StoreChange) : Prop where
  /-- No version is given out twice, be it for interfaces or for networks. -/
  distinct : (empty.givenOut history).Nodup
  /-- Every object that is found on the way is at a version that has been given out. -/
  found : ∀ earlier later, history = earlier ++ later → Found (empty.after earlier) (empty.givenOut earlier)
  /-- An update is accepted just when it carries the version of the object that is stored under its name
  and no refusal is pending. -/
  current : ∀ earlier c later nic, history = earlier ++ c :: later → c.carried? = some nic →
    ((∃ written, c.answer? (empty.after earlier) = some (.ok written)) ↔
      ∃ name stored, nic.metadata.name = some name ∧ (empty.after earlier).pendingConflicts = 0 ∧
        (empty.after earlier).getInterface name = some stored ∧
          stored.metadata.resourceVersion = nic.metadata.resourceVersion)
  /-- What it replaces is what was read at that version: nobody has written it since. -/
  unwritten : ∀ read between c later nic name copy, history = read ++ between ++ c :: later →
    c.carried? = some nic → (empty.after read).getInterface name = some copy →
    copy.metadata.resourceVersion = nic.metadata.resourceVersion →
    (∃ written, c.answer? (empty.after (read ++ between)) = some (.ok written)) →
      nic.metadata.name = some name ∧ (empty.after (read ++ between)).getInterface name = some copy
  /-- Of the updates that carry the same version only one is accepted. -/
  once : ∀ earlier c between d later nic other, history = earlier ++ c :: between ++ d :: later →
    c.carried? = some nic → d.carried? = some other →
    nic.metadata.resourceVersion = other.metadata.resourceVersion →
    (∃ written, c.answer? (empty.after earlier) = some (.ok written)) →
      ∃ e, d.answer? (empty.after (earlier ++ c :: between)) = some (.error e)
  /-- An update that is refused changes no object and gives out no version. -/
  refused : ∀ earlier c later nic e, history = earlier ++ c :: later → c.carried? = some nic →
    c.answer? (empty.after earlier) = some (.error e) →
      ((∃ name, e = .conflict interfaceKind name) ∨ (∃ name, e = .notFound interfaceKind name) ∨
        e = .unnamed interfaceKind) ∧
      Unmoved (empty.after earlier) (empty.after (earlier ++ [c]))

/-- Whatever writers do to the store, and however many they are, none of them overwrites what it has
not seen. -/
theorem no_lost_update (history : List StoreChange) : Accounted history where
  distinct := nodup_givenOut empty history
  found := by
    intro earlier later split
    simpa only [List.nil_append] using found_empty.after consistent_empty earlier
  current := fun _ _ _ _ _ carries => accepted_iff carries
  unwritten := by
    intro read between c later nic name copy split carries seen version accepted
    have good := (reaches_after empty read).consistent consistent_empty
    rw [after_append] at accepted ⊢
    exact unwritten_of_accepted good (reaches_after _ between) seen carries version accepted
  once := by
    intro earlier c between d later nic other split carries carriesOther same accepted
    have good := (reaches_after empty earlier).consistent consistent_empty
    have onward : (c.apply (empty.after earlier)).Reaches (empty.after (earlier ++ c :: between)) := by
      rw [after_append]
      exact reaches_after _ between
    exact refused_of_accepted good onward carries carriesOther same accepted
  refused := by
    intro earlier c later nic e split carries answered
    rw [after_append]
    exact unmoved_of_refused carries answered

/-- An interface as two writers hold it after they have read it. -/
def contended : NetworkInterface where
  metadata := { ObjectMeta.blank with name := some "nic-a", resourceVersion := some "1" }
  spec := ⟨"node-a", "192.168.0.10/24"⟩
  status := none

/-- One of the two writes it, then a network is made, then the other writes. -/
def contention : List StoreChange :=
  [.put contended, .update contended,
    .putNetwork ⟨{ ObjectMeta.blank with name := some "pn-1" }, ⟨none, []⟩⟩, .updateStatus contended]

theorem contention_no_lost_update :
    empty.givenOut contention = ["1", "2", "3"] ∧
      (∃ written, (StoreChange.update contended).answer? (empty.after (contention.take 1)) =
        some (.ok written)) ∧
      ∃ e, (StoreChange.updateStatus contended).answer? (empty.after (contention.take 3)) =
        some (.error e) := by
  have accounted := no_lost_update contention
  have first : ∃ written, (StoreChange.update contended).answer? (empty.after (contention.take 1)) =
      some (.ok written) := ⟨_, rfl⟩
  refine ⟨rfl, first, ?_⟩
  exact accounted.once (contention.take 1) (.update contended) _ (.updateStatus contended) [] contended
    contended rfl rfl rfl rfl first

end MemoryStore

end LinkKeeper
