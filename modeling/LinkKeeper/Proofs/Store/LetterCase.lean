import LinkKeeper.Net.HardwareAddress
import LinkKeeper.Proofs.Reconcile.Copies

/-!
The letter case of hardware addresses, and the store.

The hardware address of an interface stands in its status. A store never looks at it: it hands it out as it is stored,
and a write replaces it or leaves it. So two stores that are the same up to the letter case of hardware addresses accept
and refuse the same writes, and stay so.

* `NetworkInterface.folded`: an interface with its hardware address in small letters.
* `NetworkInterface.congr_folded`: what does not look at the letter case.
* `MemoryStore.SameUpToCase`: stores that are the same but for that.
* `MemoryStore.SameUpToCase.update`, `MemoryStore.SameUpToCase.updateStatus`: both kinds of writes.
-/

namespace LinkKeeper

open Net

theorem Net.foldCase_eq_empty_iff {s : String} : foldCase s = "" ↔ s = "" := by
  unfold foldCase
  rw [← String.toList_inj, String.toList_ofList]
  simp

/-- The status with its hardware address in small letters. -/
def InterfaceStatus.folded (status : InterfaceStatus) : InterfaceStatus :=
  { status with macAddress := status.macAddress.map foldCase }

namespace NetworkInterface

/-- The interface with its hardware address in small letters. -/
def folded (nic : NetworkInterface) : NetworkInterface := { nic with status := nic.status.map InterfaceStatus.folded }

@[simp] theorem metadata_folded (nic : NetworkInterface) : nic.folded.metadata = nic.metadata := rfl

@[simp] theorem spec_folded (nic : NetworkInterface) : nic.folded.spec = nic.spec := rfl

theorem macAddress?_folded (nic : NetworkInterface) : nic.folded.macAddress? = nic.macAddress?.map foldCase := by
  obtain ⟨metadata, spec, status⟩ := nic
  cases status with
  | none => rfl
  | some status =>
      obtain ⟨mac, link⟩ := status
      cases mac with
      | none => rfl
      | some mac =>
          simp only [macAddress?, folded, InterfaceStatus.folded, nonempty, Option.map_some, Option.bind_some,
            Option.filter_some]
          by_cases empty : mac = ""
          · simp [empty, foldCase_eq_empty_iff]
          · simp [empty, foldCase_eq_empty_iff]

theorem linkName?_folded (nic : NetworkInterface) : nic.folded.linkName? = nic.linkName? := by
  obtain ⟨metadata, spec, status⟩ := nic
  cases status <;> rfl

theorem withLinkName_folded (nic : NetworkInterface) (name : String) :
    (nic.folded.withLinkName name).folded = (nic.withLinkName name).folded := by
  obtain ⟨metadata, spec, status⟩ := nic
  cases status with
  | none => rfl
  | some status => simp [folded, withLinkName, InterfaceStatus.folded, Function.comp_def]

section Congruence

variable {nic other : NetworkInterface} (same : nic.folded = other.folded)
include same

/-- What does not look at the letter case is the same of interfaces that differ in it only. -/
theorem congr_folded {α : Type} (f : NetworkInterface → α) (apart : ∀ nic, f nic.folded = f nic) :
    f nic = f other := by
  rw [← apart nic, same, apart]

theorem metadata_congr : nic.metadata = other.metadata := congr_folded same metadata metadata_folded

theorem spec_congr : nic.spec = other.spec := congr_folded same spec spec_folded

theorem linkName?_congr : nic.linkName? = other.linkName? := congr_folded same linkName? linkName?_folded

end Congruence

end NetworkInterface

/-! ### Stores -/

namespace MemoryStore

/-- The two stores hold the same under each name, up to the letter case of hardware addresses, and are otherwise the
same. -/
structure SameUpToCase (s t : MemoryStore) : Prop where
  interfaces : ∀ name, (s.getInterface name).map NetworkInterface.folded =
    (t.getInterface name).map NetworkInterface.folded
  rest : t = { s with interfaces := t.interfaces }

variable {s t : MemoryStore} {nic other : NetworkInterface} {table : Table String NetworkInterface}

/-- The two tables hold the same under each name, up to the letter case of hardware addresses. -/
def SameTables (table other : Table String NetworkInterface) : Prop :=
  ∀ name, (table.get? name).map NetworkInterface.folded = (other.get? name).map NetworkInterface.folded

section Tables

variable {first second : Table String NetworkInterface} (same : SameTables first second)
include same

theorem SameTables.insert (key : String) (copies : nic.folded = other.folded) :
    SameTables (first.insert key nic) (second.insert key other) := by
  intro name
  rw [Table.get?_insert, Table.get?_insert]
  split
  · exact congrArg some copies
  · exact same name

theorem SameTables.erase (key : String) : SameTables (first.erase key) (second.erase key) := by
  intro name
  rw [Table.get?_erase, Table.get?_erase]
  split
  · rfl
  · exact same name

end Tables

namespace SameUpToCase

theorem getNetwork (stores : s.SameUpToCase t) (name : String) : s.getNetwork name = t.getNetwork name := by
  rw [stores.rest]
  rfl

theorem of_tables (same : SameTables s.interfaces table) : s.SameUpToCase { s with interfaces := table } :=
  ⟨same, rfl⟩

/-- One of the stores tells the other but for its table. -/
theorem exists_table (stores : s.SameUpToCase t) :
    ∃ table, SameTables s.interfaces table ∧ t = { s with interfaces := table } :=
  ⟨t.interfaces, stores.interfaces, stores.rest⟩

theorem refl (s : MemoryStore) : s.SameUpToCase s := ⟨fun _ => rfl, rfl⟩

section Writes

variable (stores : s.SameUpToCase t) (same : nic.folded = other.folded)
include stores same

/-- Both writes are refused for the same reason, or meet the same. -/
theorem target_cases : (∃ e, s.target nic = .error e ∧ t.target other = .error e) ∨
    ∃ name stored again, s.target nic = .ok (name, stored) ∧ t.target other = .ok (name, again) ∧
      stored.folded = again.folded := by
  obtain ⟨table, tables, rfl⟩ := stores.exists_table
  unfold target
  rw [NetworkInterface.metadata_congr same]
  cases other.metadata.name with
  | none => exact .inl ⟨_, rfl, rfl⟩
  | some name =>
      dsimp only
      by_cases conflict : 0 < s.pendingConflicts
      · rw [if_pos conflict, if_pos conflict]
        exact .inl ⟨_, rfl, rfl⟩
      · rw [if_neg conflict, if_neg conflict]
        have alike := tables name
        cases here : s.interfaces.get? name with
        | none =>
            rw [here, Option.map_none] at alike
            rw [Option.map_eq_none_iff.mp alike.symm]
            exact .inl ⟨_, rfl, rfl⟩
        | some stored =>
            rw [here, Option.map_some] at alike
            obtain ⟨again, there, folded⟩ := Option.map_eq_some_iff.mp alike.symm
            rw [there]
            dsimp only
            rw [NetworkInterface.metadata_congr folded]
            split
            · exact .inr ⟨name, stored, again, rfl, rfl, folded.symm⟩
            · exact .inl ⟨_, rfl, rfl⟩

theorem put : (s.put nic).SameUpToCase (t.put other) := by
  obtain ⟨table, tables, rfl⟩ := stores.exists_table
  unfold MemoryStore.put
  rw [NetworkInterface.metadata_congr same]
  cases other.metadata.name with
  | none => exact .of_tables tables
  | some name =>
      refine .of_tables (tables.insert name ?_)
      exact congrArg (fun copy => { copy with metadata := other.metadata.atVersion s.nextVersion }) same

theorem refused (w : StoreWrite) : ((s.noted w).refused nic).SameUpToCase ((t.noted w).refused other) := by
  obtain ⟨table, tables, rfl⟩ := stores.exists_table
  unfold MemoryStore.refused
  rw [NetworkInterface.metadata_congr same]
  split <;> exact .of_tables tables

theorem update :
    (s.update nic).1.map NetworkInterface.folded = (t.update other).1.map NetworkInterface.folded ∧
      (s.update nic).2.SameUpToCase (t.update other).2 := by
  have metadata := NetworkInterface.metadata_congr same
  rcases stores.target_cases same with ⟨e, here, there⟩ | ⟨name, stored, again, here, there, folded⟩
  · rw [update_of_refused here, update_of_refused there, metadata]
    exact ⟨rfl, stores.refused same _⟩
  · rw [update_of_target here, update_of_target there, metadata]
    obtain ⟨table, tables, rfl⟩ := stores.exists_table
    have written : (s.updated nic stored).folded = (s.updated other again).folded := by
      unfold updated
      rw [metadata, NetworkInterface.spec_congr same]
      exact congrArg (fun status => NetworkInterface.mk _ _ status) (congrArg NetworkInterface.status folded)
    have released : isReleased (s.updated nic stored) = isReleased (s.updated other again) :=
      NetworkInterface.congr_folded written isReleased fun _ => rfl
    have kept : SameTables
        (if isReleased (s.updated nic stored) then s.interfaces.erase name
          else s.interfaces.insert name (s.updated nic stored))
        (if isReleased (s.updated other again) then table.erase name
          else table.insert name (s.updated other again)) := by
      rw [released]
      split
      · exact tables.erase name
      · exact tables.insert name written
    exact ⟨congrArg Except.ok written, .of_tables kept⟩

theorem updateStatus :
    (s.updateStatus nic).1.map NetworkInterface.folded = (t.updateStatus other).1.map NetworkInterface.folded ∧
      (s.updateStatus nic).2.SameUpToCase (t.updateStatus other).2 := by
  have metadata := NetworkInterface.metadata_congr same
  rcases stores.target_cases same with ⟨e, here, there⟩ | ⟨name, stored, again, here, there, folded⟩
  · rw [updateStatus_of_refused here, updateStatus_of_refused there, metadata]
    exact ⟨rfl, stores.refused same _⟩
  · rw [updateStatus_of_target here, updateStatus_of_target there, metadata]
    obtain ⟨table, tables, rfl⟩ := stores.exists_table
    have written : (s.statusUpdated nic stored).folded = (s.statusUpdated other again).folded := by
      unfold statusUpdated
      rw [NetworkInterface.metadata_congr folded, NetworkInterface.spec_congr folded]
      exact congrArg (fun status => NetworkInterface.mk _ _ status) (congrArg NetworkInterface.status same)
    exact ⟨congrArg Except.ok written, .of_tables (tables.insert name written)⟩

end Writes

end SameUpToCase

end MemoryStore

end LinkKeeper
