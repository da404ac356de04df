import LinkKeeper.Resource.PrivateNetwork
import LinkKeeper.Table

/-!
The last seen copies of the networks, and the changes between them.

A list of all networks is gathered in a buffer, and takes the place of the copies once it is
complete; until then changes are told against the old copies.

* `Snapshots.observe`: takes an event in and tells the change, if there is one.
-/

namespace LinkKeeper

/-- Under what a copy of a network is kept; an absent namespace is not the empty one. -/
structure NetworkRef where
  name : String
  namespaceName : Option String
  deriving DecidableEq, Repr

namespace NetworkRef

/-- References are ordered by name, then by namespace. -/
instance : Ord NetworkRef :=
  ⟨compareLex (compareOn NetworkRef.name) (compareOn NetworkRef.namespaceName)⟩

theorem compare_def (a b : NetworkRef) :
    compare a b = (compare a.name b.name).then (compare a.namespaceName b.namespaceName) := rfl

instance : Std.TransOrd NetworkRef :=
  inferInstanceAs
    (Std.TransCmp (compareLex (compareOn NetworkRef.name) (compareOn NetworkRef.namespaceName)))

instance : Std.LawfulEqOrd NetworkRef where
  eq_of_compare := by
    intro a b h
    obtain ⟨_, _⟩ := a
    obtain ⟨_, _⟩ := b
    rw [compare_def, Ordering.then_eq_eq] at h
    simpa using And.intro (Std.LawfulEqCmp.eq_of_compare h.1) (Std.LawfulEqCmp.eq_of_compare h.2)

/-- The reference of a network. -/
def of (network : PrivateNetwork) : NetworkRef :=
  ⟨network.metadata.name.getD "", network.metadata.namespaceName⟩

/-- The reference of a network of the same name that stands in no namespace. -/
def unscoped (r : NetworkRef) : NetworkRef := ⟨r.name, none⟩

end NetworkRef

/-- What a watch of the networks tells. -/
inductive WatchEvent where
  /-- A list of all networks begins. -/
  | init
  /-- One network of the list. -/
  | initApply (network : PrivateNetwork)
  /-- The list is complete. -/
  | initDone
  /-- A network has been made or changed. -/
  | apply (network : PrivateNetwork)
  /-- A network is gone. -/
  | delete (network : PrivateNetwork)

/-- A change of a network. -/
inductive NetworkChange where
  | created (network : PrivateNetwork)
  | updated (old new : PrivateNetwork)
  | deleted (network : PrivateNetwork)

/-- The network as it is after the change, or was before it went. -/
def NetworkChange.network : NetworkChange → PrivateNetwork
  | created n | updated _ n | deleted n => n

/-- The copies of the networks, and those of a list that is not complete. -/
structure Snapshots where
  stored : Table NetworkRef PrivateNetwork
  pending : Table NetworkRef PrivateNetwork

namespace Snapshots

/-- Nothing has been seen yet. -/
def empty : Snapshots := ⟨∅, ∅⟩

/-- The copy of a network. Networks belong to the whole cluster, so when there is none in its
namespace, the copy of its name that stands in no namespace is meant. -/
def copy? (s : Snapshots) (network : PrivateNetwork) : Option PrivateNetwork :=
  match s.stored.get? (.of network) with
  | some copy => some copy
  | none => s.stored.get? (NetworkRef.of network).unscoped

/-- How a seen network differs from the copy of it: not at all if the version is the same. -/
def difference? (s : Snapshots) (network : PrivateNetwork) : Option NetworkChange :=
  match s.copy? network with
  | none => some (.created network)
  | some old =>
    if old.metadata.resourceVersion = network.metadata.resourceVersion then none
    else some (.updated old network)

/-- The change that an event tells of. -/
def change? (s : Snapshots) : WatchEvent → Option NetworkChange
  | .apply network | .initApply network => s.difference? network
  | .delete network => some (.deleted network)
  | .init | .initDone => none

/-- The copies after an event. -/
def after (s : Snapshots) : WatchEvent → Snapshots
  | .init => { s with pending := ∅ }
  | .initApply network => { s with pending := s.pending.insert (.of network) network }
  | .initDone => ⟨s.pending, ∅⟩
  | .apply network => { s with stored := s.stored.insert (.of network) network }
  | .delete network => { s with stored := s.stored.erase (.of network) }

/-- Takes an event in, and tells the change against the copies before it. -/
def observe (s : Snapshots) (e : WatchEvent) : Option NetworkChange × Snapshots :=
  (s.change? e, s.after e)

end Snapshots

end LinkKeeper
