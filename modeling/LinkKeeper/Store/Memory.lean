import LinkKeeper.Resource.PrivateNetwork
import LinkKeeper.Store.Error
import LinkKeeper.Store.Selector
import LinkKeeper.Table

/-!
A store of objects in memory.

Every write that succeeds gives the object a version that no object has had before. A write that
carries another version than the stored one is refused, so no writer overwrites what it has not
seen. An interface that is to be deleted goes with its last finalizer.

* `MemoryStore.target`: what a write has to meet.
* `MemoryStore.update`, `MemoryStore.updateStatus`: the two kinds of writes.
* `MemoryStore.put`: the write of one who asks for no version.
-/

namespace LinkKeeper

/-- An attempt to write, with the name in the object. -/
inductive StoreWrite where
  | update (name : String)
  | updateStatus (name : String)
  deriving DecidableEq, Repr

/-- The objects with the number of versions given out so far, what the store has been told to refuse,
and what has been asked of it, oldest first. -/
structure MemoryStore where
  interfaces : Table String NetworkInterface
  networks : Table String PrivateNetwork
  version : Nat
  /-- How many of the next writes are refused as if another writer had been faster. -/
  pendingConflicts : Nat
  /-- Whether lists fail. -/
  listsFailing : Bool
  writes : List StoreWrite
  lists : List String

namespace MemoryStore

/-- A store without objects. -/
def empty : MemoryStore := ⟨∅, ∅, 0, 0, false, [], []⟩

/-- The next version. -/
def nextVersion (s : MemoryStore) : String := toString (s.version + 1)

/-- Whether nothing keeps the interface from going. -/
def isReleased (nic : NetworkInterface) : Bool :=
  nic.isTerminating && (nic.metadata.finalizers.getD []).isEmpty

/-- Stores an interface under its name at the next version. -/
def put (s : MemoryStore) (nic : NetworkInterface) : MemoryStore :=
  match nic.metadata.name with
  | none => s
  | some name =>
    { s with
      version := s.version + 1
      interfaces := s.interfaces.insert name { nic with metadata := nic.metadata.atVersion s.nextVersion } }

/-- Stores a network under its name at the next version. -/
def putNetwork (s : MemoryStore) (network : PrivateNetwork) : MemoryStore :=
  match network.metadata.name with
  | none => s
  | some name =>
    { s with
      version := s.version + 1
      networks :=
        s.networks.insert name { network with metadata := network.metadata.atVersion s.nextVersion } }

def getInterface (s : MemoryStore) (name : String) : Option NetworkInterface := s.interfaces.get? name

def getNetwork (s : MemoryStore) (name : String) : Option PrivateNetwork := s.networks.get? name

/-- The stored interface that a write replaces, with its name: the object has a name, no conflict is
pending, and the stored version is the one that the object carries. -/
def target (s : MemoryStore) (nic : NetworkInterface) : Except StoreError (String × NetworkInterface) :=
  match nic.metadata.name with
  | none => .error (.unnamed interfaceKind)
  | some name =>
    if 0 < s.pendingConflicts then .error (.conflict interfaceKind name)
    else
      match s.interfaces.get? name with
      | none => .error (.notFound interfaceKind name)
      | some stored =>
        if stored.metadata.resourceVersion = nic.metadata.resourceVersion then .ok (name, stored)
        else .error (.conflict interfaceKind name)

/-- A refused write of a named object uses up a pending conflict. -/
def refused (s : MemoryStore) (nic : NetworkInterface) : MemoryStore :=
  if nic.metadata.name.isSome then { s with pendingConflicts := s.pendingConflicts - 1 } else s

/-- Notes an attempt to write. -/
def noted (s : MemoryStore) (w : StoreWrite) : MemoryStore := { s with writes := s.writes ++ [w] }

/-- Writes all of an interface but its status, which stays as it is stored. -/
def update (s : MemoryStore) (nic : NetworkInterface) : Except StoreError NetworkInterface × MemoryStore :=
  let s := s.noted (.update (nic.metadata.name.getD ""))
  match s.target nic with
  | .error e => (.error e, s.refused nic)
  | .ok (name, stored) =>
    let written : NetworkInterface :=
      ⟨nic.metadata.atVersion s.nextVersion, nic.spec, stored.status⟩
    (.ok written,
      { s with
        version := s.version + 1
        interfaces :=
          if isReleased written then s.interfaces.erase name else s.interfaces.insert name written })

/-- Writes the status of an interface only. -/
def updateStatus (s : MemoryStore) (nic : NetworkInterface) :
    Except StoreError NetworkInterface × MemoryStore :=
  let s := s.noted (.updateStatus (nic.metadata.name.getD ""))
  match s.target nic with
  | .error e => (.error e, s.refused nic)
  | .ok (name, stored) =>
    let written : NetworkInterface :=
      ⟨stored.metadata.atVersion s.nextVersion, stored.spec, nic.status⟩
    (.ok written,
      { s with
        version := s.version + 1
        interfaces := s.interfaces.insert name written })

/-- The labels of an interface. -/
def labelsOf (nic : NetworkInterface) : Table String String := nic.metadata.labels.getD ∅

/-- The interfaces that a selector asks for, in the order of their names. -/
def list (s : MemoryStore) (selector : String) :
    Except StoreError (List NetworkInterface) × MemoryStore :=
  let s := { s with lists := s.lists ++ [selector] }
  if s.listsFailing then (.error (.api .undecodable), s)
  else (.ok (s.interfaces.values.filter fun nic => Selector.selects selector (labelsOf nic)), s)

end MemoryStore

end LinkKeeper
