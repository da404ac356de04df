import LinkKeeper.Metrics
import LinkKeeper.Store.Memory
import LinkKeeper.Watch.Snapshots

/-!
From a changed network to the interfaces in it.

When a network has changed, a pass is asked for over every interface that carries its label.

* `FanOut.lookup?`: which changes ask for passes, and the selector of the interfaces.
* `FanOut.handle`: the passes that a change asks for.
-/

namespace LinkKeeper

namespace FanOut

/-- The names of the interfaces to work on; interfaces without a name are left out. -/
def requestsFor (members : List NetworkInterface) : List String :=
  members.filterMap fun nic => nic.metadata.name

/-- The selector to look up for a change: only a named network that has been updated has one. -/
def lookup? : NetworkChange → Option String
  | .updated _ network => network.metadata.name.map Selector.ofNetwork
  | .created _ | .deleted _ => none

/-- The passes that a change asks for, counted. If the interfaces cannot be looked up there are none. -/
def handle (change : NetworkChange) (store : MemoryStore) (metrics : Metrics) :
    List String × MemoryStore × Metrics :=
  match lookup? change with
  | none => ([], store, metrics)
  | some selector =>
    match store.list selector with
    | (.error _, store) => ([], store, metrics)
    | (.ok members, store) =>
      let requests := requestsFor members
      (requests, store, metrics.recordFanOut requests.length)

end FanOut

end LinkKeeper
