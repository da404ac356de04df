import LinkKeeper.Net.Address.Printer

/-!
Routes, and the changes that turn one set of routes into another.

* `RouteChanges.mem_add_iff`, `RouteChanges.mem_remove_iff`: the two lists are the two set differences.
-/

namespace LinkKeeper

open Net

/-- A route: what goes to the network `destination` is sent through the gateway `via`. -/
structure Route where
  destination : Network
  via : Address
  deriving DecidableEq, Repr

namespace Route

/-- The route with the host bits of its destination cleared, as the host reports it. -/
def normalized (r : Route) : Route := { r with destination := r.destination.truncated }

def text (r : Route) : String := r.destination.text ++ " via " ++ r.via.text

/-- Routes are ordered by destination, then by gateway. -/
def compare (a b : Route) : Ordering :=
  (Network.compare a.destination b.destination).then (Address.compare a.via b.via)

theorem compare_eq_iff {a b : Route} : compare a b = .eq ↔ a = b := by
  obtain ⟨_, _⟩ := a
  obtain ⟨_, _⟩ := b
  simp [compare, Ordering.then_eq_eq, Network.compare_eq_iff, Address.compare_eq_iff]

instance : Std.TransCmp compare :=
  inferInstanceAs (Std.TransCmp (compareLex (compareOn destination) (compareOn via)))

@[simp] theorem normalized_normalized (r : Route) : r.normalized.normalized = r.normalized := by
  simp [normalized]

end Route

/-- The routes to add and the routes to remove. -/
structure RouteChanges where
  add : List Route
  remove : List Route
  deriving DecidableEq, Repr

namespace RouteChanges

/-- The changes from the installed routes to the desired ones. Added routes keep the order in which
they are desired, removed ones are sorted, and no route is named twice. -/
def between (installed desired : List Route) : RouteChanges :=
  let present := installed.map Route.normalized
  let want := desired.map Route.normalized
  { add := (want.filter fun r => !present.contains r).eraseDups
    remove := (present.filter fun r => !want.contains r).eraseDups.mergeSort
      fun a b => (Route.compare a b).isLE }

/-- Whether nothing has to change. -/
def isEmpty (c : RouteChanges) : Bool := c.add.isEmpty && c.remove.isEmpty

theorem mem_add_iff {installed desired : List Route} {r : Route} :
    r ∈ (between installed desired).add ↔
      r ∈ desired.map Route.normalized ∧ r ∉ installed.map Route.normalized := by
  simp [between, List.mem_eraseDups]

theorem mem_remove_iff {installed desired : List Route} {r : Route} :
    r ∈ (between installed desired).remove ↔
      r ∈ installed.map Route.normalized ∧ r ∉ desired.map Route.normalized := by
  simp [between, List.mem_eraseDups, List.mem_mergeSort]

end RouteChanges

end LinkKeeper
