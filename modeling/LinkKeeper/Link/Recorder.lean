import LinkKeeper.Link.Error
import LinkKeeper.Link.Route
import LinkKeeper.Net.HardwareAddress
import LinkKeeper.Table

/-!
Links that are only written down: every operation is recorded and answered from a table of names,
unless it has been told to fail.

* `RecordedLinks.perform`: records an operation.
* `RecordedLinks.name`: looks a link up by its hardware address, in any case of letters.
-/

namespace LinkKeeper

open Net

/-- The four operations on links. -/
inductive LinkOperation where
  | tearDown
  | name
  | configure
  | syncRoutes
  deriving DecidableEq, Repr

/-- How the operation is called. -/
def LinkOperation.title : LinkOperation → String
  | tearDown => "TearDown"
  | name => "GetLinkName"
  | configure => "Configure"
  | syncRoutes => "SyncRoutes"

/-- An operation on the link with a hardware address. -/
inductive LinkCall where
  | tearDown (mac : String) (address : Network)
  | name (mac : String)
  | configure (mac : String) (address : Network)
  | syncRoutes (mac : String) (routes : List Route)
  deriving DecidableEq, Repr

def LinkCall.operation : LinkCall → LinkOperation
  | tearDown _ _ => .tearDown
  | name _ => .name
  | configure _ _ => .configure
  | syncRoutes _ _ => .syncRoutes

/-- The names of links by hardware address, the operations that fail, and the calls so far, oldest
first. -/
structure RecordedLinks where
  names : Table String String
  failing : List LinkOperation
  calls : List LinkCall

namespace RecordedLinks

/-- Links with these hardware addresses and names. -/
def ofList (links : List (String × String)) : RecordedLinks :=
  ⟨.ofList (links.map fun l => (foldCase l.1, l.2)), [], []⟩

/-- Makes an operation fail from now on. -/
def failOn (r : RecordedLinks) (o : LinkOperation) : RecordedLinks := { r with failing := o :: r.failing }

/-- Makes an operation succeed again. -/
def recover (r : RecordedLinks) (o : LinkOperation) : RecordedLinks :=
  { r with failing := r.failing.filter (· ≠ o) }

/-- Records an operation, which succeeds unless it has been told to fail. -/
def perform (r : RecordedLinks) (c : LinkCall) : Except LinkError Unit × RecordedLinks :=
  (if r.failing.contains c.operation then
      .error (.injected ("injected failure for " ++ c.operation.title))
    else .ok (),
    { r with calls := r.calls ++ [c] })

/-- The name of the link with the hardware address. -/
def lookup (r : RecordedLinks) (mac : String) : Except LinkError String :=
  match r.names.get? (foldCase mac) with
  | some name => .ok name
  | none => .error (.notFound mac)

/-- Records the question for a name and answers it. -/
def name (r : RecordedLinks) (mac : String) : Except LinkError String × RecordedLinks :=
  match r.perform (.name mac) with
  | (.error e, r) => (.error e, r)
  | (.ok (), r) => (r.lookup mac, r)

/-- The routes of the last recorded synchronization. -/
def lastRoutes? (r : RecordedLinks) : Option (List Route) :=
  r.calls.reverse.findSome? fun
    | .syncRoutes _ routes => some routes
    | _ => none

end RecordedLinks

end LinkKeeper
