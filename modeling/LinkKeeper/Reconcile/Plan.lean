import LinkKeeper.Link.Route
import LinkKeeper.Net.Address.Parser
import LinkKeeper.Reconcile.Error
import LinkKeeper.Resource.PrivateNetwork
import LinkKeeper.Text.Blank
import LinkKeeper.Time

/-!
What a pass over an interface has to do, decided from the object alone.

* `Phase.of`: whether the interface is of another node, still without a hardware address, or to be
  worked on, and then in which steps.
* `addressOf`, `desiredRoutes`: what the objects declare, read as addresses and routes; of the routes
  all are read or none.
-/

namespace LinkKeeper

open Net

/-- What the keeper of a node is set to. -/
structure Settings where
  /-- The node that the keeper works on. -/
  nodeName : String
  /-- How long to wait for a hardware address. -/
  addressWait : Duration
  /-- Whether a pass ends once a link is torn down. -/
  endAfterTearDown : Bool
  deriving DecidableEq, Repr

/-- One step of a pass. -/
inductive Step where
  | tearDownLink
  | releaseFinalizer
  | verifyAttached
  | recordLinkName
  | configureLink
  | syncRoutes
  deriving DecidableEq, Repr

/-- The steps of a pass, with the hardware address and the address that they work on. -/
structure Plan where
  macAddress : String
  address : Network
  steps : List Step
  deriving DecidableEq, Repr

/-- What a pass over an interface amounts to. -/
inductive Phase where
  /-- The interface is of another node. -/
  | foreign
  /-- There is no hardware address yet. -/
  | awaitingAddress
  | active (plan : Plan)
  deriving DecidableEq, Repr

/-- The steps before an interface can go. -/
def releaseSteps : List Step := [.tearDownLink, .releaseFinalizer]

/-- The steps that bring the link into the declared state. -/
def convergeSteps : List Step := [.verifyAttached, .recordLinkName, .configureLink, .syncRoutes]

/-- The declared address of an interface. -/
def addressOf (nic : NetworkInterface) : Except KeeperError Network :=
  match Network.parse? (Text.trim nic.spec.address.toList) with
  | some address => .ok address
  | none => .error (.invalidAddress (nic.metadata.name.getD "") nic.spec.address)

namespace Phase

/-- Whether the link is to be torn down first. -/
def releases (nic : NetworkInterface) : Bool := nic.isTerminating && nic.hasFinalizer

/-- The steps of a pass: first those that let the interface go if that is asked for, then those that
bring the link into the declared state, unless the pass ends after a tear-down. -/
def steps (settings : Settings) (nic : NetworkInterface) : List Step :=
  if releases nic then
    releaseSteps ++ (if settings.endAfterTearDown then [] else convergeSteps)
  else convergeSteps

/-- What a pass over the interface amounts to. -/
def of (settings : Settings) (nic : NetworkInterface) : Except KeeperError Phase :=
  if nic.spec.nodeName ≠ settings.nodeName then .ok .foreign
  else
    match nic.macAddress? with
    | none => .ok .awaitingAddress
    | some mac => do
      let address ← addressOf nic
      .ok (.active ⟨mac, address, steps settings nic⟩)

end Phase

/-- A declared route, with the host bits of its destination cleared. -/
def routeOf (networkName : String) (r : RouteSpec) : Except KeeperError Route :=
  match Network.parse? (Text.trim r.destination.toList) with
  | none => .error (.invalidRoute networkName .destination r.destination)
  | some destination =>
    match Address.parse? (Text.trim r.via.toList) with
    | none => .error (.invalidRoute networkName .via r.via)
    | some via => .ok (Route.normalized ⟨destination, via⟩)

/-- The routes that every link in the network has to carry, in the order of declaration. One that
cannot be read fails them all. -/
def desiredRoutes (network : PrivateNetwork) : Except KeeperError (List Route) :=
  network.spec.routes.mapM (routeOf (network.metadata.name.getD ""))

end LinkKeeper
