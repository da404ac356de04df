import LinkKeeper.Resource.NetworkInterface

/-!
Private networks, and the routes that every link of a member interface has to carry.

* `PrivateNetwork.fromJson?`, `PrivateNetwork.toJson`: reading and writing.
-/

namespace LinkKeeper

open Json

/-- A declared route: what goes to the network `destination` is sent through the gateway `via`. -/
structure RouteSpec where
  destination : String
  via : String
  deriving DecidableEq, Repr

/-- What is declared of a private network. -/
structure NetworkSpec where
  id : Option String
  routes : List RouteSpec
  deriving DecidableEq, Repr

/-- A private network. -/
structure PrivateNetwork where
  metadata : ObjectMeta
  spec : NetworkSpec

namespace PrivateNetwork

/-- The key of the network, if it is named. -/
def key? (network : PrivateNetwork) : Option ObjectKey :=
  ObjectKey.of? network.metadata.name network.metadata.namespaceName

def routeFromJson? : Decoder RouteSpec := fun j => do
  let f ← record? ["to", "via"] j
  some ⟨← f.required "to" text?, ← f.required "via" text?⟩

def routeToJson (r : RouteSpec) : Json :=
  ofFields [("to", some (.text r.destination)), ("via", some (.text r.via))]

def specFromJson? : Decoder NetworkSpec := fun j => do
  let f ← record? ["id", "routes"] j
  some ⟨← f.maybe "id" text?, ← f.defaulted "routes" [] (list? routeFromJson?)⟩

def specToJson (s : NetworkSpec) : Json :=
  ofFields [("id", s.id.map .text), ("routes", some (.array (s.routes.map routeToJson)))]

/-- Reads a network; the members that name its kind and version are not looked at. -/
def fromJson? : Decoder PrivateNetwork := fun j => do
  let f ← record? ["metadata", "spec"] j
  some ⟨← f.required "metadata" (ObjectMeta.fromJson? 1), ← f.required "spec" specFromJson?⟩

def toJson (network : PrivateNetwork) : Json :=
  ofFields
    [("apiVersion", some (.text apiVersion)),
      ("kind", some (.text networkKind)),
      ("metadata", some network.metadata.toJson),
      ("spec", some (specToJson network.spec))]

end PrivateNetwork

end LinkKeeper
