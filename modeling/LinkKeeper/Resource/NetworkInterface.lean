import LinkKeeper.Resource.Metadata
import LinkKeeper.Schedule.Key

/-!
Network interfaces: which node a private interface belongs to, and the address it has there.

* `NetworkInterface.macAddress?`, `NetworkInterface.linkName?`: the empty text stands for none.
* `NetworkInterface.withoutFinalizer`, `NetworkInterface.withLinkName`: the two changes that are made
  to an object.
* `NetworkInterface.fromJson?`, `NetworkInterface.toJson`: reading and writing.
-/

namespace LinkKeeper

open Json

/-- The group and version of the objects' definitions. -/
def apiVersion : String := "vpc.scaleway.com/v1alpha1"

/-- The label of an interface that names the network it belongs to. -/
def networkLabel : String := "vpc.scaleway.com/private-network"

/-- While an interface carries this finalizer, its link has to be torn down before it can go. -/
def interfaceFinalizer : String := "vpc.scaleway.com/network-interface"

/-- The kind of the networks, as owner references give it. -/
def networkKind : String := "PrivateNetwork"

/-- The kind of the interfaces. -/
def interfaceKind : String := "NetworkInterface"

/-- What is declared of an interface. -/
structure InterfaceSpec where
  nodeName : String
  address : String
  deriving DecidableEq, Repr

/-- What has been observed of an interface. -/
structure InterfaceStatus where
  macAddress : Option String
  linkName : Option String
  deriving DecidableEq, Repr

/-- A private interface of a node. -/
structure NetworkInterface where
  metadata : ObjectMeta
  spec : InterfaceSpec
  status : Option InterfaceStatus

namespace NetworkInterface

/-- The text, unless it is empty. -/
def nonempty (s : Option String) : Option String := s.filter (· ≠ "")

/-- The hardware address, once it is known. -/
def macAddress? (nic : NetworkInterface) : Option String :=
  nonempty (nic.status.bind InterfaceStatus.macAddress)

/-- The recorded name of the link on the host. -/
def linkName? (nic : NetworkInterface) : Option String :=
  nonempty (nic.status.bind InterfaceStatus.linkName)

/-- Whether the cluster has been asked to delete the interface. -/
def isTerminating (nic : NetworkInterface) : Bool := nic.metadata.isTerminating

/-- Whether the link still has to be torn down before the interface can go. -/
def hasFinalizer (nic : NetworkInterface) : Bool :=
  (nic.metadata.finalizers.getD []).contains interfaceFinalizer

/-- The name of the network that the interface belongs to: the first owner of that kind. -/
def ownerNetwork? (nic : NetworkInterface) : Option String :=
  ((nic.metadata.ownerReferences.getD []).find? fun r => r.kind = networkKind).map OwnerReference.name

/-- The key of the interface, if it is named. -/
def key? (nic : NetworkInterface) : Option ObjectKey :=
  ObjectKey.of? nic.metadata.name nic.metadata.namespaceName

/-- The interface without any occurrence of the finalizer. -/
def withoutFinalizer (nic : NetworkInterface) : NetworkInterface :=
  { nic with metadata.finalizers := nic.metadata.finalizers.map (·.filter (· ≠ interfaceFinalizer)) }

/-- The interface with the name of its link recorded. -/
def withLinkName (nic : NetworkInterface) (name : String) : NetworkInterface :=
  { nic with status := some { nic.status.getD ⟨none, none⟩ with linkName := some name } }

/-- Of a status nothing but the hardware address is kept. -/
theorem status_withLinkName (nic : NetworkInterface) (name : String) :
    (nic.withLinkName name).status = some ⟨nic.status.bind InterfaceStatus.macAddress, some name⟩ := by
  unfold withLinkName
  cases nic.status <;> rfl

/-! ### Reading and writing -/

def specFromJson? : Decoder InterfaceSpec := fun j => do
  let f ← record? ["nodeName", "address"] j
  some ⟨← f.required "nodeName" text?, ← f.required "address" text?⟩

def specToJson (s : InterfaceSpec) : Json :=
  ofFields [("nodeName", some (.text s.nodeName)), ("address", some (.text s.address))]

def statusFromJson? : Decoder InterfaceStatus := fun j => do
  let f ← record? ["macAddress", "linkName"] j
  some ⟨← f.maybe "macAddress" text?, ← f.maybe "linkName" text?⟩

def statusToJson (s : InterfaceStatus) : Json :=
  ofFields [("macAddress", s.macAddress.map .text), ("linkName", s.linkName.map .text)]

/-- Reads an interface inside of `levels` arrays and objects; the members that name its kind and
version are not looked at. -/
def fromJsonWithin? (levels : Nat) : Decoder NetworkInterface := fun j => do
  let f ← record? ["metadata", "spec", "status"] j
  some ⟨← f.required "metadata" (ObjectMeta.fromJson? (levels + 1)), ← f.required "spec" specFromJson?,
    ← f.optional "status" statusFromJson?⟩

/-- Reads an interface that is the whole document. -/
def fromJson? : Decoder NetworkInterface := fromJsonWithin? 0

def toJson (nic : NetworkInterface) : Json :=
  ofFields
    [("apiVersion", some (.text apiVersion)),
      ("kind", some (.text interfaceKind)),
      ("metadata", some nic.metadata.toJson),
      ("spec", some (specToJson nic.spec)),
      ("status", nic.status.map statusToJson)]

end NetworkInterface

end LinkKeeper
