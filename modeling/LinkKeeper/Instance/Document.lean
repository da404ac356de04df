import LinkKeeper.Json.Decoder
import LinkKeeper.Net.HardwareAddress

/-!
The document in which the machine describes itself, and the interfaces that are attached to it.

* `InstanceDocument.hasInterface_iff`: an interface is attached when one of the document's has its
  hardware address, in any case of letters.
-/

namespace LinkKeeper

open Json

/-- A private interface that is attached to the machine. -/
structure AttachedInterface where
  id : Option String
  macAddress : String
  networkId : Option String
  state : Option String
  deriving DecidableEq, Repr

/-- The part of the machine's description that is used. -/
structure InstanceDocument where
  id : Option String
  hostname : Option String
  interfaces : List AttachedInterface
  deriving DecidableEq, Repr

/-- Why the description of the machine could not be had. -/
inductive MetadataError where
  /-- The request got no response. -/
  | http
  /-- The service answered with a failure. -/
  | api (cause : String)
  /-- The answer is no description. -/
  | undecodable
  deriving DecidableEq, Repr

/-- How the error is told, where it is told in words of this program. -/
def MetadataError.message? : MetadataError → Option String
  | .api cause => some ("Metadata API error: " ++ cause)
  | .http | .undecodable => none

namespace AttachedInterface

def fromJson? : Decoder AttachedInterface := fun j => do
  let f ← record? ["id", "mac_address", "private_network_id", "state"] j
  some ⟨← f.maybe "id" text?, ← f.required "mac_address" text?,
    ← f.maybe "private_network_id" text?, ← f.maybe "state" text?⟩

/-- Absent texts are written as null. -/
def toJson (a : AttachedInterface) : Json :=
  .object
    [("id", ofText? a.id), ("mac_address", .text a.macAddress),
      ("private_network_id", ofText? a.networkId), ("state", ofText? a.state)]

end AttachedInterface

namespace InstanceDocument

/-- A machine to which exactly these hardware addresses are attached. -/
def ofAddresses (macs : List String) : InstanceDocument :=
  ⟨none, none, macs.map fun mac => ⟨none, mac, none, none⟩⟩

def fromJson? : Decoder InstanceDocument := fun j => do
  let f ← record? ["id", "hostname", "private_nics"] j
  some ⟨← f.maybe "id" text?, ← f.maybe "hostname" text?,
    ← f.defaulted "private_nics" [] (list? AttachedInterface.fromJson?)⟩

/-- Absent texts are written as null. -/
def toJson (d : InstanceDocument) : Json :=
  .object
    [("id", ofText? d.id), ("hostname", ofText? d.hostname),
      ("private_nics", .array (d.interfaces.map AttachedInterface.toJson))]

/-- Whether an interface with the hardware address is attached. -/
def hasInterface (d : InstanceDocument) (mac : String) : Bool :=
  d.interfaces.any fun a => Net.sameHardwareAddress a.macAddress mac

theorem hasInterface_iff {d : InstanceDocument} {mac : String} :
    d.hasInterface mac = true ↔ ∃ a ∈ d.interfaces, Net.foldCase a.macAddress = Net.foldCase mac := by
  simp [hasInterface, Net.sameHardwareAddress_iff]

end InstanceDocument

end LinkKeeper
