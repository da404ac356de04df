import LinkKeeper.Json.Decoder
import LinkKeeper.Json.Parser
import LinkKeeper.Link.Route
import LinkKeeper.Net.Address.Parser
import LinkKeeper.Net.HardwareAddress
import LinkKeeper.Text.Blank

/-!
The reports of the host about its links, addresses and routes.

* `AddressEntry.network?`: which reported addresses count: those of global scope.
* `RouteEntry.route?`: which reported routes count: those with a gateway that the kernel has not
  made itself. Their destination is a word for everything, a host, or a network.
* `Report.parse?`: a report is a JSON array of entries; a blank one has none.
-/

namespace LinkKeeper

open Json Net

/-- A reported link. -/
structure LinkEntry where
  name : String
  macAddress : Option String
  state : Option String
  deriving DecidableEq, Repr

/-- A reported address of a link. -/
structure AddressEntry where
  family : String
  address : Option String
  length : Option Nat
  scope : Option String
  deriving DecidableEq, Repr

/-- The reported addresses of a link. -/
structure LinkAddresses where
  name : String
  addresses : List AddressEntry
  deriving DecidableEq, Repr

/-- A reported route. -/
structure RouteEntry where
  destination : String
  gateway : Option String
  protocol : Option String
  deriving DecidableEq, Repr

namespace LinkEntry

def fromJson? : Decoder LinkEntry := fun j => do
  let f ← record? ["ifname", "address", "operstate"] j
  some ⟨← f.required "ifname" text?, ← f.maybe "address" text?, ← f.maybe "operstate" text?⟩

/-- Whether the link has the hardware address. -/
def hasAddress (l : LinkEntry) (mac : String) : Bool :=
  l.macAddress.any fun a => sameHardwareAddress a mac

/-- Whether the link is reported to be up. -/
def isUp (l : LinkEntry) : Bool := l.state = some "UP"

end LinkEntry

namespace AddressEntry

def fromJson? : Decoder AddressEntry := fun j => do
  let f ← record? ["family", "local", "prefixlen", "scope"] j
  some ⟨← f.required "family" text?, ← f.maybe "local" text?, ← f.maybe "prefixlen" (nat? 255),
    ← f.maybe "scope" text?⟩

/-- The address with its prefix length, if it has global scope. -/
def network? (e : AddressEntry) : Option Network := do
  if e.scope ≠ some "global" then none
  let address ← Address.parse? (← e.address).toList
  Network.ofLength? address (← e.length)

end AddressEntry

namespace LinkAddresses

def fromJson? : Decoder LinkAddresses := fun j => do
  let f ← record? ["ifname", "addr_info"] j
  some ⟨← f.required "ifname" text?, ← f.defaulted "addr_info" [] (list? AddressEntry.fromJson?)⟩

end LinkAddresses

namespace RouteEntry

def fromJson? : Decoder RouteEntry := fun j => do
  let f ← record? ["dst", "gateway", "protocol"] j
  some ⟨← f.required "dst" text?, ← f.maybe "gateway" text?, ← f.maybe "protocol" text?⟩

/-- Reads the destination of a route whose gateway is of the given family. -/
def destination? (family : Family) (text : String) : Option Network :=
  if text = "default" then some (.everything family)
  else if text.toList.contains '/' then Network.parse? text.toList
  else (Address.parse? text.toList).map .host

/-- The reported route, or none if it has no gateway or is the kernel's own; a value that cannot be
read is given back as the error. -/
def route? (e : RouteEntry) : Except String (Option Route) :=
  if e.protocol = some "kernel" then .ok none
  else
    match e.gateway with
    | none => .ok none
    | some gateway =>
      match Address.parse? gateway.toList with
      | none => .error gateway
      | some via =>
        match destination? via.family e.destination with
        | none => .error e.destination
        | some destination => .ok (some ⟨destination, via⟩)

end RouteEntry

/-- Reads a report: an array of entries, or blank text for no entry. -/
def Report.parse? {α : Type} (entry : Decoder α) (text : String) : Option (List α) :=
  if (Text.trim text.toList).isEmpty then some []
  else Json.parse? text >>= list? entry

end LinkKeeper
