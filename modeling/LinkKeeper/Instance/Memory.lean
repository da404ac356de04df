import LinkKeeper.Instance.Document

/-!
A metadata service in memory: a machine to which interfaces are attached and from which they are
detached.

* `MemoryInstance.fetch`: the document, unless the service has been told to fail.
-/

namespace LinkKeeper

/-- The document of a machine, whether it can be had, and how often it has been asked for. -/
structure MemoryInstance where
  document : InstanceDocument
  failing : Bool
  fetches : Nat

namespace MemoryInstance

/-- A machine with the hardware addresses attached. -/
def ofAddresses (macs : List String) : MemoryInstance := ⟨.ofAddresses macs, false, 0⟩

/-- Attaches an interface with the hardware address. -/
def attach (m : MemoryInstance) (mac : String) : MemoryInstance :=
  { m with document.interfaces := m.document.interfaces ++ [⟨none, mac, none, none⟩] }

/-- Detaches every interface with the hardware address, in any case of letters. -/
def detach (m : MemoryInstance) (mac : String) : MemoryInstance :=
  { m with
    document.interfaces :=
      m.document.interfaces.filter fun a => !Net.sameHardwareAddress a.macAddress mac }

/-- Answers a request for the document. -/
def fetch (m : MemoryInstance) : Except MetadataError InstanceDocument × MemoryInstance :=
  let m := { m with fetches := m.fetches + 1 }
  if m.failing then (.error (.api "injected metadata failure"), m) else (.ok m.document, m)

end MemoryInstance

end LinkKeeper
