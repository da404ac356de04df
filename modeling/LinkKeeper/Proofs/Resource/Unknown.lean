import LinkKeeper.Proofs.Json.Unknown
import LinkKeeper.Resource.PrivateNetwork

/-!
Members of objects that are not known.

* `Json.Shape.networkInterface`, `Json.Shape.privateNetwork`: what is known of the two kinds.
* `NetworkInterface.overlooks`, `PrivateNetwork.overlooks`: all else changes nothing.
-/

namespace LinkKeeper

open Json

namespace Json.Shape

/-- Fields with nothing in them that would not be known. -/
def plain (names : List String) : List (String × Shape) := names.map fun name => (name, any)

def ownerReference : List (String × Shape) :=
  plain ["apiVersion", "kind", "name", "uid", "controller", "blockOwnerDeletion"]

def fieldManager : List (String × Shape) :=
  plain ["apiVersion", "fieldsType", "fieldsV1", "manager", "operation", "subresource", "time"]

def objectMeta : List (String × Shape) :=
  plain ["annotations", "creationTimestamp", "deletionGracePeriodSeconds", "deletionTimestamp", "finalizers",
    "generateName", "generation", "labels", "name", "namespace", "resourceVersion", "selfLink", "uid"] ++
    [("managedFields", list (record fieldManager)), ("ownerReferences", list (record ownerReference))]

def interfaceSpec : List (String × Shape) := plain ["nodeName", "address"]

def interfaceStatus : List (String × Shape) := plain ["macAddress", "linkName"]

def networkInterface : List (String × Shape) :=
  [("metadata", record objectMeta), ("spec", record interfaceSpec), ("status", record interfaceStatus)]

def route : List (String × Shape) := plain ["to", "via"]

def networkSpec : List (String × Shape) := [("id", any), ("routes", list (record route))]

def privateNetwork : List (String × Shape) := [("metadata", record objectMeta), ("spec", record networkSpec)]

end Json.Shape

open Shape

/-! ### Metadata -/

/-- A field that is read whole is read the same. -/
theorem lastOf_pruned {α : Type} {fields : List (String × Shape)} {name : String}
    (known : fields.lookup name = some any) (members : List (String × Json)) (value : Decoder α) :
    lastOf (members.filterMap fun m => prunedMember? fields m) name value = lastOf members name value :=
  (overlooks_any value).lastOf known members

theorem OwnerReference.overlooks : Overlooks (record ownerReference) OwnerReference.fromJson? := by
  refine overlooks_members fun ms => ?_
  have field {α : Type} (name : String) (value : Decoder α) (known : ownerReference.lookup name = some any) :
      lastOf (ms.filterMap fun m => prunedMember? ownerReference m) name value = lastOf ms name value :=
    lastOf_pruned known ms value
  rw [field "apiVersion" _ rfl, field "kind" _ rfl, field "name" _ rfl, field "uid" _ rfl, field "controller" _ rfl,
    field "blockOwnerDeletion" _ rfl]

theorem FieldManager.overlooks (levels : Nat) : Overlooks (record fieldManager) (FieldManager.fromJson? levels) := by
  refine overlooks_members fun ms => ?_
  have field {α : Type} (name : String) (value : Decoder α) (known : fieldManager.lookup name = some any) :
      lastOf (ms.filterMap fun m => prunedMember? fieldManager m) name value = lastOf ms name value :=
    lastOf_pruned known ms value
  rw [field "apiVersion" _ rfl, field "fieldsType" _ rfl, field "fieldsV1" _ rfl, field "manager" _ rfl,
    field "operation" _ rfl, field "subresource" _ rfl, field "time" _ rfl]

theorem ObjectMeta.overlooks (levels : Nat) : Overlooks (record objectMeta) (ObjectMeta.fromJson? levels) := by
  refine overlooks_members fun ms => ?_
  have field {α : Type} (name : String) (value : Decoder α) (known : objectMeta.lookup name = some any) :
      lastOf (ms.filterMap fun m => prunedMember? objectMeta m) name value = lastOf ms name value :=
    lastOf_pruned known ms value
  have managers := (overlooks_list (FieldManager.overlooks (levels + 2))).lastOf
    (rfl : objectMeta.lookup "managedFields" = _) ms
  have owners := (overlooks_list OwnerReference.overlooks).lastOf (rfl : objectMeta.lookup "ownerReferences" = _) ms
  rw [field "annotations" _ rfl, field "creationTimestamp" _ rfl, field "deletionGracePeriodSeconds" _ rfl,
    field "deletionTimestamp" _ rfl, field "finalizers" _ rfl, field "generateName" _ rfl, field "generation" _ rfl,
    field "labels" _ rfl, managers, field "name" _ rfl, field "namespace" _ rfl, owners,
    field "resourceVersion" _ rfl, field "selfLink" _ rfl, field "uid" _ rfl]

/-! ### The two kinds -/

namespace NetworkInterface

theorem overlooks_spec : Overlooks (record interfaceSpec) specFromJson? := by
  refine overlooks_record (by decide) fun f => ?_
  rw [(overlooks_any text?).required (rfl : interfaceSpec.lookup "nodeName" = _),
    (overlooks_any text?).required (rfl : interfaceSpec.lookup "address" = _)]

theorem overlooks_status : Overlooks (record interfaceStatus) statusFromJson? := by
  refine overlooks_record (by decide) fun f => ?_
  rw [(overlooks_any text?).maybe (rfl : interfaceStatus.lookup "macAddress" = _),
    (overlooks_any text?).maybe (rfl : interfaceStatus.lookup "linkName" = _)]

/-- What is not known of an interface changes nothing. -/
theorem overlooks (levels : Nat) : Overlooks (record networkInterface) (fromJsonWithin? levels) := by
  refine overlooks_record (by decide) fun f => ?_
  rw [(ObjectMeta.overlooks (levels + 1)).required (rfl : networkInterface.lookup "metadata" = _),
    overlooks_spec.required (rfl : networkInterface.lookup "spec" = _),
    overlooks_status.optional (rfl : networkInterface.lookup "status" = _)]

end NetworkInterface

namespace PrivateNetwork

theorem overlooks_route : Overlooks (record route) routeFromJson? := by
  refine overlooks_record (by decide) fun f => ?_
  rw [(overlooks_any text?).required (rfl : route.lookup "to" = _),
    (overlooks_any text?).required (rfl : route.lookup "via" = _)]

theorem overlooks_spec : Overlooks (record networkSpec) specFromJson? := by
  refine overlooks_record (by decide) fun f => ?_
  rw [(overlooks_any text?).maybe (rfl : networkSpec.lookup "id" = _),
    (overlooks_list overlooks_route).defaulted (rfl : networkSpec.lookup "routes" = _)]

/-- What is not known of a network changes nothing. -/
theorem overlooks : Overlooks (record privateNetwork) fromJson? := by
  refine overlooks_record (by decide) fun f => ?_
  rw [(ObjectMeta.overlooks 1).required (rfl : privateNetwork.lookup "metadata" = _),
    overlooks_spec.required (rfl : privateNetwork.lookup "spec" = _)]

end PrivateNetwork

end LinkKeeper
