import LinkKeeper.Json.Decoder
import LinkKeeper.Json.Kept
import LinkKeeper.Resource.Timestamp

/-!
The metadata that every object of the cluster carries.

* `ObjectMeta.fromJson?`, `ObjectMeta.toJson`: metadata is read and written with all its known fields;
  an absent field is not written.
-/

namespace LinkKeeper

open Json

/-- An object that another one belongs to. -/
structure OwnerReference where
  apiVersion : String
  kind : String
  name : String
  uid : String
  controller : Option Bool
  blockOwnerDeletion : Option Bool
  deriving DecidableEq, Repr

/-- What one writer of an object has set in it. -/
structure FieldManager where
  apiVersion : Option String
  fieldsType : Option String
  fields : Option Json
  manager : Option String
  operation : Option String
  subresource : Option String
  time : Option Timestamp
  deriving Repr

/-- The metadata of an object. -/
structure ObjectMeta where
  annotations : Option (Table String String)
  creationTimestamp : Option Timestamp
  deletionGracePeriodSeconds : Option Int
  deletionTimestamp : Option Timestamp
  finalizers : Option (List String)
  generateName : Option String
  generation : Option Int
  labels : Option (Table String String)
  managedFields : Option (List FieldManager)
  name : Option String
  namespaceName : Option String
  ownerReferences : Option (List OwnerReference)
  resourceVersion : Option String
  selfLink : Option String
  uid : Option String

/-- Metadata without any field. -/
def ObjectMeta.blank : ObjectMeta :=
  ⟨none, none, none, none, none, none, none, none, none, none, none, none, none, none, none⟩

instance : Inhabited ObjectMeta := ⟨.blank⟩

/-- A point in time, written as a text. -/
def Timestamp.fromJson? : Decoder Timestamp := fun j => text? j >>= Timestamp.parse?

/-- How deep arrays and objects may be nested in a document of which every part is read. -/
def deepest : Nat := 127

/-- A document that is kept whatever it holds, inside of `levels` arrays and objects. -/
def anyJson? (levels : Nat) : Decoder Json := fun j =>
  if j.depth + levels ≤ deepest then j.kept? else none

namespace OwnerReference

/-- A missing text is read as the empty one. -/
def fromJson? : Decoder OwnerReference := fun j => do
  let ms ← members? j
  let apiVersion ← lastOf ms "apiVersion" text?
  let kind ← lastOf ms "kind" text?
  let name ← lastOf ms "name" text?
  let uid ← lastOf ms "uid" text?
  let controller ← lastOf ms "controller" bool?
  let blockOwnerDeletion ← lastOf ms "blockOwnerDeletion" bool?
  some ⟨apiVersion.getD "", kind.getD "", name.getD "", uid.getD "", controller, blockOwnerDeletion⟩

def toJson (r : OwnerReference) : Json :=
  ofFields
    [("apiVersion", some (.text r.apiVersion)),
      ("blockOwnerDeletion", r.blockOwnerDeletion.map .bool),
      ("controller", r.controller.map .bool),
      ("kind", some (.text r.kind)),
      ("name", some (.text r.name)),
      ("uid", some (.text r.uid))]

end OwnerReference

namespace FieldManager

/-- Reads what a writer has set, inside of `levels` arrays and objects. -/
def fromJson? (levels : Nat) : Decoder FieldManager := fun j => do
  let ms ← members? j
  some
    { apiVersion := ← lastOf ms "apiVersion" text?
      fieldsType := ← lastOf ms "fieldsType" text?
      fields := ← lastOf ms "fieldsV1" (anyJson? (levels + 1))
      manager := ← lastOf ms "manager" text?
      operation := ← lastOf ms "operation" text?
      subresource := ← lastOf ms "subresource" text?
      time := ← lastOf ms "time" Timestamp.fromJson? }

def toJson (m : FieldManager) : Json :=
  ofFields
    [("apiVersion", m.apiVersion.map .text),
      ("fieldsType", m.fieldsType.map .text),
      ("fieldsV1", m.fields),
      ("manager", m.manager.map .text),
      ("operation", m.operation.map .text),
      ("subresource", m.subresource.map .text),
      ("time", m.time.map fun t => .text t.text)]

end FieldManager

namespace ObjectMeta

/-- Reads metadata, inside of `levels` arrays and objects. -/
def fromJson? (levels : Nat) : Decoder ObjectMeta := fun j => do
  let ms ← members? j
  some
    { annotations := ← lastOf ms "annotations" textTable?
      creationTimestamp := ← lastOf ms "creationTimestamp" Timestamp.fromJson?
      deletionGracePeriodSeconds := ← lastOf ms "deletionGracePeriodSeconds" int64?
      deletionTimestamp := ← lastOf ms "deletionTimestamp" Timestamp.fromJson?
      finalizers := ← lastOf ms "finalizers" (list? text?)
      generateName := ← lastOf ms "generateName" text?
      generation := ← lastOf ms "generation" int64?
      labels := ← lastOf ms "labels" textTable?
      managedFields := ← lastOf ms "managedFields" (list? (FieldManager.fromJson? (levels + 2)))
      name := ← lastOf ms "name" text?
      namespaceName := ← lastOf ms "namespace" text?
      ownerReferences := ← lastOf ms "ownerReferences" (list? OwnerReference.fromJson?)
      resourceVersion := ← lastOf ms "resourceVersion" text?
      selfLink := ← lastOf ms "selfLink" text?
      uid := ← lastOf ms "uid" text? }

def toJson (m : ObjectMeta) : Json :=
  ofFields
    [("annotations", m.annotations.map ofTextTable),
      ("creationTimestamp", m.creationTimestamp.map fun t => .text t.text),
      ("deletionGracePeriodSeconds", m.deletionGracePeriodSeconds.map fun i => .number (.ofInt i)),
      ("deletionTimestamp", m.deletionTimestamp.map fun t => .text t.text),
      ("finalizers", m.finalizers.map ofTexts),
      ("generateName", m.generateName.map .text),
      ("generation", m.generation.map fun i => .number (.ofInt i)),
      ("labels", m.labels.map ofTextTable),
      ("managedFields", m.managedFields.map fun l => .array (l.map FieldManager.toJson)),
      ("name", m.name.map .text),
      ("namespace", m.namespaceName.map .text),
      ("ownerReferences", m.ownerReferences.map fun l => .array (l.map OwnerReference.toJson)),
      ("resourceVersion", m.resourceVersion.map .text),
      ("selfLink", m.selfLink.map .text),
      ("uid", m.uid.map .text)]

/-- Whether the cluster has been asked to delete the object. -/
def isTerminating (m : ObjectMeta) : Bool := m.deletionTimestamp.isSome

/-- The value of a label. -/
def label? (m : ObjectMeta) (name : String) : Option String :=
  m.labels.bind fun t => t.get? name

/-- The same metadata at another version. -/
def atVersion (m : ObjectMeta) (version : String) : ObjectMeta :=
  { m with resourceVersion := some version }

end ObjectMeta

end LinkKeeper
