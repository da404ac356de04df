import LinkKeeper.Resource.PrivateNetwork
import LinkKeeper.Resource.Schema

/-!
The definitions by which the cluster learns of the two kinds of objects.

* `ResourceDefinition.networkInterface`, `ResourceDefinition.privateNetwork`: the two kinds.
* `ResourceDefinition.toJson`: how a definition is published.
-/

namespace LinkKeeper

open Json

/-- A column of the table in which objects are listed. -/
structure PrintedColumn where
  title : String
  path : String

/-- The definition of a kind of objects. -/
structure ResourceDefinition where
  kind : String
  singular : String
  plural : String
  shortNames : List String
  columns : List PrintedColumn
  schema : Schema
  /-- Whether the status of an object is written on its own. -/
  hasStatus : Bool

namespace ResourceDefinition

/-- The group of the definitions. -/
def group : String := "vpc.scaleway.com"

/-- The version of the definitions. -/
def version : String := "v1alpha1"

/-- The name under which the definition is stored. -/
def name (d : ResourceDefinition) : String := d.plural ++ "." ++ group

/-- The schema of an object of a kind, apart from its metadata. -/
def objectSchema (kind : String) (fields : List (String × Schema)) : Schema :=
  .record (some kind)
    (some ("Auto-generated derived type for " ++ kind ++ "Spec via \x60CustomResource\x60"))
    false fields ["spec"]

/-- What is declared of an interface. -/
def interfaceSpecSchema : Schema :=
  .record none none false
    [("address",
        .text "Desired address of the link, in CIDR notation (e.g. \"192.168.0.10/24\")" false),
      ("nodeName", .text "Node this interface is bound to (immutable)" false)]
    ["address", "nodeName"]

/-- What is observed of an interface. -/
def interfaceStatusSchema : Schema :=
  .record none none true
    [("linkName", .text "Host link name resolved by the controller" true),
      ("macAddress",
        .text "Hardware address of the attached NIC, set once the NIC is plugged into the node" true)]
    []

/-- A declared route. -/
def routeSchema : Schema :=
  .record none (some "A single route entry: traffic for \x60to\x60 goes through \x60via\x60.") false
    [("to", .text "Destination in CIDR notation" false), ("via", .text "Gateway address" false)]
    ["to", "via"]

/-- What is declared of a network. -/
def networkSpecSchema : Schema :=
  .record none none false
    [("id", .text "Cloud identifier of the private network" true),
      ("routes", .list "Routing table projected onto every member link, in order" true routeSchema)]
    []

/-- The definition of the interfaces. -/
def networkInterface : ResourceDefinition :=
  { kind := interfaceKind
    singular := "networkinterface"
    plural := "networkinterfaces"
    shortNames := ["nic"]
    columns :=
      [⟨"Node", ".spec.nodeName"⟩, ⟨"Address", ".spec.address"⟩, ⟨"MAC", ".status.macAddress"⟩,
        ⟨"Link", ".status.linkName"⟩]
    schema :=
      objectSchema interfaceKind [("spec", interfaceSpecSchema), ("status", interfaceStatusSchema)]
    hasStatus := true }

/-- The definition of the networks. -/
def privateNetwork : ResourceDefinition :=
  { kind := networkKind
    singular := "privatenetwork"
    plural := "privatenetworks"
    shortNames := ["pn"]
    columns := []
    schema := objectSchema networkKind [("spec", networkSpecSchema)]
    hasStatus := false }

/-- The definitions in the order in which they are published. -/
def all : List ResourceDefinition := [networkInterface, privateNetwork]

def columnToJson (c : PrintedColumn) : Json :=
  .object [("jsonPath", .text c.path), ("name", .text c.title), ("type", .text "string")]

def namesToJson (d : ResourceDefinition) : Json :=
  .object
    [("categories", .array []), ("kind", .text d.kind), ("plural", .text d.plural),
      ("shortNames", ofTexts d.shortNames), ("singular", .text d.singular)]

/-- The one version of the definition, which is both served and stored. -/
def versionToJson (d : ResourceDefinition) : Json :=
  .object
    [("additionalPrinterColumns", .array (d.columns.map columnToJson)),
      ("name", .text version),
      ("schema", .object [("openAPIV3Schema", d.schema.toJson)]),
      ("served", .bool true),
      ("storage", .bool true),
      ("subresources", .object (if d.hasStatus then [("status", .object [])] else []))]

/-- The published form, with the members of every object in the order of their names. -/
def toJson (d : ResourceDefinition) : Json :=
  .object
    [("apiVersion", .text "apiextensions.k8s.io/v1"),
      ("kind", .text "CustomResourceDefinition"),
      ("metadata", .object [("name", .text d.name)]),
      ("spec",
        .object
          [("group", .text group), ("names", d.namesToJson), ("scope", .text "Cluster"),
            ("versions", .array [d.versionToJson])])]

end ResourceDefinition

end LinkKeeper
