import LinkKeeper.Instance.Document
import LinkKeeper.Link.Error
import LinkKeeper.Store.Error

/-!
Why the keeper fails, and how a failed pass is tried again.

* `KeeperError.retry`: the class of an error.
* `KeeperError.message?`: how an error is told.
-/

namespace LinkKeeper

/-- The two parts of a declared route. -/
inductive RouteField where
  | destination
  | via
  deriving DecidableEq, Repr

def RouteField.text : RouteField → String
  | .destination => "to"
  | .via => "via"

/-- Why a pass, or the keeper as a whole, failed. -/
inductive KeeperError where
  /-- The cluster cannot be reached. -/
  | cluster (cause : String)
  | store (error : StoreError)
  | link (error : LinkError)
  | metadata (error : MetadataError)
  /-- No interface with the hardware address is attached to the node. -/
  | notAttached (macAddress : String)
  /-- The declared address of an interface is none. -/
  | invalidAddress (name value : String)
  /-- A declared route of a network is none. -/
  | invalidRoute (network : String) (field : RouteField) (value : String)
  /-- The interface belongs to no network. -/
  | noOwner (name : String)
  /-- The network that the interface belongs to does not exist. -/
  | noNetwork (name : String)
  | invalidConfig (fault : String)
  | metrics (cause : String)
  | server (cause : String)
  | watch (cause : String)
  deriving DecidableEq, Repr

/-- How a failed pass is tried again. -/
inductive RetryClass where
  /-- Something that the pass relies on has failed. -/
  | transient
  /-- What is declared makes no sense. -/
  | data
  /-- Another writer has been faster. -/
  | conflict
  deriving DecidableEq, Repr

namespace KeeperError

def retry : KeeperError → RetryClass
  | store (.conflict _ _) => .conflict
  | notAttached _ | invalidAddress _ _ | invalidRoute _ _ _ | noOwner _ | noNetwork _
  | invalidConfig _ => .data
  | _ => .transient

/-- How the error is told, where it is told in words of this program. -/
def message? : KeeperError → Option String
  | cluster cause => some ("Kubernetes error: " ++ cause)
  | store e => e.message?.map ("Store error: " ++ ·)
  | link e => some ("Link error: " ++ e.message)
  | metadata e => e.message?.map ("Metadata error: " ++ ·)
  | notAttached mac => some ("nic " ++ mac ++ " not found on node")
  | invalidAddress name value =>
    some ("Invalid address " ++ value ++ " on NetworkInterface " ++ name)
  | invalidRoute network field value =>
    some ("Invalid route " ++ field.text ++ " " ++ value ++ " in PrivateNetwork " ++ network)
  | noOwner name => some ("NetworkInterface " ++ name ++ " has no PrivateNetwork owner reference")
  | noNetwork name => some ("PrivateNetwork not found: " ++ name)
  | invalidConfig fault => some ("Invalid configuration: " ++ fault)
  | metrics cause => some ("Metrics error: Error: " ++ cause)
  | server cause => some ("Server error: " ++ cause)
  | watch cause => some ("Resource watch failed: " ++ cause)

end KeeperError

end LinkKeeper
