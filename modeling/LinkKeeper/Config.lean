import LinkKeeper.Net.Address.Parser
import LinkKeeper.Net.Address.Printer
import LinkKeeper.Reconcile.Plan
import LinkKeeper.Schedule.Backoff
import LinkKeeper.Text.Blank
import LinkKeeper.Text.Number

/-!
The configuration, read from the environment.

The variables are read in a fixed order and the first fault is reported, so one faulty environment
has one error. Numbers, switches and the listen address may be padded with blanks; the address of the
metadata service and the name of the program are taken as they are.

* `Config.ofEnvironment`: the configuration that an environment gives.
* `ConfigError.message`: how a fault is told.
* `Config.settings`: what the passes over interfaces need of it.
-/

namespace LinkKeeper

open Net Text

/-- The value of each variable that is set. -/
abbrev Environment := String → Option String

/-- Why the value of a variable cannot be used. -/
inductive ValueFault where
  | number (fault : NumberError)
  | noSwitch
  | noEndpoint
  deriving DecidableEq, Repr

/-- Why an environment gives no configuration. -/
inductive ConfigError where
  /-- The name of the node is missing or blank. -/
  | noNodeName
  /-- The value of a variable is no value of its kind. -/
  | badValue (name value : String) (fault : ValueFault)
  | noWorkers
  /-- The least back-off is above the greatest, both in seconds. -/
  | crossedBounds (least greatest : Nat)
  deriving DecidableEq, Repr

def ValueFault.message : ValueFault → String
  | .number fault => fault.message
  | .noSwitch => "provided string was not \x60true\x60 or \x60false\x60"
  | .noEndpoint => "invalid socket address syntax"

/-- How the fault is told. -/
def ConfigError.message : ConfigError → String
  | .noNodeName => "NODE_NAME environment variable is required"
  | .badValue name value fault => name ++ " has invalid value '" ++ value ++ "': " ++ fault.message
  | .noWorkers => "RECONCILE_WORKERS must be at least 1"
  | .crossedBounds least greatest =>
    "BACKOFF_MIN_SECS (" ++ toString least ++ ") exceeds BACKOFF_MAX_SECS (" ++ toString greatest ++ ")"

/-- The configuration of the keeper of one node. -/
structure Config where
  nodeName : String
  /-- Where the metadata service is found. -/
  metadataUrl : String
  /-- How many passes may run at the same time. -/
  workers : Nat
  /-- How long to wait for a hardware address. -/
  addressWait : Duration
  leastBackoff : Duration
  greatestBackoff : Duration
  /-- Whether a pass ends once a link is torn down. -/
  endAfterTearDown : Bool
  /-- Where probes and metrics are served. -/
  listenAt : Endpoint
  /-- The program that lists and changes the links of the host. -/
  ipProgram : String
  deriving DecidableEq, Repr

namespace Config

/-- The value of a variable, read after trimming, or a default if it is not set. -/
def valueOf {α : Type} (env : Environment) (name : String) (default : α)
    (read : List Char → Except ValueFault α) : Except ConfigError α :=
  match env name with
  | none => .ok default
  | some value => (read (trim value.toList)).mapError (.badValue name value)

/-- Reads a number of sixty-four bits. -/
def readWord (cs : List Char) : Except ValueFault Nat :=
  (readBounded maxWord64 cs).mapError .number

/-- Reads a number of seconds. -/
def readSeconds (cs : List Char) : Except ValueFault Duration :=
  (readWord cs).map .ofSeconds

/-- Reads a switch. -/
def readSwitch (cs : List Char) : Except ValueFault Bool :=
  if cs = "true".toList then .ok true
  else if cs = "false".toList then .ok false
  else .error .noSwitch

/-- Reads a listen address. -/
def readEndpoint (cs : List Char) : Except ValueFault Endpoint :=
  match Endpoint.parse? cs with
  | some e => .ok e
  | none => .error .noEndpoint

/-- The name of the node, without blanks around it. -/
def nodeNameOf (env : Environment) : Except ConfigError String :=
  match env "NODE_NAME" with
  | none => .error .noNodeName
  | some name => if trimmed name = "" then .error .noNodeName else .ok (trimmed name)

/-- Probes and metrics are served on every address of the host unless said otherwise. -/
def standardEndpoint : Endpoint := ⟨.v4 0, 0, 8080⟩

/-- The address at which a machine reaches its metadata service. -/
def standardMetadataUrl : String := "http://169.254.42.42"

/-- The variables that are read. -/
def variableNames : List String :=
  ["NODE_NAME", "RECONCILE_WORKERS", "AWAITING_ADDRESS_REQUEUE_SECS", "BACKOFF_MIN_SECS",
    "BACKOFF_MAX_SECS", "TEARDOWN_SHORT_CIRCUIT", "METRICS_ADDR", "METADATA_URL", "IP_BINARY"]

/-- The configuration that an environment gives, or the first fault in it. -/
def ofEnvironment (env : Environment) : Except ConfigError Config := do
  let nodeName ← nodeNameOf env
  let workers ← valueOf env "RECONCILE_WORKERS" 4 readWord
  if workers = 0 then throw .noWorkers
  let addressWait ← valueOf env "AWAITING_ADDRESS_REQUEUE_SECS" (.ofSeconds 1) readSeconds
  let least ← valueOf env "BACKOFF_MIN_SECS" (.ofSeconds 1) readSeconds
  let greatest ← valueOf env "BACKOFF_MAX_SECS" (.ofSeconds 300) readSeconds
  if ¬ least ≤ greatest then throw (.crossedBounds least.seconds greatest.seconds)
  let endAfterTearDown ← valueOf env "TEARDOWN_SHORT_CIRCUIT" false readSwitch
  let listenAt ← valueOf env "METRICS_ADDR" standardEndpoint readEndpoint
  pure
    { nodeName, workers, addressWait
      metadataUrl := (env "METADATA_URL").getD standardMetadataUrl
      leastBackoff := least
      greatestBackoff := greatest
      endAfterTearDown, listenAt
      ipProgram := (env "IP_BINARY").getD "ip" }

/-- What the passes over interfaces need of the configuration. -/
def settings (c : Config) : Settings :=
  { nodeName := c.nodeName
    addressWait := c.addressWait
    endAfterTearDown := c.endAfterTearDown }

/-- The waits after failures. -/
def backoff (c : Config) : Backoff := .between c.leastBackoff c.greatestBackoff

end Config

end LinkKeeper
