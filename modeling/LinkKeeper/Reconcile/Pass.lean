import LinkKeeper.Program
import LinkKeeper.Reconcile.Plan

/-!
A pass over one interface.

A pass reads the interface, decides what to do and does it step by step, each step by calls to the
three collaborators: the store of the objects, the links of the host and the metadata service of the
machine. It is a program over these calls, so it says nothing about how they are answered; other
writers may work on the store between any two of them.

* `Call`, `Call.Answer`: the calls and their answers.
* `Pass.reconcile`: the pass.
-/

namespace LinkKeeper

open Net

/-- A call of a pass to one of its collaborators. -/
inductive Call where
  | readInterface (name : String)
  /-- Writes all of the object but its status. -/
  | writeInterface (nic : NetworkInterface)
  /-- Writes the status of the object only. -/
  | writeStatus (nic : NetworkInterface)
  | readNetwork (name : String)
  | readMetadata
  | tearDownLink (mac : String) (address : Network)
  | linkName (mac : String)
  | configureLink (mac : String) (address : Network)
  | syncRoutes (mac : String) (routes : List Route)

/-- What a call is answered with. -/
abbrev Call.Answer : Call → Type
  | readInterface _ => Except StoreError (Option NetworkInterface)
  | writeInterface _ => Except StoreError NetworkInterface
  | writeStatus _ => Except StoreError NetworkInterface
  | readNetwork _ => Except StoreError (Option PrivateNetwork)
  | readMetadata => Except MetadataError InstanceDocument
  | tearDownLink _ _ => Except LinkError Unit
  | linkName _ => Except LinkError String
  | configureLink _ _ => Except LinkError Unit
  | syncRoutes _ _ => Except LinkError Unit

/-- How a pass that has not failed ends. -/
inductive Outcome where
  /-- Nothing is left to do until something changes. -/
  | done
  /-- The pass is to be run again after a while. -/
  | requeueAfter (delay : Duration)
  deriving DecidableEq, Repr

/-- A program over the calls that may fail. -/
abbrev PassProgram := ExceptT KeeperError (Program Call Call.Answer)

/-- What the steps of a pass hand on: the newest copy of the interface, and whether this pass has
taken its finalizer off. -/
structure PassState where
  nic : NetworkInterface
  released : Bool

namespace Pass

/-- Makes a call whose failure is an error of the pass. -/
def call {ε α : Type} (wrap : ε → KeeperError) (program : Program Call Call.Answer (Except ε α)) :
    PassProgram α :=
  ExceptT.mk (program.bind fun answer => .done (answer.mapError wrap))

def readInterface (name : String) : PassProgram (Option NetworkInterface) :=
  call .store (Program.query (A := Call.Answer) (.readInterface name))

def writeInterface (nic : NetworkInterface) : PassProgram NetworkInterface :=
  call .store (Program.query (A := Call.Answer) (.writeInterface nic))

def writeStatus (nic : NetworkInterface) : PassProgram NetworkInterface :=
  call .store (Program.query (A := Call.Answer) (.writeStatus nic))

def readNetwork (name : String) : PassProgram (Option PrivateNetwork) :=
  call .store (Program.query (A := Call.Answer) (.readNetwork name))

def readMetadata : PassProgram InstanceDocument :=
  call .metadata (Program.query (A := Call.Answer) .readMetadata)

def tearDownLink (mac : String) (address : Network) : PassProgram Unit :=
  call .link (Program.query (A := Call.Answer) (.tearDownLink mac address))

def linkName (mac : String) : PassProgram String :=
  call .link (Program.query (A := Call.Answer) (.linkName mac))

def configureLink (mac : String) (address : Network) : PassProgram Unit :=
  call .link (Program.query (A := Call.Answer) (.configureLink mac address))

def syncRoutes (mac : String) (routes : List Route) : PassProgram Unit :=
  call .link (Program.query (A := Call.Answer) (.syncRoutes mac routes))

/-- Takes the finalizer off the interface; the pass goes on with the copy that was written. -/
def release (s : PassState) : PassProgram PassState := do
  let written ← writeInterface s.nic.withoutFinalizer
  pure ⟨written, true⟩

/-- Fails unless the hardware address is attached to the machine. -/
def verifyAttached (mac : String) : PassProgram Unit := do
  let document ← readMetadata
  if document.hasInterface mac then pure () else throw (.notAttached mac)

/-- Records the name of the link. The write is left out when the name is recorded already, but not
after the finalizer has been taken off: then it makes sure that the object is still there. -/
def recordLinkName (mac : String) (s : PassState) : PassProgram PassState := do
  let name ← linkName mac
  if !s.released && s.nic.linkName? = some name then pure s
  else
    let written ← writeStatus (s.nic.withLinkName name)
    pure { s with nic := written }

/-- Gives the link the routes of the network that the interface belongs to. -/
def syncNetworkRoutes (key : ObjectKey) (mac : String) (nic : NetworkInterface) : PassProgram Unit := do
  match nic.ownerNetwork? with
  | none => throw (.noOwner key.name)
  | some networkName =>
    match ← readNetwork networkName with
    | none => throw (.noNetwork networkName)
    | some network =>
      match desiredRoutes network with
      | .error e => throw e
      | .ok routes => syncRoutes mac routes

/-- Does one step. -/
def step (key : ObjectKey) (mac : String) (address : Network) (s : PassState) :
    Step → PassProgram PassState
  | .tearDownLink => do tearDownLink mac address; pure s
  | .releaseFinalizer => release s
  | .verifyAttached => do verifyAttached mac; pure s
  | .recordLinkName => recordLinkName mac s
  | .configureLink => do configureLink mac address; pure s
  | .syncRoutes => do syncNetworkRoutes key mac s.nic; pure s

/-- Does the steps in order. -/
def steps (key : ObjectKey) (mac : String) (address : Network) :
    PassState → List Step → PassProgram PassState
  | s, [] => pure s
  | s, first :: rest => do
    let s ← step key mac address s first
    steps key mac address s rest

/-- One pass over the interface with the key. -/
def reconcile (settings : Settings) (key : ObjectKey) : PassProgram Outcome := do
  match ← readInterface key.name with
  | none => pure .done
  | some nic =>
    match Phase.of settings nic with
    | .error e => throw e
    | .ok .foreign => pure .done
    | .ok .awaitingAddress => pure (.requeueAfter settings.addressWait)
    | .ok (.active plan) =>
      let _ ← steps key plan.macAddress plan.address ⟨nic, false⟩ plan.steps
      pure .done

end Pass

end LinkKeeper
