import LinkKeeper.Instance.Memory
import LinkKeeper.Link.Recorder
import LinkKeeper.Link.Script
import LinkKeeper.Reconcile.Pass
import LinkKeeper.Store.Memory

/-!
The collaborators of a pass, all in memory, and passes run against them.

* `World.answer`: what the collaborators answer to a call.
* `World.reconcile`: runs a pass.
-/

namespace LinkKeeper

/-- The links that a pass works on: recorded only, or those of a host that answers by a script. -/
inductive WorldLinks where
  | recorded (links : RecordedLinks)
  | scripted (host : ScriptedHost)

namespace WorldLinks

/-- Tears a link down. -/
def tearDown (mac : String) (address : Net.Network) : WorldLinks → Except LinkError Unit × WorldLinks
  | recorded r => (r.perform (.tearDown mac address)).map id recorded
  | scripted h => (h.runLink (Links.tearDown mac address)).map id scripted

/-- Looks up the name of a link. -/
def name (mac : String) : WorldLinks → Except LinkError String × WorldLinks
  | recorded r => (r.name mac).map id recorded
  | scripted h => (h.runLink (Links.name mac)).map id scripted

/-- Gives a link its address. -/
def configure (mac : String) (address : Net.Network) : WorldLinks → Except LinkError Unit × WorldLinks
  | recorded r => (r.perform (.configure mac address)).map id recorded
  | scripted h => (h.runLink (Links.configure mac address)).map id scripted

/-- Gives a link its routes. -/
def syncRoutes (mac : String) (routes : List Route) : WorldLinks → Except LinkError Unit × WorldLinks
  | recorded r => (r.perform (.syncRoutes mac routes)).map id recorded
  | scripted h => (h.runLink (Links.syncRoutes mac routes)).map id scripted

/-- The recorded calls, oldest first. -/
def calls : WorldLinks → List LinkCall
  | recorded r => r.calls
  | scripted _ => []

/-- The lines of the commands, oldest first. -/
def lines : WorldLinks → List String
  | recorded _ => []
  | scripted h => h.lines

/-- Changes the recorded links, if that is what they are. -/
def onRecorded (change : RecordedLinks → RecordedLinks) : WorldLinks → WorldLinks
  | recorded r => recorded (change r)
  | scripted h => scripted h

/-- Changes the script, if there is one. -/
def onScript (change : ScriptedHost → ScriptedHost) : WorldLinks → WorldLinks
  | recorded r => recorded r
  | scripted h => scripted (change h)

end WorldLinks

/-- The store, the links and the metadata service. -/
structure World where
  store : MemoryStore
  links : WorldLinks
  machine : MemoryInstance

namespace World

/-- What the collaborators answer to a call, and what they are like afterwards. -/
def answer : (c : Call) → World → Call.Answer c × World
  | .readInterface name, w => (.ok (w.store.getInterface name), w)
  | .writeInterface nic, w => (w.store.update nic).map id ({ w with store := · })
  | .writeStatus nic, w => (w.store.updateStatus nic).map id ({ w with store := · })
  | .readNetwork name, w => (.ok (w.store.getNetwork name), w)
  | .readMetadata, w => w.machine.fetch.map id ({ w with machine := · })
  | .tearDownLink mac address, w => (w.links.tearDown mac address).map id ({ w with links := · })
  | .linkName mac, w => (w.links.name mac).map id ({ w with links := · })
  | .configureLink mac address, w => (w.links.configure mac address).map id ({ w with links := · })
  | .syncRoutes mac routes, w => (w.links.syncRoutes mac routes).map id ({ w with links := · })

/-- Runs a pass over the interface with the key. -/
def reconcile (w : World) (settings : Settings) (key : ObjectKey) : Except KeeperError Outcome × World :=
  Program.run answer (ExceptT.run (Pass.reconcile settings key)) w

end World

end LinkKeeper
