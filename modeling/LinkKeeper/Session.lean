import LinkKeeper.Probe
import LinkKeeper.Reconcile.World
import LinkKeeper.Schedule.Policy
import LinkKeeper.Watch.FanOut

/-!
The keeper at work: passes over the objects that it is handed, and the changes that it is told of.

* `Session.pass`: a pass over an object, with what follows it.
* `Session.failed`: the report of a failure by itself.
* `Session.observe`, `Session.fanOut`: an event of the watch, and the passes that a change asks for.
-/

namespace LinkKeeper

/-- All that the keeper works on. -/
structure Session where
  settings : Settings
  world : World
  attempts : Attempts
  snapshots : Snapshots
  readiness : Readiness

namespace Session

/-- The keeper before its first pass. -/
def start (settings : Settings) (backoff : Backoff) (world : World) : Session :=
  ⟨settings, world, .fresh backoff, .empty, .fresh⟩

/-- Runs a pass over the interface with the key, and counts nothing. -/
def reconcile (s : Session) (key : ObjectKey) : Except KeeperError Outcome × Session :=
  let (result, world) := s.world.reconcile s.settings key
  (result, { s with world })

/-- Runs a pass over an object; for one without a name there is nothing to run. -/
def attempt (s : Session) (object : NetworkInterface) : Except KeeperError Outcome × Session :=
  match object.key? with
  | none => (.error (.store (.unnamed interfaceKind)), s)
  | some key => s.reconcile key

/-- Runs a pass over an object that takes some time, and tells what follows. -/
def pass (s : Session) (object : NetworkInterface) (elapsed : Duration) :
    Except KeeperError Outcome × Action × Session :=
  let (result, s) := s.attempt object
  let (action, attempts) := s.attempts.settle object.key? result elapsed
  (result, action, { s with attempts })

/-- Reports the failure of a pass over an object. -/
def failed (s : Session) (object : NetworkInterface) (error : KeeperError) : Action × Session :=
  let (action, attempts) := s.attempts.onError object.key? error
  (action, { s with attempts })

/-- Hands a change of a network on, and tells the passes that it asks for. -/
def fanOut (s : Session) (change : NetworkChange) : List String × Session :=
  let (requests, store, metrics) := FanOut.handle change s.world.store s.attempts.metrics
  (requests, { s with world.store := store, attempts.metrics := metrics })

/-- Takes an event of the watch in and hands the change on, if there is one. -/
def observe (s : Session) (event : WatchEvent) : Option (NetworkChange × List String) × Session :=
  let (change, snapshots) := s.snapshots.observe event
  let s := { s with snapshots }
  match change with
  | none => (none, s)
  | some change =>
    let (requests, s) := s.fanOut change
    (some (change, requests), s)

end Session

end LinkKeeper
