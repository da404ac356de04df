import LinkKeeper.Probe
import LinkKeeper.Store.Cluster
import LinkKeeper.Watch.FanOut

/-!
A watch of the networks over an interface that lists and watches, and the passes that it triggers.

The watch begins with a list. From a list on it asks for what has changed since, again and again,
until it is told that the server no longer knows; then it lists anew. A request that fails is asked
again.

* `Watcher.receive`: the events that a reply amounts to, and the next request.
* `Triggers.run`: the passes that are triggered while a server gives its replies.
-/

namespace LinkKeeper

open Json

/-- The two requests of a watch. -/
inductive WatchRequest where
  | list
  | watch
  deriving DecidableEq, Repr

def WatchRequest.title : WatchRequest → String
  | list => "list"
  | watch => "watch"

/-- One line of the reply to a request for changes. -/
inductive WatchLine where
  | changed (network : PrivateNetwork)
  | removed (network : PrivateNetwork)
  /-- The server is still there, and nothing has changed. -/
  | bookmark
  /-- The server no longer knows what has changed since, and tells no more. -/
  | expired
  /-- The line is no change. -/
  | unreadable

/-- The reply to a request. -/
inductive WatchReply where
  | listed (networks : List PrivateNetwork)
  | changes (lines : List WatchLine)
  /-- There is no usable reply. -/
  | failed

namespace WatchLine

/-- The type of a change: a text, or the name of the only member of an object, which is null. -/
def type? : Decoder String
  | .text name => some name
  | .object [(name, .null)] => some name
  | _ => none

/-- What a server is told to be wrong: that it no longer knows, or something else. -/
def ofRefusal (r : Refusal) : WatchLine :=
  if r.code = 410 then .expired else .unreadable

/-- Reads a line that is a change: its type and the network as it is after it. -/
def fromJson? : Decoder WatchLine := fun j => do
  let f ← record? ["type", "object"] j
  match ← f.required "type" type? with
  | "ADDED" | "MODIFIED" => (f.required "object" PrivateNetwork.fromJson?).map .changed
  | "DELETED" => (f.required "object" PrivateNetwork.fromJson?).map .removed
  | "BOOKMARK" => some .bookmark
  | "ERROR" => (f.required "object" Refusal.fromJson?).map ofRefusal
  | _ => none

/-- Reads a line. -/
def fromJson (j : Json) : WatchLine := (fromJson? j).getD .unreadable

end WatchLine

namespace Watcher

/-- Whether a network carries a version; without one the watch cannot go on from it. -/
def isVersioned (network : PrivateNetwork) : Bool :=
  network.metadata.resourceVersion.any (· ≠ "")

/-- The events of the lines, where nothing stands for an error, and the next request. -/
def receiveLines : List WatchLine → List (Option WatchEvent) × WatchRequest
  | [] => ([], .watch)
  | .changed network :: rest =>
    if isVersioned network then (receiveLines rest).map (some (.apply network) :: ·) id
    else ([none], .list)
  | .removed network :: rest =>
    if isVersioned network then (receiveLines rest).map (some (.delete network) :: ·) id
    else ([none], .list)
  | .bookmark :: rest => receiveLines rest
  | .expired :: _ => ([none], .list)
  | .unreadable :: rest => (receiveLines rest).map (none :: ·) id

/-- The events that the reply to a request amounts to, where nothing stands for an error, and the
next request. -/
def receive : WatchRequest → WatchReply → List (Option WatchEvent) × WatchRequest
  | .list, .listed networks =>
    (some .init :: networks.map (fun n => some (.initApply n)) ++ [some .initDone], .watch)
  | .watch, .changes lines => receiveLines lines
  | .list, _ => ([some .init, none], .list)
  | .watch, _ => ([none], .watch)

/-- The events of all replies, and the requests that they answer. -/
def run : WatchRequest → List WatchReply → List (Option WatchEvent) × List WatchRequest
  | _, [] => ([], [])
  | request, reply :: rest =>
    let (events, next) := receive request reply
    let (later, requests) := run next rest
    (events ++ later, request :: requests)

end Watcher

/-- What a watch of the networks works on. -/
structure Triggers where
  snapshots : Snapshots
  readiness : Readiness
  store : MemoryStore
  metrics : Metrics

namespace Triggers

/-- Takes an event in, and gives the passes that it triggers. The networks are known once a list is
complete; an error changes nothing. -/
def step (t : Triggers) : Option WatchEvent → List String × Triggers
  | none => ([], t)
  | some event =>
    let readiness := match event with
      | .initDone => t.readiness.markNetworks
      | _ => t.readiness
    let (change, snapshots) := t.snapshots.observe event
    match change with
    | none => ([], { t with readiness, snapshots })
    | some change =>
      let (requests, store, metrics) := FanOut.handle change t.store t.metrics
      (requests, ⟨snapshots, readiness, store, metrics⟩)

/-- Takes events in one after the other. -/
def steps (t : Triggers) : List (Option WatchEvent) → List String × Triggers
  | [] => ([], t)
  | event :: rest =>
    let (first, t) := t.step event
    let (later, t) := t.steps rest
    (first ++ later, t)

/-- Watches a server that gives these replies: the passes that are triggered, the requests that were
answered, and what is left behind. -/
def run (t : Triggers) (replies : List WatchReply) : List String × List WatchRequest × Triggers :=
  let (events, requests) := Watcher.run .list replies
  let (passes, t) := t.steps events
  (passes, requests, t)

end Triggers

end LinkKeeper
