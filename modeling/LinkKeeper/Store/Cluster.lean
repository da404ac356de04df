import LinkKeeper.Http.Response
import LinkKeeper.Http.Target
import LinkKeeper.Json.Parser
import LinkKeeper.Program
import LinkKeeper.Resource.PrivateNetwork
import LinkKeeper.Store.Error
import LinkKeeper.Text.Quoted

/-!
The store of objects behind the API of a cluster.

Every operation is one request and the reading of its response. A write carries the version that its
writer has seen, so the cluster refuses it when the object has been written since.

* `ClusterStore.getInterface`, `ClusterStore.getNetwork`, `ClusterStore.list`: the reads.
* `ClusterStore.update`, `ClusterStore.updateStatus`: the two kinds of writes.
* `Refusal.ofResponse`: what a refused request is told.
* `ClusterServer`: a server whose responses are written down beforehand.
-/

namespace LinkKeeper

open Json

/-- How a request acts on an object. -/
inductive ApiMethod where
  | get
  | put
  | patch
  deriving DecidableEq, Repr

def ApiMethod.name : ApiMethod → String
  | get => "GET"
  | put => "PUT"
  | patch => "PATCH"

/-- A request to the API. -/
structure ApiRequest where
  method : ApiMethod
  target : Http.Target
  contentType : Option String
  body : Option Json

/-- A program over requests, each answered by a response unless the connection fails. -/
abbrev ApiProgram := Program ApiRequest fun _ => Option Http.Response

/-- What the cluster tells of a request that it refuses. -/
structure Refusal where
  code : Nat
  reason : String
  explanation : String
  deriving DecidableEq, Repr

namespace Refusal

/-- The reason that stands for one that cannot be read. -/
def unreadable : String := "Failed to parse error data"

def fromJson? : Decoder Refusal := fun j => do
  let f ← record? ["status", "message", "reason", "code"] j
  let _ ← f.required "status" text?
  let explanation ← f.defaulted "message" "" text?
  let reason ← f.defaulted "reason" "" text?
  some ⟨← f.required "code" (nat? 65535), reason, explanation⟩

/-- What is told in the body of a refused request, or the body itself between quotes. -/
def ofResponse (r : Http.Response) : Refusal :=
  match Json.parse? r.body >>= fromJson? with
  | some refusal => refusal
  | none => ⟨r.status, unreadable, Text.Quoted.encode r.body⟩

def fault (r : Refusal) : ApiFault := .refused r.code r.reason r.explanation

/-- What a refusal is for an operation on a named object. -/
def error (kind name : String) (r : Refusal) : StoreError :=
  if r.code = 409 then .conflict kind name
  else if r.code = 404 then .notFound kind name
  else .api r.fault

end Refusal

namespace ClusterStore

/-- Where the objects of this program are found. -/
def root : String := "/apis/" ++ apiVersion ++ "/"

/-- The path of the interfaces. -/
def interfacesPath : String := root ++ "networkinterfaces"

/-- The path of the networks. -/
def networksPath : String := root ++ "privatenetworks"

/-- The target of a part of the object with a name, if there is one. The name is taken as it is, so
one with a question mark in it begins the query. -/
def objectTarget? (collection name part : String) : Option Http.Target :=
  if name = "" then none else Http.Target.read? (collection ++ "/" ++ name ++ part).toList

/-- What a response holds. -/
inductive Reply (α : Type) where
  | value (a : α)
  | refused (r : Refusal)
  | fault (f : ApiFault)

/-- Reads a response. -/
def read {α : Type} (decode : Decoder α) : Option Http.Response → Reply α
  | none => .fault .noReply
  | some r =>
    if Http.isRefusal r.status then .refused (.ofResponse r)
    else
      match Json.parse? r.body >>= decode with
      | some a => .value a
      | none => .fault .undecodable

/-- Sends a request and reads the response. -/
def send {α : Type} (decode : Decoder α) (request : ApiRequest) : ApiProgram (Reply α) :=
  .ask request fun response => .done (read decode response)

/-- Reads the object with a name; the refusal that gives its absence as the reason is no error. -/
def get {α : Type} (kind collection : String) (decode : Decoder α) (name : String) :
    ApiProgram (Except StoreError (Option α)) :=
  match objectTarget? collection name "" with
  | none => .done (.error (.api .badRequest))
  | some target =>
    (send decode ⟨.get, target, none, none⟩).bind fun
      | .value a => .done (.ok (some a))
      | .refused r => .done (if r.reason = "NotFound" then .ok none else .error (r.error kind name))
      | .fault f => .done (.error (.api f))

/-- Reads the interface with a name. -/
def getInterface (name : String) : ApiProgram (Except StoreError (Option NetworkInterface)) :=
  get interfaceKind interfacesPath NetworkInterface.fromJson? name

/-- Reads the network with a name. -/
def getNetwork (name : String) : ApiProgram (Except StoreError (Option PrivateNetwork)) :=
  get networkKind networksPath PrivateNetwork.fromJson? name

/-- Writes a part of an interface by the request for a target. -/
def write (nic : NetworkInterface) (part : String) (request : Http.Target → ApiRequest) :
    ApiProgram (Except StoreError NetworkInterface) :=
  match nic.metadata.name with
  | none => .done (.error (.unnamed interfaceKind))
  | some name =>
    match objectTarget? interfacesPath name part with
    | none => .done (.error (.api .badRequest))
    | some target =>
      (send NetworkInterface.fromJson? (request target)).bind fun
        | .value a => .done (.ok a)
        | .refused r => .done (.error (r.error interfaceKind name))
        | .fault f => .done (.error (.api f))

/-- Writes all of an interface but its status. The target of a write ends in a query, which is empty
unless the name has begun it. -/
def update (nic : NetworkInterface) : ApiProgram (Except StoreError NetworkInterface) :=
  write nic "?" fun target => ⟨.put, target, some "application/json", some nic.toJson⟩

/-- What is written of a status: it, and the version that it belongs to. -/
def statusPatch (nic : NetworkInterface) : Json :=
  .object
    [("metadata", .object [("resourceVersion", ofText? nic.metadata.resourceVersion)]),
      ("status", (nic.status.map NetworkInterface.statusToJson).getD .null)]

/-- Writes the status of an interface only. -/
def updateStatus (nic : NetworkInterface) : ApiProgram (Except StoreError NetworkInterface) :=
  write nic "/status?" fun target =>
    ⟨.patch, target, some "application/merge-patch+json", some (statusPatch nic)⟩

/-- Reads the metadata of a list; it is not used, but it has to be there in the right form. -/
def listMetaFromJson? : Decoder Unit := fun j => do
  let ms ← members? j
  let _ ← lastOf ms "continue" text?
  let _ ← lastOf ms "remainingItemCount" int64?
  let _ ← lastOf ms "resourceVersion" text?
  let _ ← lastOf ms "selfLink" text?
  some ()

/-- Reads a list of interfaces. -/
def listFromJson? : Decoder (List NetworkInterface) := fun j => do
  let ms ← members? j
  let f ← record? ["metadata", "items"] j
  let _ ← f.defaulted "metadata" () listMetaFromJson?
  -- The members that are not used are looked at all the same.
  let others := ms.filter fun m => m.1 ≠ "metadata" && m.1 ≠ "items"
  let _ ← others.mapM fun m => anyJson? 1 m.2
  let items ← f.required "items" (nullable (list? (NetworkInterface.fromJsonWithin? 2)))
  some (items.getD [])

/-- Lists the interfaces that a selector asks for. -/
def list (selector : String) : ApiProgram (Except StoreError (List NetworkInterface)) :=
  (send listFromJson? ⟨.get, ⟨interfacesPath, [("labelSelector", selector)]⟩, none, none⟩).bind fun
    | .value l => .done (.ok l)
    | .refused r => .done (.error (.api r.fault))
    | .fault f => .done (.error (.api f))

end ClusterStore

/-- The responses that a server gives from now on, and the requests so far, oldest first. When no
response is left, the connection fails. -/
structure ClusterServer where
  responses : List Http.Response
  requests : List ApiRequest

namespace ClusterServer

/-- Gives the next response. -/
def answer (request : ApiRequest) (s : ClusterServer) : Option Http.Response × ClusterServer :=
  (s.responses.head?, ⟨s.responses.tail, s.requests ++ [request]⟩)

/-- Runs an operation against the server. -/
def serve {α : Type} (s : ClusterServer) (p : ApiProgram α) : α × ClusterServer :=
  Program.run (fun request s => answer request s) p s

end ClusterServer

end LinkKeeper
