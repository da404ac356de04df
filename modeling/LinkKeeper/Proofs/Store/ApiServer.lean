import LinkKeeper.Proofs.Store.Requests
import LinkKeeper.Store.Memory

/-!
What is assumed of a server of the API, and what its clients read from its replies.

A server holds documents. A write carries the version that its writer has seen and is refused at any other one; it
takes the metadata and what is declared from the body, or merges a patch into the status, and gives the object a
version that it did not have. Replies may hold more than is told here, and members in any order.

* `ApiServer`, `ApiServer.Lawful`: servers, and what is assumed of them.
* `ApiWrite.Makes`: what a write makes of a stored document.
* `ApiServer.read_value`, `ApiServer.read_refused`: how replies are read.
* `ApiWrite.Makes.replaced`, `ApiWrite.Makes.patched`: how the written object is read.
-/

namespace LinkKeeper

open Json

/-- A server of the API: what it answers, and the documents that it holds under the paths of objects. -/
structure ApiServer (σ : Type) where
  answer : ApiRequest → σ → Option Http.Response × σ
  document : σ → String → Option Json

namespace Json

/-- The version in the metadata of a document. -/
def version? (j : Json) : Option String :=
  (under "metadata" j.members).head?.bind fun metadata =>
    (lastOf metadata.members "resourceVersion" text?).join

/-- Whether nothing keeps an object with this metadata: it is to be deleted, and there are no finalizers. -/
def isReleased (metadata : Json) : Bool :=
  (under "deletionTimestamp" metadata.members).any (!·.isNull) &&
    !(under "finalizers" metadata.members).any fun
      | .array items => !items.isEmpty
      | _ => false

end Json

namespace Http.Response

/-- The response tells of success and carries a document. -/
structure Carries (r : Response) (d : Json) : Prop where
  success : isSuccess r.status = true
  body : Json.parse? r.body = some d

/-- The response refuses a request and gives a reason. -/
structure Refuses (r : Response) (code : Nat) (reason : String) : Prop where
  status : r.status = code
  body : ∃ explanation, (Json.parse? r.body).bind Refusal.fromJson? = some ⟨code, reason, explanation⟩

end Http.Response

/-- A write of an object: a document in the place of all but its status, or a patch of its status. -/
inductive ApiWrite where
  | replace (body : Json)
  | patchStatus (patch : Json)

namespace ApiWrite

def body : ApiWrite → Json
  | replace body => body
  | patchStatus patch => patch

/-- The request for the object at a path. -/
def request (path : String) : ApiWrite → ApiRequest
  | replace body => .replace path body
  | patchStatus patch => .patchStatus path patch

/-- The document that the metadata and what is declared are taken from. -/
def base (stored : Json) : ApiWrite → Json
  | replace body => body
  | patchStatus _ => stored

/-- The status after the write. -/
def status (stored : Json) : ApiWrite → List Json
  | replace _ => under "status" stored.members
  | patchStatus patch => under "status" (mergePatch stored patch).members

/-- Whether an object goes by a write that leaves it with this metadata. One of the status leaves the finalizers as
they are, and so the object too. -/
def removes (metadata : Json) : ApiWrite → Bool
  | replace _ => isReleased metadata
  | patchStatus _ => false

/-- The write can be sent, and there is metadata to take. -/
structure Proper (w : ApiWrite) (stored : Json) : Prop where
  text : w.body.Printable
  metadata : ∃ old, under "metadata" (w.base stored).members = [.object old]

/-- What the write makes of a stored document. -/
structure Makes (w : ApiWrite) (stored new : Json) : Prop where
  object : ∃ members, new = .object members
  metadata : ∃ old now version, under "metadata" (w.base stored).members = [.object old] ∧
    under "metadata" new.members = [.object now] ∧ under "resourceVersion" now = [.text version] ∧
      stored.version? ≠ some version ∧ ∀ name, name ≠ "resourceVersion" → under name now = under name old
  spec : under "spec" new.members = under "spec" (w.base stored).members
  status : under "status" new.members = w.status stored

end ApiWrite

namespace ApiServer

variable {σ : Type}

/-- The reply to a request, and the documents after it. -/
def Gives (server : ApiServer σ) (request : ApiRequest) (s : σ) (reply : Http.Response)
    (documents : String → Option Json) : Prop :=
  ∃ t, server.answer request s = (some reply, t) ∧ server.document t = documents

/-- The documents with another one, or none, at a path. -/
def placed (documents : String → Option Json) (path : String) (now : Option Json) : String → Option Json :=
  fun other => if other = path then now else documents other

@[simp] theorem placed_self (documents : String → Option Json) (path : String) (now : Option Json) :
    placed documents path now path = now := if_pos rfl

theorem placed_of_ne (documents : String → Option Json) {path other : String} (apart : other ≠ path)
    (now : Option Json) : placed documents path now other = documents other := if_neg apart

/-- What is assumed of a server. -/
structure Lawful (server : ApiServer σ) : Prop where
  /-- It holds objects only. -/
  object : ∀ {s path d}, server.document s path = some d → ∃ members, d = .object members
  read_found : ∀ {s path d}, server.document s path = some d →
    ∃ r : Http.Response, r.Carries d ∧ server.Gives (.read path) s r (server.document s)
  read_absent : ∀ {s path}, server.document s path = none →
    ∃ r : Http.Response, r.Refuses 404 "NotFound" ∧ server.Gives (.read path) s r (server.document s)
  write_absent : ∀ {s path}, server.document s path = none → ∀ w : ApiWrite,
    ∃ r : Http.Response, r.Refuses 404 "NotFound" ∧ server.Gives (w.request path) s r (server.document s)
  write_stale : ∀ {s path d}, server.document s path = some d → ∀ w : ApiWrite, w.body.version? ≠ d.version? →
    ∃ r : Http.Response, r.Refuses 409 "Conflict" ∧ server.Gives (w.request path) s r (server.document s)
  write_current : ∀ {s path d}, server.document s path = some d → ∀ w : ApiWrite, w.Proper d →
    w.body.version? = d.version? →
      ∃ (r : Http.Response) (new : Json), r.Carries new ∧ w.Makes d new ∧
        server.Gives (w.request path) s r
          (placed (server.document s) path
            (if (under "metadata" new.members).any w.removes then none else some new))

end ApiServer

/-! ### Reading replies -/

namespace ClusterStore

variable {α : Type} {decode : Decoder α} {r : Http.Response} {d : Json} {name : String}

theorem read_value {a : α} (carries : r.Carries d) (reads : decode d = some a) : read decode (some r) = .value a := by
  obtain ⟨success, body⟩ := carries
  have accepted : Http.isRefusal r.status = false := by
    simp only [Http.isSuccess, Bool.and_eq_true, decide_eq_true_eq] at success
    simp only [Http.isRefusal, Bool.and_eq_false_iff, decide_eq_false_iff_not]
    omega
  simp [read, accepted, body, reads]

theorem read_refused (decode : Decoder α) {code : Nat} {reason : String} (refuses : r.Refuses code reason)
    (failure : Http.isRefusal code = true) :
    ∃ explanation, read decode (some r) = .refused ⟨code, reason, explanation⟩ := by
  obtain ⟨rfl, explanation, told⟩ := refuses
  refine ⟨explanation, ?_⟩
  have refusal : Refusal.ofResponse r = ⟨r.status, reason, explanation⟩ := by
    unfold Refusal.ofResponse
    rw [Option.bind_eq_bind, told]
  simp [read, failure, refusal]

/-- An object that is not there is none. -/
theorem fetched_absent (kind : String) (refuses : r.Refuses 404 "NotFound") :
    fetched kind name (read decode (some r)) = .ok none := by
  obtain ⟨explanation, refused⟩ := read_refused decode refuses (by decide)
  rw [refused]
  rfl

/-- An object that is not there cannot be written. -/
theorem written_absent (refuses : r.Refuses 404 "NotFound") :
    written name (read NetworkInterface.fromJson? (some r)) = .error (.notFound interfaceKind name) := by
  obtain ⟨explanation, refused⟩ := read_refused NetworkInterface.fromJson? refuses (by decide)
  rw [refused]
  rfl

end ClusterStore

/-! ### Versions of documents -/

namespace NetworkInterface

variable {members : List (String × Json)} {nic : NetworkInterface}

theorem Read.version? (read : Read 0 members nic) : (Json.object members).version? = nic.metadata.resourceVersion := by
  obtain ⟨metadata, stands, readMetadata⟩ := read.metadata
  obtain ⟨fields, rfl, readFields⟩ := ObjectMeta.exists_of_fromJson? readMetadata
  have version := readFields.resourceVersion
  simp [Json.version?, Json.members, stands, version]

theorem version?_toJson (nic : NetworkInterface) : nic.toJson.version? = nic.metadata.resourceVersion := by
  have version : lastOf (written nic.metadata.given) "resourceVersion" text? = some nic.metadata.resourceVersion :=
    lastOf_written nic.metadata.distinct_given (by simp [ObjectMeta.given]) fun s _ =>
      (rfl : nullable text? (.text s) = some (some s))
  rw [toJson_eq]
  simp [Json.version?, Json.members, under_metadata_written, ObjectMeta.toJson_eq, version]

theorem version?_statusPatch (nic : NetworkInterface) :
    (ClusterStore.statusPatch nic).version? = nic.metadata.resourceVersion := by
  have stands : under "metadata" (ClusterStore.statusPatch nic).members =
      [.object [("resourceVersion", ofText? nic.metadata.resourceVersion)]] := rfl
  unfold Json.version?
  rw [stands]
  cases nic.metadata.resourceVersion <;> rfl

end NetworkInterface

/-! ### Reading what has been written -/

namespace NetworkInterface

variable {members : List (String × Json)} {nic : NetworkInterface}

/-- The status that a document holds, or null. -/
theorem Read.status_held (read : Read 0 members nic) :
    nullable statusFromJson? ((members.lookup "status").getD .null) = some nic.status := by
  have once := read.statusOnce
  rw [lookup_eq]
  cases stands : under "status" members with
  | nil => exact (lastOf_of_none stands).symm.trans read.status
  | cons j rest =>
      cases rest with
      | nil => exact (lastOf_of_single stands).symm.trans read.status
      | cons k rest => simp [stands] at once

/-- What a patch of the status leaves under its name. -/
theorem under_status_patched (nic : NetworkInterface) (members : List (String × Json)) (link : String) :
    (ApiWrite.patchStatus (ClusterStore.statusPatch (nic.withLinkName link))).status (.object members) =
      [mergePatch ((members.lookup "status").getD .null)
        (statusToJson ⟨nic.status.bind InterfaceStatus.macAddress, some link⟩)] := by
  have patch : ClusterStore.statusPatch (nic.withLinkName link) = .object
      [("metadata", .object [("resourceVersion", ofText? nic.metadata.resourceVersion)]),
        ("status", statusToJson ⟨nic.status.bind InterfaceStatus.macAddress, some link⟩)] := by
    unfold ClusterStore.statusPatch
    rw [status_withLinkName]
    rfl
  show under "status" (mergePatch (.object members) (ClusterStore.statusPatch (nic.withLinkName link))).members = _
  rw [patch]
  generalize Json.object [("resourceVersion", ofText? nic.metadata.resourceVersion)] = metadata
  have distinct : (([("metadata", metadata), ("status", statusToJson ⟨nic.status.bind InterfaceStatus.macAddress,
      some link⟩)] : List (String × Json)).map Prod.fst).Nodup := (by decide : ["metadata", "status"].Nodup)
  exact under_mergeMembers distinct members "status"

end NetworkInterface

namespace ApiWrite

variable {members : List (String × Json)} {nic stored : NetworkInterface} {new : Json}

/-- The metadata that a write takes is read at the new version. -/
theorem Makes.readMetadata {w : ApiWrite} {before : Json} {m : ObjectMeta} (makes : w.Makes before new)
    (base : ∃ old, under "metadata" (w.base before).members = [.object old] ∧ ObjectMeta.Read 1 old m) :
    ∃ now version, under "metadata" new.members = [now] ∧ before.version? ≠ some version ∧
      ObjectMeta.fromJson? 1 now = some (m.atVersion version) := by
  obtain ⟨old, taken, read⟩ := base
  obtain ⟨same, now, version, takenToo, stands, own, fresh, others⟩ := makes.metadata
  obtain rfl : old = same := by simpa [takenToo] using taken.symm
  exact ⟨_, version, stands, fresh, ObjectMeta.fromJson?_object_iff.mpr (read.atVersion own others)⟩

/-- An interface that has been put in the place of another is read with the status that was stored, and with the
metadata that is read of what was sent. -/
theorem Makes.replaced {kept : ObjectMeta} (makes : (ApiWrite.replace nic.toJson).Makes (.object members) new)
    (read : NetworkInterface.Read 0 members stored) (sent : ObjectMeta.fromJson? 1 nic.metadata.toJson = some kept) :
    ∃ version, NetworkInterface.fromJson? new = some ⟨kept.atVersion version, nic.spec, stored.status⟩ := by
  obtain ⟨fields, rfl⟩ := makes.object
  obtain ⟨now, version, stands, -, readMetadata⟩ := makes.readMetadata
    ⟨_, nic.under_metadata_written, ObjectMeta.fromJson?_object_iff.mp sent⟩
  have spec : under "spec" fields = [NetworkInterface.specToJson nic.spec] :=
    makes.spec.trans nic.under_spec_written
  have status : under "status" fields = under "status" members := makes.status
  refine ⟨version, NetworkInterface.fromJson?_object_iff.mpr ⟨⟨now, stands, readMetadata⟩, ⟨_, spec, rfl⟩, ?_, ?_⟩⟩
  · rw [status]
    exact read.statusOnce
  · exact (lastOf_congr status).trans read.status

/-- An interface whose status has been patched is read with the name of its link. -/
theorem Makes.patched {link : String}
    (makes : (ApiWrite.patchStatus (ClusterStore.statusPatch (stored.withLinkName link))).Makes (.object members) new)
    (read : NetworkInterface.Read 0 members stored) :
    ∃ version, NetworkInterface.fromJson? new =
      some ⟨stored.metadata.atVersion version, stored.spec, (stored.withLinkName link).status⟩ := by
  obtain ⟨fields, rfl⟩ := makes.object
  obtain ⟨metadata, standing, readStored⟩ := read.metadata
  obtain ⟨old, rfl, readOld⟩ := ObjectMeta.exists_of_fromJson? readStored
  obtain ⟨now, version, stands, -, readMetadata⟩ := makes.readMetadata ⟨old, standing, readOld⟩
  have spec : under "spec" fields = under "spec" members := makes.spec
  have status := stored.status_withLinkName link
  -- Merging keeps what the patch leaves out, and the patch leaves out only what the copy does not have either.
  have merged := makes.status.trans (stored.under_status_patched members link)
  have patched := NetworkInterface.statusFromJson?_mergePatch read.status_held link
  refine ⟨version, NetworkInterface.fromJson?_object_iff.mpr ⟨⟨now, stands, readMetadata⟩, ?_, ?_, ?_⟩⟩
  · rw [spec]
    exact read.spec
  · exact Nat.le_of_eq (congrArg List.length merged)
  · refine (lastOf_of_single merged).trans ?_
    rw [status]
    exact congrArg (Option.map some) patched

/-! ### Writes that can be sent -/

theorem proper_replace (stored : Json) (sound : nic.metadata.Sound 1) : (replace nic.toJson).Proper stored where
  text := NetworkInterface.printable_toJson sound
  metadata := ⟨_, nic.under_metadata_written⟩

theorem proper_patchStatus (read : NetworkInterface.Read 0 members stored) (nic : NetworkInterface) :
    (patchStatus (ClusterStore.statusPatch nic)).Proper (.object members) where
  text := by
    have version : (ofText? nic.metadata.resourceVersion).Printable := by
      cases nic.metadata.resourceVersion with
      | none => exact .null
      | some version => exact .text version
    have status : ((nic.status.map NetworkInterface.statusToJson).getD .null).Printable := by
      cases nic.status with
      | none => exact .null
      | some s => exact NetworkInterface.printable_statusToJson s
    refine .object ?_
    simp only [List.forall_mem_cons]
    exact ⟨.object (by simpa using version), status, by simp⟩
  metadata := by
    obtain ⟨metadata, stands, readMetadata⟩ := read.metadata
    obtain ⟨fields, rfl, -⟩ := ObjectMeta.exists_of_fromJson? readMetadata
    exact ⟨fields, stands⟩

/-- A written interface goes from the server just when it goes from the store in memory. -/
theorem isReleased_toJson (nic : NetworkInterface) :
    Json.isReleased nic.metadata.toJson = MemoryStore.isReleased nic := by
  have distinct := nic.metadata.distinct_given
  have deleted := under_written distinct (j := nic.metadata.deletionTimestamp.map fun t => .text t.text)
    (by simp [ObjectMeta.given] : ("deletionTimestamp", _) ∈ nic.metadata.given)
  have finalizers := under_written distinct (j := nic.metadata.finalizers.map ofTexts)
    (by simp [ObjectMeta.given] : ("finalizers", _) ∈ nic.metadata.given)
  unfold Json.isReleased MemoryStore.isReleased NetworkInterface.isTerminating ObjectMeta.isTerminating
  rw [ObjectMeta.toJson_eq]
  show ((under "deletionTimestamp" (written nic.metadata.given)).any _ &&
    !(under "finalizers" (written nic.metadata.given)).any _) = _
  rw [deleted, finalizers]
  have left : ((nic.metadata.finalizers.map ofTexts).toList.any fun
      | .array items => !items.isEmpty
      | _ => false) = !(nic.metadata.finalizers.getD []).isEmpty := by
    cases nic.metadata.finalizers with
    | none => rfl
    | some l => cases l <;> rfl
  rw [left, Bool.not_not]
  cases nic.metadata.deletionTimestamp <;> rfl

theorem Makes.removes_replaced (makes : (ApiWrite.replace nic.toJson).Makes (.object members) new) :
    (under "metadata" new.members).any (ApiWrite.replace nic.toJson).removes = MemoryStore.isReleased nic := by
  obtain ⟨old, now, version, taken, stands, -, -, others⟩ := makes.metadata
  have same : nic.metadata.toJson = .object old :=
    (List.cons.inj (nic.under_metadata_written.symm.trans taken)).1
  have kept : Json.isReleased (.object now) = Json.isReleased (.object old) := by
    show ((under "deletionTimestamp" now).any _ && !(under "finalizers" now).any _) =
      ((under "deletionTimestamp" old).any _ && !(under "finalizers" old).any _)
    rw [others "deletionTimestamp" (by decide), others "finalizers" (by decide)]
  rw [stands, ← isReleased_toJson, same, ← kept]
  simp [removes]

end ApiWrite

end LinkKeeper
