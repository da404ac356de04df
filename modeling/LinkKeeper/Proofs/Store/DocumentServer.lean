import LinkKeeper.Proofs.Store.ApiServer

/-!
A server of the API that keeps its documents in a table.

It answers as is assumed of a server, so that what is proved of all of them is said of one at least. A new version is
longer than the one before it.

* `HeldDocument`: a document that has a text.
* `DocumentServer`: the server.
* `DocumentServer.lawful`: it is lawful.
-/

namespace LinkKeeper

open Json

/-! ### Writes of documents -/

namespace ApiWrite

/-- The version after another one. -/
def nextVersion (version : Option String) : String := version.getD "" ++ "1"

theorem nextVersion_ne (version : Option String) : version ≠ some (nextVersion version) := by
  cases version with
  | none => nofun
  | some version =>
      intro same
      have length := congrArg String.length (Option.some.inj same)
      simp [nextVersion] at length

/-- The members of the metadata that the write takes. -/
def metadata (stored : Json) (w : ApiWrite) : List (String × Json) :=
  ((under "metadata" (w.base stored).members).head?.getD .null).members

/-- The members of the metadata after the write. -/
def newMetadata (stored : Json) (w : ApiWrite) : List (String × Json) :=
  exchange "resourceVersion" [.text (nextVersion stored.version?)] (w.metadata stored)

/-- The members of the document after the write. -/
def outcome (stored : Json) (w : ApiWrite) : List (String × Json) :=
  exchange "status" (w.status stored)
    (exchange "metadata" [.object (w.newMetadata stored)] (w.base stored).members)

variable {w : ApiWrite} {stored : Json}

theorem under_metadata_outcome : under "metadata" (w.outcome stored) = [.object (w.newMetadata stored)] := by
  unfold outcome
  rw [under_exchange_of_ne (by decide), under_exchange_self]

/-- What the write leaves is what a write makes. -/
theorem makes_outcome (proper : w.Proper stored) : w.Makes stored (.object (w.outcome stored)) where
  object := ⟨_, rfl⟩
  metadata := by
    obtain ⟨old, stands⟩ := proper.metadata
    have taken : w.metadata stored = old := by
      unfold ApiWrite.metadata
      rw [stands]
      rfl
    refine ⟨old, w.newMetadata stored, nextVersion stored.version?, stands, under_metadata_outcome,
      under_exchange_self _ _ _, nextVersion_ne _, fun name apart => ?_⟩
    rw [← taken]
    exact under_exchange_of_ne apart _ _
  spec := by
    unfold outcome
    show under "spec" (exchange _ _ _) = _
    rw [under_exchange_of_ne (by decide), under_exchange_of_ne (by decide)]
  status := under_exchange_self _ _ _

theorem printable_base (printable : stored.Printable) (text : w.body.Printable) : (w.base stored).Printable := by
  cases w with
  | replace body => exact text
  | patchStatus patch => exact printable

theorem printable_status (printable : stored.Printable) (text : w.body.Printable) :
    ∀ j ∈ w.status stored, j.Printable := by
  cases w with
  | replace body => exact printable_under (printable_members printable) "status"
  | patchStatus patch =>
      exact printable_under (printable_members (printable_mergePatch printable patch text)) "status"

theorem printable_outcome (printable : stored.Printable) (text : w.body.Printable) :
    (Json.object (w.outcome stored)).Printable := by
  have base := printable_members (printable_base (w := w) printable text)
  have metadata : ∀ m ∈ w.metadata stored, m.2.Printable := by
    unfold ApiWrite.metadata
    cases stands : under "metadata" (w.base stored).members with
    | nil => exact nofun
    | cons j rest => exact printable_members (printable_under base "metadata" j (by simp [stands]))
  have new : (Json.object (w.newMetadata stored)).Printable :=
    .object (printable_exchange _ metadata (by simpa using Printable.text _))
  exact .object (printable_exchange _ (printable_exchange _ base (by simpa using new))
    (printable_status printable text))

end ApiWrite

/-! ### The server -/

/-- A document that has a text. -/
structure HeldDocument where
  members : List (String × Json)
  printable : (Json.object members).Printable

namespace HeldDocument

def document (held : HeldDocument) : Json := .object held.members

def response (held : HeldDocument) : Http.Response := ⟨200, held.document.render⟩

theorem carries (held : HeldDocument) : held.response.Carries held.document where
  success := (by decide : Http.isSuccess 200 = true)
  body := parse?_render held.printable

/-- The document that is written for an interface. -/
def ofInterface (nic : NetworkInterface) (sound : nic.metadata.Sound 1) : HeldDocument :=
  ⟨written nic.given, NetworkInterface.printable_toJson sound⟩

/-- The document that is written for a network. -/
def ofNetwork (network : PrivateNetwork) (sound : network.metadata.Sound 1) : HeldDocument :=
  ⟨network.toJson.members, PrivateNetwork.printable_toJson sound⟩

/-- The document after a write. -/
def after (held : HeldDocument) (w : ApiWrite) (text : w.body.Printable) : HeldDocument :=
  ⟨w.outcome held.document, ApiWrite.printable_outcome held.printable text⟩

end HeldDocument

/-- A server with its documents under their paths. -/
structure DocumentServer where
  documents : Table String HeldDocument

namespace DocumentServer

variable {s : DocumentServer} {path : String} {d : Json}

/-- A refusal with its code, its reason and what is told about it. -/
def refusal (code : Nat) (reason explanation : String) : Http.Response :=
  ⟨code, Json.render (.object
    [("status", .text "Failure"), ("message", .text explanation), ("reason", .text reason), ("code", .ofNat code)])⟩

def notFound : Http.Response := refusal 404 "NotFound" "there is no such object"

def conflict : Http.Response := refusal 409 "Conflict" "the object has been modified"

def invalid : Http.Response := refusal 422 "Invalid" "the object cannot be written"

/-- Answers a write of the object at a path. -/
def write (s : DocumentServer) (path : String) (w : ApiWrite) : Http.Response × DocumentServer :=
  match s.documents.get? path with
  | none => (notFound, s)
  | some stored =>
    if w.body.version? = stored.document.version? then
      if text : w.body.Printable then
        ((stored.after w text).response,
          ⟨if w.removes (.object (w.newMetadata stored.document)) then s.documents.erase path
            else s.documents.insert path (stored.after w text)⟩)
      else (invalid, s)
    else (conflict, s)

/-- The path of the object that a path of a status belongs to. -/
def objectOf (path : String) : String := String.ofList (path.toList.take (path.toList.length - "/status".length))

theorem objectOf_append (path : String) : objectOf (path ++ "/status") = path := by
  have length : (path ++ "/status").toList.length - "/status".length = path.toList.length := by
    rw [String.toList_append, List.length_append]
    exact Nat.add_sub_cancel _ _
  unfold objectOf
  rw [length, String.toList_append, List.take_left, String.ofList_toList]

/-- Answers a request. One without a body is one for the object, and the path of a patch is that of a status. -/
def answer (request : ApiRequest) (s : DocumentServer) : Option Http.Response × DocumentServer :=
  match request.method, request.body with
  | .put, some body => (s.write request.target.path (.replace body)).map some id
  | .patch, some patch => (s.write (objectOf request.target.path) (.patchStatus patch)).map some id
  | _, _ => (some ((s.documents.get? request.target.path).elim notFound HeldDocument.response), s)

/-- The server, to its clients. -/
def server : ApiServer DocumentServer where
  answer := answer
  document s path := (s.documents.get? path).map HeldDocument.document

/-! ### It is lawful -/

theorem refuses {code : Nat} (small : code ≤ 65535) (reason explanation : String) :
    (refusal code reason explanation).Refuses code reason where
  status := rfl
  body := by
    have printable : (Json.object [("status", .text "Failure"), ("message", .text explanation),
        ("reason", .text reason), ("code", .ofNat code)]).Printable := by
      refine .object ?_
      simp only [List.forall_mem_cons]
      exact ⟨.text _, .text _, .text _, printable_ofInt code, by simp⟩
    have read : Json.parse? (refusal code reason explanation).body = _ := parse?_render printable
    refine ⟨explanation, ?_⟩
    rw [read]
    show (nat? 65535 (.ofNat code)).bind (fun code => some (⟨code, reason, explanation⟩ : Refusal)) = _
    rw [nat?_ofNat small]
    rfl

theorem answer_write (s : DocumentServer) (path : String) (w : ApiWrite) :
    server.answer (w.request path) s = (some (s.write path w).1, (s.write path w).2) := by
  cases w with
  | replace body => rfl
  | patchStatus patch =>
      show (s.write (objectOf (path ++ "/status")) _).map some id = _
      rw [objectOf_append]
      rfl

/-- What is held where something is found. -/
theorem held_of_document (found : server.document s path = some d) :
    ∃ held, s.documents.get? path = some held ∧ held.document = d := Option.map_eq_some_iff.mp found

theorem absent_of_document (gone : server.document s path = none) : s.documents.get? path = none :=
  Option.map_eq_none_iff.mp gone

theorem document_insert (s : DocumentServer) (path : String) (held : HeldDocument) :
    server.document ⟨s.documents.insert path held⟩ =
      ApiServer.placed (server.document s) path (some held.document) := by
  funext other
  show ((s.documents.insert path held).get? other).map _ = _
  by_cases own : other = path
  · rw [own, Table.get?_insert_self, ApiServer.placed_self]
    rfl
  · rw [Table.get?_insert_of_ne _ own, ApiServer.placed_of_ne _ own]
    rfl

theorem document_erase (s : DocumentServer) (path : String) :
    server.document ⟨s.documents.erase path⟩ = ApiServer.placed (server.document s) path none := by
  funext other
  show ((s.documents.erase path).get? other).map _ = _
  by_cases own : other = path
  · rw [own, Table.get?_erase_self, ApiServer.placed_self]
    rfl
  · rw [Table.get?_erase_of_ne _ own, ApiServer.placed_of_ne _ own]
    rfl

/-- The server answers as is assumed of servers. -/
theorem lawful : server.Lawful where
  object found := by
    obtain ⟨held, -, rfl⟩ := held_of_document found
    exact ⟨held.members, rfl⟩
  read_found := by
    intro s path d found
    obtain ⟨held, stored, rfl⟩ := held_of_document found
    refine ⟨held.response, held.carries, s, ?_, rfl⟩
    show (some ((s.documents.get? path).elim notFound HeldDocument.response), s) = _
    rw [stored]
    rfl
  read_absent := by
    intro s path gone
    refine ⟨notFound, refuses (by decide) _ _, s, ?_, rfl⟩
    show (some ((s.documents.get? path).elim notFound HeldDocument.response), s) = _
    rw [absent_of_document gone]
    rfl
  write_absent := by
    intro s path gone w
    refine ⟨notFound, refuses (by decide) _ _, s, ?_, rfl⟩
    rw [answer_write]
    unfold write
    rw [absent_of_document gone]
  write_stale := by
    intro s path d found w stale
    obtain ⟨held, stored, rfl⟩ := held_of_document found
    refine ⟨conflict, refuses (by decide) _ _, s, ?_, rfl⟩
    rw [answer_write]
    unfold write
    rw [stored]
    dsimp only
    rw [if_neg stale]
  write_current := by
    intro s path d found w proper current
    obtain ⟨held, stored, rfl⟩ := held_of_document found
    have metadata : (under "metadata" (held.after w proper.text).members).any w.removes =
        w.removes (.object (w.newMetadata held.document)) := by
      show (under "metadata" (w.outcome held.document)).any w.removes = _
      rw [ApiWrite.under_metadata_outcome]
      simp
    refine ⟨(held.after w proper.text).response, _, (held.after w proper.text).carries,
      ApiWrite.makes_outcome proper, (s.write path w).2, ?_, ?_⟩
    · rw [answer_write]
      unfold write
      rw [stored]
      dsimp only
      rw [if_pos current, dif_pos proper.text]
    · show _ = ApiServer.placed _ _ (if (under "metadata" (held.after w proper.text).members).any w.removes then none
        else some (held.after w proper.text).document)
      unfold write
      rw [metadata, stored]
      dsimp only
      rw [if_pos current, dif_pos proper.text]
      split
      · exact document_erase s path
      · exact document_insert s path _

end DocumentServer

end LinkKeeper
