import LinkKeeper.Proofs.Reconcile.Converged
import LinkKeeper.Proofs.Reconcile.Stores
import LinkKeeper.Proofs.Store.Current
import LinkKeeper.Proofs.Store.DocumentServer

/-!
A pass over the store behind the API goes as one over the store in memory.

The server holds the same objects as the store in memory, up to their versions. A pass reads the same, writes the same
and is told the same, whatever the links and the metadata service answer, and the objects are the same afterwards. One
thing may blur on the way through the texts of requests: doubles that writers of the interface have set.

* `ApiServer.Mirrors`: a server holds the objects of a store, some of them with blurred doubles.
* `Exchanges.Carry`: every write carries the version that was received last.
* `ApiServer.simulation`: the two stores treat passes alike.
* `ApiServer.cluster_refines_memory`: passes over them end alike and leave the same.
* `ApiServer.accounts_blurred`: a double that a writer has set does not stay the same.
-/

namespace LinkKeeper

open Json

/-! ### The same objects -/

/-- The network without its version. -/
def PrivateNetwork.unversioned (network : PrivateNetwork) : PrivateNetwork :=
  { network with metadata.resourceVersion := none }

/-- What a server holds at a path, and what a store holds under a name: nothing, or objects that are alike. -/
inductive Held {α : Type} (decode : Decoder α) (alike : α → α → Prop) : Option Json → Option α → Prop where
  | absent : Held decode alike none none
  | found {d : Json} {a b : α} (reads : decode d = some b) (same : alike a b) : Held decode alike (some d) (some a)

theorem Held.cases {α : Type} {decode : Decoder α} {alike : α → α → Prop} {d : Option Json} {a : Option α}
    (held : Held decode alike d a) :
    (d = none ∧ a = none) ∨ ∃ j x y, d = some j ∧ a = some x ∧ decode j = some y ∧ alike x y := by
  cases held with
  | absent => exact .inl ⟨rfl, rfl⟩
  | found reads same => exact .inr ⟨_, _, _, rfl, rfl, reads, same⟩

theorem Held.mono {α : Type} {decode : Decoder α} {alike looser : α → α → Prop} {d : Option Json} {a : Option α}
    (held : Held decode alike d a) (weakens : ∀ x y, alike x y → looser x y) : Held decode looser d a := by
  cases held with
  | absent => exact .absent
  | found reads same => exact .found reads (weakens _ _ same)

/-- What has been written for one of two objects that are alike is like what is read of the other again, at any
version. -/
theorem NetworkInterface.Alike.reread {exact : Prop} {nic other written : NetworkInterface} {again : ObjectMeta}
    {version : String} (alike : nic.Alike exact other) (kept : written.unversioned = nic.unversioned)
    (zeroed : again.zeroed = other.metadata.zeroed) (whole : exact → again = other.metadata) :
    written.Alike exact ⟨again.atVersion version, other.spec, other.status⟩ where
  bare := by
    rw [← bare_unversioned written, kept, bare_unversioned, alike.bare]
    show (⟨{ other.metadata.zeroed with resourceVersion := none }, other.spec, other.status⟩ : NetworkInterface) =
      ⟨{ again.zeroed with resourceVersion := none }, other.spec, other.status⟩
    rw [zeroed]
  unversioned holds := by
    rw [kept, alike.unversioned holds, whole holds]
    rfl

/-- The interface names a valid owner, if it has one. Where doubles count, what its writers have set is kept when it is
read again. -/
structure NetworkInterface.Fit (exact : Prop) (nic : NetworkInterface) : Prop where
  owner : ∀ name, nic.ownerNetwork? = some name → ValidName name
  stable : exact → nic.metadata.Stable

theorem Moment.Keeps.congr {nic now written : NetworkInterface} (keeps : Keeps nic now)
    (same : written.unversioned = now.unversioned) : Keeps nic written where
  spec := (congrArg NetworkInterface.spec same).trans keeps.spec
  macAddress := (congrArg (fun nic => nic.status.bind InterfaceStatus.macAddress) same).trans keeps.macAddress
  metadata := by
    refine Eq.trans ?_ keeps.metadata
    exact congrArg (fun nic : NetworkInterface =>
      { nic.metadata with finalizers := none, resourceVersion := none }) same

theorem NetworkInterface.Fit.of_keeps {exact : Prop} {nic written : NetworkInterface} (fit : nic.Fit exact)
    (keeps : Moment.Keeps nic written) : written.Fit exact where
  owner name owned := fit.owner name (keeps.ownerNetwork?.symm.trans owned)
  stable holds := by
    have managers := keeps.field (fun m => m.managedFields) fun _ => rfl
    unfold ObjectMeta.Stable
    rw [managers]
    exact fit.stable holds

/-! ### What has been asked and answered -/

/-- Requests with the replies to them, oldest first. -/
abbrev Exchanges := List (ApiRequest × Option Http.Response)

namespace Exchanges

variable {path : String} {log : Exchanges} {request : ApiRequest} {reply : Option Http.Response}

/-- Whether a request is about the object at a path. -/
def concerns (path : String) (request : ApiRequest) : Bool :=
  request.target.path = path || request.target.path = path ++ "/status"

/-- The version in the document of an object that was received last. -/
def received? (path : String) (log : Exchanges) : Option String :=
  (log.filter fun e => concerns path e.1).getLast?.bind fun e =>
    e.2.bind fun r => (Json.parse? r.body).bind Json.version?

/-- Every write carries the version of the object that was received last before it. -/
def Carry (path : String) (log : Exchanges) : Prop :=
  ∀ before request reply after, log = before ++ (request, reply) :: after → request.method ≠ .get →
    request.body.bind Json.version? = received? path before

theorem received?_append_own {r : Http.Response} {d : Json} (own : concerns path request = true)
    (carries : r.Carries d) :
    received? path (log ++ [(request, some r)]) = d.version? := by
  simp [received?, List.filter_append, own, carries.body]

theorem received?_append_other (apart : concerns path request = false) :
    received? path (log ++ [(request, reply)]) = received? path log := by
  simp [received?, List.filter_append, apart]

theorem carry_nil (path : String) : Carry path [] := by
  intro before request reply after empty
  simp at empty

theorem Carry.append (carry : log.Carry path)
    (last : request.method ≠ .get → request.body.bind Json.version? = received? path log) :
    Carry path (log ++ [(request, reply)]) := by
  intro before other answer after split writes
  rcases after.eq_nil_or_concat with rfl | ⟨rest, e, rfl⟩
  · obtain ⟨rfl, same⟩ := List.append_inj' split rfl
    cases same
    exact last writes
  · have split : log ++ [(request, reply)] = (before ++ (other, answer) :: rest) ++ [e] := by
      simpa using split
    exact carry before other answer rest (List.append_inj' split rfl).1 writes

end Exchanges

namespace ApiServer

variable {σ ω : Type}

/-- The server with what is asked of it and answered written down. -/
def recorded (server : ApiServer σ) : ApiRequest → σ × Exchanges → Option Http.Response × (σ × Exchanges)
  | request, (s, log) =>
    ((server.answer request s).1, (server.answer request s).2, log ++ [(request, (server.answer request s).1)])

/-- The server holds the objects of the store, up to their versions, and up to doubles that writers have set in the
interfaces with `blurred` names. -/
structure Mirrors (server : ApiServer σ) (blurred : Set String) (t : σ) (s : MemoryStore) : Prop where
  interface : ∀ name, ValidName name →
    Held NetworkInterface.fromJson? (NetworkInterface.Alike (name ∉ blurred))
      (server.document t (ClusterStore.interfacePath name)) (s.getInterface name)
  network : ∀ name, ValidName name →
    Held PrivateNetwork.fromJson? (fun network other => network.unversioned = other.unversioned)
      (server.document t (ClusterStore.networkPath name)) (s.getNetwork name)

/-- What holds between the store in memory and the server while a pass over the interface with the name runs. -/
structure Level (server : ApiServer σ) (blurred : Set String) (name : String) (here : MemoryStore × ω)
    (there : (σ × Exchanges) × ω) : Prop where
  settled : here.1.Settled
  mirrors : server.Mirrors blurred there.1.1 here.1
  fit : ∀ nic, here.1.getInterface name = some nic → nic.Fit (name ∉ blurred)
  carry : there.1.2.Carry (ClusterStore.interfacePath name)
  outside : here.2 = there.2

/-- The copies are those in the stores, or the interface is gone from both. -/
def Stored (server : ApiServer σ) (name : String) (nic other : NetworkInterface) (s : MemoryStore) (t : σ) : Prop :=
  (s.getInterface name = some nic ∧
      ∃ members, server.document t (ClusterStore.interfacePath name) = some (.object members) ∧
        NetworkInterface.Read 0 members other) ∨
    (s.getInterface name = none ∧ server.document t (ClusterStore.interfacePath name) = none)

/-- What holds while a copy of the interface is held on either side. -/
structure Copies (server : ApiServer σ) (blurred : Set String) (name : String) (nic other : NetworkInterface)
    (here : MemoryStore × ω) (there : (σ × Exchanges) × ω) : Prop where
  level : server.Level blurred name here there
  alike : nic.Alike (name ∉ blurred) other
  named : nic.metadata.name = some name
  fit : nic.Fit (name ∉ blurred)
  proper : other.metadata.Proper 1
  received : there.1.2.received? (ClusterStore.interfacePath name) = other.metadata.resourceVersion
  stored : server.Stored name nic other here.1 there.1.1

section Simulation

variable {server : ApiServer σ} {blurred : Set String} {name : String} {s : MemoryStore} {t t' : σ} {log : Exchanges}
  {w v : ω} {nic other : NetworkInterface} {request : ApiRequest} {reply : Option Http.Response}

/-- An operation that is one request. -/
theorem run_recorded {α : Type} (result : Option Http.Response → α) (answered : server.answer request t = (reply, t'))
    (log : Exchanges) :
    Program.run server.recorded (.ask request fun reply => .done (result reply) : ApiProgram α) (t, log) =
      (result reply, t', log ++ [(request, reply)]) := by
  simp [recorded, answered]

theorem Mirrors.mono {looser : Set String} (mirrors : server.Mirrors blurred t s) (sub : blurred ⊆ looser) :
    server.Mirrors looser t s where
  interface name valid := (mirrors.interface name valid).mono fun _ _ alike =>
    alike.mono fun apart mem => apart (sub mem)
  network := mirrors.network

theorem Mirrors.congr (mirrors : server.Mirrors blurred t s) (same : server.document t' = server.document t) :
    server.Mirrors blurred t' s := by
  constructor
  · rw [same]
    exact mirrors.interface
  · rw [same]
    exact mirrors.network

/-- The two sides may be written at the name of the interface. -/
theorem Mirrors.rewritten {s' : MemoryStore} {now : Option Json} {nic : Option NetworkInterface}
    (mirrors : server.Mirrors blurred t s) (here : s.Rewritten s' name nic)
    (there : server.document t' = placed (server.document t) (ClusterStore.interfacePath name) now)
    (held : Held NetworkInterface.fromJson? (NetworkInterface.Alike (name ∉ blurred)) now nic) :
    server.Mirrors blurred t' s' where
  interface other valid := by
    rw [there]
    by_cases own : other = name
    · subst own
      rw [placed_self, here.now]
      exact held
    · rw [placed_of_ne _ fun same => own (ClusterStore.interfacePath_inj.mp same), here.elsewhere other own]
      exact mirrors.interface other valid
  network other valid := by
    have apart : ClusterStore.networkPath other ≠ ClusterStore.interfacePath name := by
      have different := ClusterStore.networkPath_ne other name ""
      rwa [String.append_empty] at different
    unfold MemoryStore.getNetwork
    rw [there, placed_of_ne _ apart, here.networks]
    exact mirrors.network other valid

theorem concerns_read (name : String) :
    Exchanges.concerns (ClusterStore.interfacePath name) (.read (ClusterStore.interfacePath name)) = true := by
  simp [Exchanges.concerns, ApiRequest.read]

theorem concerns_write (name : String) (w : ApiWrite) :
    Exchanges.concerns (ClusterStore.interfacePath name) (w.request (ClusterStore.interfacePath name)) = true := by
  cases w <;> simp [Exchanges.concerns, ApiWrite.request, ApiRequest.replace, ApiRequest.patchStatus]

theorem concerns_network (name owner : String) :
    Exchanges.concerns (ClusterStore.interfacePath name) (.read (ClusterStore.networkPath owner)) = false := by
  have path := ClusterStore.networkPath_ne owner name ""
  rw [String.append_empty] at path
  simp [Exchanges.concerns, ApiRequest.read, path, ClusterStore.networkPath_ne owner name "/status"]

/-- Reading leaves everything as it is. -/
theorem Level.observed (level : server.Level blurred name (s, w) ((t, log), v)) (path : String)
    (same : server.document t' = server.document t) (reply : Option Http.Response) :
    server.Level blurred name (s, w) ((t', log ++ [(.read path, reply)]), v) where
  settled := level.settled
  mirrors := level.mirrors.congr same
  fit := level.fit
  carry := level.carry.append fun writes => absurd rfl writes
  outside := level.outside

/-! ### Calls of a pass -/

variable {outside : Outside ω}

/-- A read on the cluster's side. -/
theorem answer_readInterface (valid : ValidName name)
    (answered : server.answer (.read (ClusterStore.interfacePath name)) t = (reply, t')) (log : Exchanges) (v : ω) :
    (ObjectStore.cluster server.recorded).answer outside (.readInterface name) ((t, log), v) =
      (ClusterStore.fetched interfaceKind name (ClusterStore.read NetworkInterface.fromJson? reply),
        (t', log ++ [(.read (ClusterStore.interfacePath name), reply)]), v) := by
  show (Program.run server.recorded (ClusterStore.getInterface name) (t, log)).map id (·, v) = _
  rw [ClusterStore.getInterface_eq valid, run_recorded _ answered]
  rfl

theorem answer_readNetwork {owner : String} (valid : ValidName owner)
    (answered : server.answer (.read (ClusterStore.networkPath owner)) t = (reply, t')) (log : Exchanges) (v : ω) :
    (ObjectStore.cluster server.recorded).answer outside (.readNetwork owner) ((t, log), v) =
      (ClusterStore.fetched networkKind owner (ClusterStore.read PrivateNetwork.fromJson? reply),
        (t', log ++ [(.read (ClusterStore.networkPath owner), reply)]), v) := by
  show (Program.run server.recorded (ClusterStore.getNetwork owner) (t, log)).map id (·, v) = _
  rw [ClusterStore.getNetwork_eq valid, run_recorded _ answered]
  rfl

/-- Reading the interface. -/
theorem Level.read (lawful : server.Lawful) (valid : ValidName name) {here : MemoryStore × ω}
    {there : (σ × Exchanges) × ω} (level : server.Level blurred name here there) :
    Pass.Ends (Pass.Read (server.Level blurred name) (server.Copies blurred name)) (server.Level blurred name)
      (ObjectStore.memory.answer outside (.readInterface name) here)
      ((ObjectStore.cluster server.recorded).answer outside (.readInterface name) there) := by
  obtain ⟨s, w⟩ := here
  obtain ⟨⟨t, log⟩, v⟩ := there
  show Pass.Ends _ _ (.ok (s.getInterface name), (s, w)) _
  rcases (level.mirrors.interface name valid).cases with ⟨gone, absent⟩ | ⟨d, nic, other, held, present, reads, alike⟩
  · obtain ⟨r, refuses, t', answered, kept⟩ := lawful.read_absent gone
    dsimp only at absent
    rw [answer_readInterface valid answered, ClusterStore.fetched_absent _ refuses, absent]
    exact .ok (.absent (level.observed _ kept _))
  · obtain ⟨r, carries, t', answered, kept⟩ := lawful.read_found held
    obtain ⟨members, rfl⟩ := lawful.object held
    dsimp only at present
    have read := NetworkInterface.fromJson?_object_iff.mp reads
    rw [answer_readInterface valid answered, ClusterStore.read_value carries reads, present]
    refine .ok (.copy ⟨level.observed _ kept _, alike, level.settled.consistent.named present, level.fit nic present,
      NetworkInterface.proper_of_fromJson? reads, ?_, .inl ⟨present, members, ?_, read⟩⟩)
    · exact (Exchanges.received?_append_own (concerns_read name) carries).trans read.version?
    · exact (congrFun kept _).trans held

/-- Reading the network of the interface. -/
theorem Copies.network (lawful : server.Lawful) {here : MemoryStore × ω} {there : (σ × Exchanges) × ω}
    (copies : server.Copies blurred name nic other here there) {owner : String} (valid : ValidName owner) :
    Pass.Ends
      (fun a b here there =>
        a.map desiredRoutes = b.map desiredRoutes ∧ server.Copies blurred name nic other here there)
      (server.Level blurred name) (ObjectStore.memory.answer outside (.readNetwork owner) here)
      ((ObjectStore.cluster server.recorded).answer outside (.readNetwork owner) there) := by
  obtain ⟨s, w⟩ := here
  obtain ⟨⟨t, log⟩, v⟩ := there
  obtain ⟨level, alike, named, fit, proper, received, stored⟩ := copies
  -- A read of something else changes neither the objects nor the version received last.
  have held {t' : σ} (kept : server.document t' = server.document t) (reply : Option Http.Response) :
      server.Copies blurred name nic other (s, w)
        ((t', log ++ [(.read (ClusterStore.networkPath owner), reply)]), v) := by
    refine ⟨level.observed _ kept reply, alike, named, fit, proper, ?_, ?_⟩
    · exact (Exchanges.received?_append_other (concerns_network name owner)).trans received
    · unfold Stored
      rw [kept]
      exact stored
  show Pass.Ends _ _ (.ok (s.getNetwork owner), (s, w)) _
  rcases (level.mirrors.network owner valid).cases with
    ⟨gone, absent⟩ | ⟨d, network, mirrored, kept, present, reads, same⟩
  · obtain ⟨r, refuses, t', answered, kept⟩ := lawful.read_absent gone
    dsimp only at absent
    rw [answer_readNetwork valid answered, ClusterStore.fetched_absent _ refuses, absent]
    exact .ok ⟨rfl, held kept _⟩
  · obtain ⟨r, carries, t', answered, kept⟩ := lawful.read_found kept
    dsimp only at present
    rw [answer_readNetwork valid answered, ClusterStore.read_value carries reads, present]
    have routes : desiredRoutes network = desiredRoutes mirrored :=
      show desiredRoutes network.unversioned = desiredRoutes mirrored.unversioned from congrArg desiredRoutes same
    exact .ok ⟨congrArg some routes, held kept _⟩

theorem Copies.named_other {here : MemoryStore × ω} {there : (σ × Exchanges) × ω}
    (copies : server.Copies blurred name nic other here there) : other.metadata.name = some name :=
  (copies.alike.congr (fun nic => nic.metadata.name) fun _ => rfl).symm.trans copies.named

/-- A write of the copy carries its version, which is the one received last. -/
theorem Copies.carry (copies : server.Copies blurred name nic other (s, w) ((t, log), v)) (write : ApiWrite)
    (version : write.body.version? = other.metadata.resourceVersion) (reply : Option Http.Response) :
    Exchanges.Carry (ClusterStore.interfacePath name)
      (log ++ [(write.request (ClusterStore.interfacePath name), reply)]) := by
  refine copies.level.carry.append fun _ => ?_
  have body : (write.request (ClusterStore.interfacePath name)).body = some write.body := by
    cases write <;> rfl
  rw [body, copies.received]
  exact version

/-- What both sides have accepted becomes what is held. -/
theorem Copies.accepted {p : Except StoreError NetworkInterface × MemoryStore} {written writtenOther : NetworkInterface}
    {members : List (String × Json)} {r : Http.Response} (write : ApiWrite) (gone : Bool)
    (copies : server.Copies blurred name nic other (s, w) ((t, log), v)) (settled : p.2.Settled)
    (accepted : p.1 = .ok written) (keeps : Moment.Keeps nic written)
    (here : s.Rewritten p.2 name (if gone then none else some written))
    (there : server.document t' = placed (server.document t) (ClusterStore.interfacePath name)
      (if gone then none else some (.object members)))
    (read : NetworkInterface.Read 0 members writtenOther) (alike : written.Alike (name ∉ blurred) writtenOther)
    (carries : r.Carries (.object members)) (version : write.body.version? = other.metadata.resourceVersion) :
    Pass.Ends (server.Copies blurred name) (server.Level blurred name) (p.map id (·, w))
      (.ok writtenOther, (t', log ++ [(write.request (ClusterStore.interfacePath name), some r)]), v) := by
  obtain ⟨_, s'⟩ := p
  cases accepted
  have fit := copies.fit.of_keeps keeps
  refine .ok ⟨⟨settled, ?_, ?_, copies.carry write version (some r), copies.level.outside⟩, alike,
    keeps.name.trans copies.named, fit,
    NetworkInterface.proper_of_fromJson? (NetworkInterface.fromJson?_object_iff.mpr read), ?_, ?_⟩
  · refine copies.level.mirrors.rewritten here there ?_
    cases gone with
    | true => exact .absent
    | false => exact .found (NetworkInterface.fromJson?_object_iff.mpr read) alike
  · intro now stored
    rw [here.now] at stored
    cases gone with
    | true => cases stored
    | false =>
        cases stored
        exact fit
  · exact (Exchanges.received?_append_own (concerns_write name write) carries).trans read.version?
  · unfold Stored
    rw [here.now, there, placed_self]
    cases gone with
    | true => exact .inr ⟨rfl, rfl⟩
    | false => exact .inl ⟨rfl, members, rfl, read⟩

/-- What is gone from both sides is written on neither. -/
theorem Copies.refused {p : Except StoreError NetworkInterface × MemoryStore} {e : StoreError} (write : ApiWrite)
    (copies : server.Copies blurred name nic other (s, w) ((t, log), v)) (settled : p.2.Settled)
    (refused : p.1 = .error e) (here : s.Rewritten p.2 name none)
    (gone : server.document t (ClusterStore.interfacePath name) = none)
    (there : server.document t' = server.document t) (version : write.body.version? = other.metadata.resourceVersion)
    (reply : Option Http.Response) :
    Pass.Ends (server.Copies blurred name) (server.Level blurred name) (p.map id (·, w))
      (.error e, (t', log ++ [(write.request (ClusterStore.interfacePath name), reply)]), v) := by
  obtain ⟨_, s'⟩ := p
  cases refused
  -- Nothing has been put where nothing was.
  have unchanged : server.document t' = placed (server.document t) (ClusterStore.interfacePath name) none := by
    rw [there]
    funext path
    by_cases own : path = ClusterStore.interfacePath name
    · rw [own, gone, placed_self]
    · rw [placed_of_ne _ own]
  refine .error ⟨settled, copies.level.mirrors.rewritten here unchanged .absent, fun nic stored => ?_,
    copies.carry write version reply, copies.level.outside⟩
  rw [here.now] at stored
  cases stored

theorem answer_writeInterface (named : nic.metadata.name = some name) (valid : ValidName name)
    (answered : server.answer ((ApiWrite.replace nic.toJson).request (ClusterStore.interfacePath name)) t = (reply, t'))
    (log : Exchanges) (v : ω) :
    (ObjectStore.cluster server.recorded).answer outside (.writeInterface nic) ((t, log), v) =
      (ClusterStore.written name (ClusterStore.read NetworkInterface.fromJson? reply),
        (t', log ++ [((ApiWrite.replace nic.toJson).request (ClusterStore.interfacePath name), reply)]), v) := by
  show (Program.run server.recorded (ClusterStore.update nic) (t, log)).map id (·, v) = _
  rw [ClusterStore.update_eq named valid]
  exact congrArg (Prod.map id (·, v)) (run_recorded _ answered log)

theorem answer_writeStatus (named : nic.metadata.name = some name) (valid : ValidName name)
    (answered : server.answer
      ((ApiWrite.patchStatus (ClusterStore.statusPatch nic)).request (ClusterStore.interfacePath name)) t = (reply, t'))
    (log : Exchanges) (v : ω) :
    (ObjectStore.cluster server.recorded).answer outside (.writeStatus nic) ((t, log), v) =
      (ClusterStore.written name (ClusterStore.read NetworkInterface.fromJson? reply),
        (t', log ++ [((ApiWrite.patchStatus (ClusterStore.statusPatch nic)).request (ClusterStore.interfacePath name),
          reply)]), v) := by
  show (Program.run server.recorded (ClusterStore.updateStatus nic) (t, log)).map id (·, v) = _
  rw [ClusterStore.updateStatus_eq named valid]
  exact congrArg (Prod.map id (·, v)) (run_recorded _ answered log)

theorem Copies.stable_other {here : MemoryStore × ω} {there : (σ × Exchanges) × ω}
    (copies : server.Copies blurred name nic other here there) (exact : name ∉ blurred) : other.metadata.Stable := by
  have managers := NetworkInterface.congr_unversioned (copies.alike.unversioned exact)
    (fun nic => nic.metadata.managedFields) fun _ => rfl
  unfold ObjectMeta.Stable
  rw [← managers]
  exact copies.fit.stable exact

/-- Taking the finalizer off. -/
theorem Copies.release (lawful : server.Lawful) (valid : ValidName name) {here : MemoryStore × ω}
    {there : (σ × Exchanges) × ω} (copies : server.Copies blurred name nic other here there) :
    Pass.Ends (server.Copies blurred name) (server.Level blurred name)
      (ObjectStore.memory.answer outside (.writeInterface nic.withoutFinalizer) here)
      ((ObjectStore.cluster server.recorded).answer outside (.writeInterface other.withoutFinalizer) there) := by
  obtain ⟨s, w⟩ := here
  obtain ⟨⟨t, log⟩, v⟩ := there
  have named : nic.withoutFinalizer.metadata.name = some name := copies.named
  have namedOther : other.withoutFinalizer.metadata.name = some name := copies.named_other
  have version := NetworkInterface.version?_toJson other.withoutFinalizer
  have settled := copies.level.settled
  have after := settled.update nic.withoutFinalizer
  show Pass.Ends _ _ ((s.update nic.withoutFinalizer).map id (·, w)) _
  rcases copies.stored with ⟨present, members, held, read⟩ | ⟨absent, gone⟩
  · obtain ⟨written, accepted, kept, rewritten⟩ := MemoryStore.update_of_current settled present named rfl
    have proper : other.withoutFinalizer.metadata.Proper 1 :=
      ⟨copies.proper.created, copies.proper.deleted, copies.proper.grace, copies.proper.generation,
        copies.proper.managers⟩
    obtain ⟨r, new, carries, makes, t', answered, there⟩ := lawful.write_current held
      (.replace other.withoutFinalizer.toJson) (ApiWrite.proper_replace _ proper.sound)
      (version.trans read.version?.symm)
    obtain ⟨again, sent, zeroed, -⟩ := proper.exists_again
    obtain ⟨number, reads⟩ := makes.replaced read sent
    -- Both remove the object on the same condition, which looks at neither the version nor doubles.
    have leaves : MemoryStore.isReleased nic.withoutFinalizer = MemoryStore.isReleased other.withoutFinalizer :=
      copies.alike.congr (fun nic => MemoryStore.isReleased nic.withoutFinalizer) fun _ => rfl
    rw [makes.removes_replaced, ← leaves] at there
    obtain ⟨fields, rfl⟩ := makes.object
    have alike : written.Alike (name ∉ blurred) ⟨again.atVersion number, other.withoutFinalizer.spec, other.status⟩ :=
      copies.alike.withoutFinalizer.reread kept zeroed fun exact =>
        Option.some.inj (sent.symm.trans (ObjectMeta.fromJson?_object_iff.mpr
          (ObjectMeta.read_written proper.sound (copies.stable_other exact))))
    rw [answer_writeInterface namedOther valid answered, ClusterStore.read_value carries reads]
    exact copies.accepted (.replace _) _ after accepted ((Moment.keeps_withoutFinalizer nic "").congr kept)
      rewritten there (NetworkInterface.fromJson?_object_iff.mp reads) alike carries version
  · obtain ⟨⟨refused, unwritten⟩, -⟩ := MemoryStore.writes_of_absent settled absent named
    obtain ⟨r, refuses, t', answered, kept⟩ := lawful.write_absent gone (.replace other.withoutFinalizer.toJson)
    rw [answer_writeInterface namedOther valid answered, ClusterStore.written_absent refuses]
    exact copies.refused (.replace _) after refused unwritten gone kept version _

/-- Recording the name of the link. -/
theorem Copies.record (lawful : server.Lawful) (valid : ValidName name) (link : String) {here : MemoryStore × ω}
    {there : (σ × Exchanges) × ω} (copies : server.Copies blurred name nic other here there) :
    Pass.Ends (server.Copies blurred name) (server.Level blurred name)
      (ObjectStore.memory.answer outside (.writeStatus (nic.withLinkName link)) here)
      ((ObjectStore.cluster server.recorded).answer outside (.writeStatus (other.withLinkName link)) there) := by
  obtain ⟨s, w⟩ := here
  obtain ⟨⟨t, log⟩, v⟩ := there
  have named : (nic.withLinkName link).metadata.name = some name := copies.named
  have namedOther : (other.withLinkName link).metadata.name = some name := copies.named_other
  have version := NetworkInterface.version?_statusPatch (other.withLinkName link)
  have settled := copies.level.settled
  have after := settled.updateStatus (nic.withLinkName link)
  show Pass.Ends _ _ ((s.updateStatus (nic.withLinkName link)).map id (·, w)) _
  rcases copies.stored with ⟨present, members, held, read⟩ | ⟨absent, gone⟩
  · obtain ⟨written, accepted, kept, rewritten⟩ := MemoryStore.updateStatus_of_current settled present named rfl
    obtain ⟨r, new, carries, makes, t', answered, there⟩ := lawful.write_current held
      (.patchStatus (ClusterStore.statusPatch (other.withLinkName link))) (ApiWrite.proper_patchStatus read _)
      (version.trans read.version?.symm)
    obtain ⟨number, reads⟩ := makes.patched read
    -- A write of the status removes nothing.
    have stays : (under "metadata" new.members).any
        (ApiWrite.patchStatus (ClusterStore.statusPatch (other.withLinkName link))).removes = false := by
      simp [ApiWrite.removes]
    rw [stays] at there
    obtain ⟨fields, rfl⟩ := makes.object
    have alike : written.Alike (name ∉ blurred)
        ⟨other.metadata.atVersion number, other.spec, (other.withLinkName link).status⟩ :=
      (copies.alike.withLinkName link).reread kept rfl fun _ => rfl
    rw [answer_writeStatus namedOther valid answered, ClusterStore.read_value carries reads]
    exact copies.accepted (.patchStatus _) false after accepted
      ((Moment.keeps_withLinkName nic link "").congr kept) rewritten there
      (NetworkInterface.fromJson?_object_iff.mp reads) alike carries version
  · obtain ⟨-, refused, unwritten⟩ := MemoryStore.writes_of_absent settled absent named
    obtain ⟨r, refuses, t', answered, kept⟩ :=
      lawful.write_absent gone (.patchStatus (ClusterStore.statusPatch (other.withLinkName link)))
    rw [answer_writeStatus namedOther valid answered, ClusterStore.written_absent refuses]
    exact copies.refused (.patchStatus _) after refused unwritten gone kept version _

/-- Passes over the interface go the same way over the store in memory and over the server. -/
theorem simulation (lawful : server.Lawful) (valid : ValidName name) (outside : Outside ω) :
    Pass.Simulation (ObjectStore.memory.answer outside) ((ObjectStore.cluster server.recorded).answer outside)
      (name ∉ blurred) name (server.Level blurred name) (server.Copies blurred name) where
  level_of_copies copies := copies.level
  alike copies := copies.alike
  read level := level.read lawful valid
  release copies := copies.release lawful valid
  record link copies := copies.record lawful valid link
  network copies owned := copies.network lawful (copies.fit.owner _ owned)
  outside := by
    intro nic other here there c apart copies
    obtain ⟨s, w⟩ := here
    obtain ⟨⟨t, log⟩, v⟩ := there
    obtain ⟨level, alike, named, fit, proper, received, stored⟩ := copies
    obtain rfl : w = v := level.outside
    rw [ObjectStore.answer_outside _ _ apart, ObjectStore.answer_outside _ _ apart]
    exact ⟨rfl, ⟨level.settled, level.mirrors, level.fit, level.carry, rfl⟩, alike, named, fit, proper, received,
      stored⟩

end Simulation

/-! ### A server for a store -/

section Holding

variable {blurred : Set String} {s : MemoryStore} {t : DocumentServer} {nic : NetworkInterface}
  {network : PrivateNetwork} {name : String}

/-- A server without documents. -/
theorem mirrors_empty (blurred : Set String) : DocumentServer.server.Mirrors blurred ⟨∅⟩ .empty where
  interface _ _ := .absent
  network _ _ := .absent

/-- An interface is put in the store, and on the server a document from which one like it is read. -/
theorem Mirrors.put {written other : NetworkInterface} (mirrors : DocumentServer.server.Mirrors blurred t s)
    (named : nic.metadata.name = some name) (sound : written.metadata.Sound 1)
    (reads : NetworkInterface.fromJson? written.toJson = some other)
    (same : nic.unversioned = other.unversioned) :
    DocumentServer.server.Mirrors blurred
      ⟨t.documents.insert (ClusterStore.interfacePath name) (.ofInterface written sound)⟩ (s.put nic) := by
  have stored : s.Rewritten (s.put nic) name (some { nic with metadata := nic.metadata.atVersion s.nextVersion }) := by
    unfold MemoryStore.put
    rw [named]
    exact ⟨Table.get?_insert_self _ _ _, fun _ apart => Table.get?_insert_of_ne _ apart _, rfl⟩
  exact mirrors.rewritten stored (DocumentServer.document_insert t _ _) (.found reads (.of_unversioned same))

/-- A network is put on both sides. -/
theorem Mirrors.putNetwork (mirrors : DocumentServer.server.Mirrors blurred t s)
    (named : network.metadata.name = some name) (sound : network.metadata.Sound 1) (stable : network.metadata.Stable) :
    DocumentServer.server.Mirrors blurred
      ⟨t.documents.insert (ClusterStore.networkPath name) (.ofNetwork network sound)⟩ (s.putNetwork network) where
  interface other valid := by
    have apart : ClusterStore.interfacePath other ≠ ClusterStore.networkPath name := by
      have different := ClusterStore.networkPath_ne name other ""
      rw [String.append_empty] at different
      exact Ne.symm different
    have kept : (s.putNetwork network).getInterface other = s.getInterface other := by
      unfold MemoryStore.putNetwork
      rw [named]
      rfl
    rw [DocumentServer.document_insert, placed_of_ne _ apart, kept]
    exact mirrors.interface other valid
  network other valid := by
    have stored : (s.putNetwork network).networks = s.networks.insert name
        { network with metadata := network.metadata.atVersion s.nextVersion } := by
      unfold MemoryStore.putNetwork
      rw [named]
    unfold MemoryStore.getNetwork
    rw [DocumentServer.document_insert, stored]
    by_cases own : other = name
    · subst own
      rw [placed_self, Table.get?_insert_self]
      exact .found (PrivateNetwork.fromJson?_toJson sound stable) rfl
    · have apart : ClusterStore.networkPath other ≠ ClusterStore.networkPath name := fun same =>
        own (ClusterStore.networkPath_inj.mp same)
      rw [placed_of_ne _ apart, Table.get?_insert_of_ne _ own]
      exact mirrors.network other valid

end Holding

theorem sound_lingering : Pass.lingering.metadata.Sound 1 where
  created := nofun
  deleted t held := by
    cases held
    decide
  grace := nofun
  generation := nofun
  managers := nofun

theorem sound_lingeringNetwork : Pass.lingeringNetwork.metadata.Sound 1 :=
  ⟨nofun, nofun, nofun, nofun, nofun⟩

/-- A server with the interface and the network of the node. -/
def lingeringServer : DocumentServer :=
  ⟨((∅ : Table String HeldDocument).insert (ClusterStore.networkPath "net-a")
    (.ofNetwork Pass.lingeringNetwork sound_lingeringNetwork)).insert (ClusterStore.interfacePath "nic-a")
      (.ofInterface Pass.lingering sound_lingering)⟩

/-- A pass over the store behind the API makes the same calls as one over the store in memory, ends alike and leaves the
same objects up to their versions, as long as nobody else is at work. Every write carries the version of the copy that
was received last. If writers have set doubles in the interface that a reader changes, these may be left changed. -/
theorem cluster_refines_memory {server : ApiServer σ} (lawful : server.Lawful) (outside : Outside ω)
    (settings : Settings) {key : ObjectKey} (valid : ValidName key.name) {s : MemoryStore}
    (reached : MemoryStore.empty.Reaches s) (accepts : s.pendingConflicts = 0)
    (owner : ∀ nic, s.getInterface key.name = some nic → ∀ name, nic.ownerNetwork? = some name → ValidName name)
    {blurred : Set String} {t : σ} (mirrors : server.Mirrors blurred t s) (w : ω) :
    let cluster := ObjectStore.cluster server.recorded
    let here := ObjectStore.memory.reconcile outside settings key (s, w)
    let there := cluster.reconcile outside settings key ((t, []), w)
    let after := blurred ∪ {name | name = key.name ∧ ∃ nic, s.getInterface name = some nic ∧ ¬ nic.metadata.Stable}
    there.1 = here.1 ∧ there.2.2 = here.2.2 ∧
      Pass.CallsAlike (key.name ∉ after) (ObjectStore.memory.trace outside settings key (s, w))
        (cluster.trace outside settings key ((t, []), w)) ∧
      server.Mirrors after there.2.1.1 here.2.1 ∧ there.2.1.2.Carry (ClusterStore.interfacePath key.name) := by
  intro cluster here there after
  have fit : ∀ nic, s.getInterface key.name = some nic → nic.Fit (key.name ∉ after) := by
    intro nic held
    refine ⟨owner nic held, fun exact => ?_⟩
    by_contra unstable
    exact exact (.inr ⟨rfl, nic, held, unstable⟩)
  have level : server.Level after key.name (s, w) ((t, []), w) :=
    ⟨⟨reached.consistent MemoryStore.consistent_empty, accepts⟩, mirrors.mono Set.subset_union_left, fit,
      Exchanges.carry_nil _, rfl⟩
  obtain ⟨calls, ends⟩ := (simulation lawful valid outside).reconcile settings level
  obtain ⟨same, levels⟩ := ends.eq
  exact ⟨same.symm, levels.outside.symm, calls, levels.mirrors, levels.carry⟩

set_option maxRecDepth 8000 in
theorem lingering_refined :
    let cluster := ObjectStore.cluster DocumentServer.server.recorded
    let outside := (Pass.lingeringWorld.links, Pass.lingeringWorld.machine)
    let here := ObjectStore.memory.reconcile World.outside Pass.departingSettings Pass.departingKey
      (Pass.lingeringWorld.store, outside)
    let there := cluster.reconcile World.outside Pass.departingSettings Pass.departingKey
      ((lingeringServer, []), outside)
    here.1 = .ok .done ∧ (here.2.1.getInterface "nic-a").bind NetworkInterface.linkName? = some "eth1" ∧
      there.1 = here.1 ∧ DocumentServer.server.Mirrors ∅ there.2.1.1 here.2.1 ∧
      there.2.1.2.Carry (ClusterStore.interfacePath "nic-a") := by
  have valid : ValidName Pass.departingKey.name := ⟨by decide, by decide, by decide⟩
  have mirrors : DocumentServer.server.Mirrors ∅ lingeringServer Pass.lingeringWorld.store :=
    ((mirrors_empty ∅).putNetwork rfl sound_lingeringNetwork nofun).put rfl sound_lingering
      (NetworkInterface.fromJson?_toJson sound_lingering nofun) rfl
  have reached : MemoryStore.empty.Reaches Pass.lingeringWorld.store :=
    .step (.single (.putNetwork Pass.lingeringNetwork)) (.put Pass.lingering)
  have owner : ∀ nic, Pass.lingeringWorld.store.getInterface "nic-a" = some nic →
      ∀ name, nic.ownerNetwork? = some name → ValidName name := by
    intro nic held name owned
    cases held
    cases owned
    exact ⟨by decide, by decide, by decide⟩
  obtain ⟨same, -, -, after, carry⟩ := cluster_refines_memory DocumentServer.lawful World.outside
    Pass.departingSettings valid reached rfl owner mirrors (Pass.lingeringWorld.links, Pass.lingeringWorld.machine)
  -- No writer has set anything.
  have sharp : {name | name = Pass.departingKey.name ∧
      ∃ nic, Pass.lingeringWorld.store.getInterface name = some nic ∧ ¬ nic.metadata.Stable} = ∅ := by
    refine Set.eq_empty_of_forall_notMem ?_
    rintro _ ⟨rfl, nic, held, unstable⟩
    cases held
    exact unstable nofun
  rw [sharp, Set.union_empty] at after
  exact ⟨rfl, rfl, same, after, carry⟩

/-- The interface, and a number that a writer has set in it. -/
def accounted (n : JsonNumber) : NetworkInterface :=
  { Pass.lingering with metadata.managedFields := some [account (.number n)] }

/-- Two doubles that are next to each other. -/
def double : JsonNumber := ⟨false, 2, none, some (-24)⟩

def neighbour : JsonNumber := ⟨false, 2, some "0000000000000002", some (-24)⟩

/-- The text of each is read as the other. -/
theorem neighbour_kept : neighbour.kept? = some double ∧ double.kept? = some neighbour := by decide +kernel

/-- Metadata with a number that a writer has set. -/
theorem proper_account {m : ObjectMeta} {n : JsonNumber} (proper : m.Proper 1) (held : (Json.number n).Held) :
    ObjectMeta.Proper 1 { m with managedFields := some [account (.number n)] } := by
  refine ⟨proper.created, proper.deleted, proper.grace, proper.generation, ?_⟩
  rintro l ⟨⟩ f mem
  obtain rfl := List.mem_singleton.mp mem
  refine ⟨?_, nofun, ?_, ?_⟩
  · rintro j ⟨⟩
    exact held
  · rintro j ⟨⟩
    simp only [Json.depth]
    decide
  · rintro t ⟨⟩
    decide

/-- It is read with what is kept of the number. -/
theorem read_account {m : ObjectMeta} {n again : JsonNumber} (proper : m.Proper 1) (held : (Json.number n).Held)
    (kept : n.kept? = some again) :
    ObjectMeta.fromJson? 1 ({ m with managedFields := some [account (.number n)] } : ObjectMeta).toJson =
      some { m with managedFields := some [account (.number again)] } := by
  have sound := (proper_account proper held).sound
  have writer := sound.managers _ rfl (account (.number n)) (List.mem_singleton.mpr rfl)
  have number : (Json.number n).kept? = some (.number again) := congrArg (Option.map Json.number) kept
  have fields := FieldManager.lastOf_fields writer fun j set => by
    cases set
    exact Option.isSome_iff_exists.mpr ⟨_, number⟩
  have read : FieldManager.fromJson? 3 (account (.number n)).toJson = some (account (.number again)) := by
    refine (FieldManager.fromJson?_toJson_of writer fields).trans ?_
    show some ({ account (.number n) with fields := (Json.number n).kept? } : FieldManager) = _
    rw [number]
    rfl
  have mem : ("managedFields", some (.array [(account (.number n)).toJson])) ∈
      ObjectMeta.given { m with managedFields := some [account (.number n)] } := by simp [ObjectMeta.given]
  have stands := under_written (ObjectMeta.distinct_given _) mem
  have list : list? (FieldManager.fromJson? 3) (.array [(account (.number n)).toJson]) =
      some [account (.number again)] := by
    simp [list?, read]
  exact ObjectMeta.fromJson?_object_iff.mpr
    (ObjectMeta.read_written_of sound ((lastOf_of_single stands).trans (congrArg (Option.map some) list)))

theorem held_neighbour : (Json.number neighbour).Held :=
  held_of_kept? (.number double) (congrArg (Option.map Json.number) neighbour_kept.2)

theorem held_double : (Json.number double).Held :=
  held_of_kept? (.number neighbour) (congrArg (Option.map Json.number) neighbour_kept.1)

theorem proper_lingering : Pass.lingering.metadata.Proper 1 := by
  obtain ⟨created, deleted, grace, generation, -⟩ := sound_lingering
  exact ⟨created, deleted, grace, generation, nofun⟩

/-- A server with the interface, read from whose document the number is `neighbour`. -/
def accountedServer : DocumentServer :=
  ⟨(∅ : Table String HeldDocument).insert (ClusterStore.interfacePath "nic-a")
    (.ofInterface (accounted double) (proper_account proper_lingering held_double).sound)⟩

/-- A pass ends once the link of an interface that is to go is torn down. -/
def endingSettings : Settings := { Pass.departingSettings with endAfterTearDown := true }

theorem reads_accounted : NetworkInterface.fromJson? (accounted double).toJson = some (accounted neighbour) :=
  NetworkInterface.fromJson?_toJson_of (read_account proper_lingering held_double neighbour_kept.2)

/-- The finalizer is taken off the interface on the server, and the other double is left. -/
theorem accountedServer_after :
    let there := (ObjectStore.cluster DocumentServer.server.recorded).reconcile World.outside endingSettings
      Pass.departingKey ((accountedServer, []), Pass.lingeringWorld.links, Pass.lingeringWorld.machine)
    there.1 = .ok .done ∧ ∃ d other,
      DocumentServer.server.document there.2.1.1 (ClusterStore.interfacePath "nic-a") = some d ∧
        NetworkInterface.fromJson? d = some other ∧ other.metadata.managedFields = some [account (.number double)] := by
  intro there
  have valid : ValidName "nic-a" := ⟨by decide, by decide, by decide⟩
  have held : DocumentServer.server.document accountedServer (ClusterStore.interfacePath "nic-a") =
      some (accounted double).toJson := by
    rw [accountedServer, DocumentServer.document_insert, placed_self]
    rfl
  obtain ⟨r, carries, t, answered, kept⟩ := DocumentServer.lawful.read_found held
  have read (w : WorldLinks × MemoryInstance) : (ObjectStore.cluster DocumentServer.server.recorded).answer
      World.outside (.readInterface "nic-a") ((accountedServer, []), w) = _ := answer_readInterface valid answered [] w
  rw [ClusterStore.read_value carries reads_accounted] at read
  -- What is sent is what has been read, so it is read again.
  have proper : Pass.lingering.withoutFinalizer.metadata.Proper 1 := by
    obtain ⟨created, deleted, grace, generation, -⟩ := proper_lingering
    exact ⟨created, deleted, grace, generation, nofun⟩
  have sent : ObjectMeta.fromJson? 1 (accounted neighbour).withoutFinalizer.metadata.toJson =
      some (accounted double).withoutFinalizer.metadata := read_account proper held_neighbour neighbour_kept.1
  rw [← kept] at held
  obtain ⟨answer, new, carriesNew, makes, u, wrote, left⟩ := DocumentServer.lawful.write_current held
    (.replace (accounted neighbour).withoutFinalizer.toJson)
    (ApiWrite.proper_replace _ (proper_account proper held_neighbour).sound) (NetworkInterface.version?_toJson _)
  obtain ⟨number, readNew⟩ := makes.replaced (NetworkInterface.fromJson?_object_iff.mp reads_accounted) sent
  have released (log : Exchanges) (v : WorldLinks × MemoryInstance) :
      (ObjectStore.cluster DocumentServer.server.recorded).answer World.outside _ ((t, log), v) = _ :=
    answer_writeInterface rfl valid wrote log v
  rw [ClusterStore.read_value carriesNew readNew] at released
  obtain ⟨address, parsed⟩ : ∃ address, addressOf (accounted neighbour) = .ok address := ⟨_, rfl⟩
  obtain ⟨v, torn⟩ : ∃ v, World.outside (.tearDownLink "02:00:00:00:00:01" address)
      (Pass.lingeringWorld.links, Pass.lingeringWorld.machine) = (.ok (), v) := ⟨_, rfl⟩
  have ended : there = _ :=
    ObjectStore.reconcile_ended (read _) (Pass.phase_active rfl rfl parsed) torn (released _ v)
  -- Another finalizer is left, so the object stays.
  have stays : MemoryStore.isReleased (accounted neighbour).withoutFinalizer = false := rfl
  rw [makes.removes_replaced, stays, if_neg Bool.false_ne_true] at left
  rw [ended]
  refine ⟨rfl, new, _, ?_, readNew, rfl⟩
  rw [left, placed_self]

/-- The server may hold another double than the store in memory once the finalizer has been taken off, though they held
the same before. -/
theorem accounts_blurred :
    let s := MemoryStore.empty.put (accounted neighbour)
    let outside := (Pass.lingeringWorld.links, Pass.lingeringWorld.machine)
    let here := ObjectStore.memory.reconcile World.outside endingSettings Pass.departingKey (s, outside)
    let there := (ObjectStore.cluster DocumentServer.server.recorded).reconcile World.outside endingSettings
      Pass.departingKey ((accountedServer, []), outside)
    MemoryStore.empty.Reaches s ∧ s.pendingConflicts = 0 ∧
      (∀ nic, s.getInterface "nic-a" = some nic → ∀ name, nic.ownerNetwork? = some name → ValidName name) ∧
      DocumentServer.server.Lawful ∧ DocumentServer.server.Mirrors ∅ accountedServer s ∧
      here.1 = .ok .done ∧ there.1 = .ok .done ∧ ¬ DocumentServer.server.Mirrors ∅ there.2.1.1 here.2.1 := by
  have reached : MemoryStore.empty.Reaches (MemoryStore.empty.put (accounted neighbour)) :=
    .single (.put (accounted neighbour))
  have mirrors : DocumentServer.server.Mirrors ∅ accountedServer (MemoryStore.empty.put (accounted neighbour)) :=
    (mirrors_empty ∅).put rfl _ reads_accounted rfl
  obtain ⟨ended, d, other, stored, read, theirs⟩ := accountedServer_after
  have owner : ∀ nic, (MemoryStore.empty.put (accounted neighbour)).getInterface "nic-a" = some nic →
      ∀ name, nic.ownerNetwork? = some name → ValidName name := by
    rintro nic ⟨⟩ name ⟨⟩
    exact ⟨by decide, by decide, by decide⟩
  refine ⟨reached, rfl, owner, DocumentServer.lawful, mirrors, rfl, ended, fun after => ?_⟩
  have same := after.interface "nic-a" ⟨by decide, by decide, by decide⟩
  rw [stored] at same
  rcases same.cases with ⟨gone, -⟩ | ⟨d, nic, other, kept, present, again, alike⟩
  · cases gone
  · cases kept
    cases read.symm.trans again
    have ours : nic.metadata.managedFields = some [account (.number neighbour)] := by
      cases present
      rfl
    have writers := congrArg (fun nic => nic.metadata.managedFields) (alike.unversioned (Set.notMem_empty _))
    have differ := ours.symm.trans (writers.trans theirs)
    simp [account, double, neighbour] at differ

end ApiServer

end LinkKeeper
