import LinkKeeper.Proofs.Reconcile.Alone

/-!
Passes over a link that is in the declared state.

Such a pass asks for the name of the link, finds it recorded, and makes the two calls that are repeated
in every pass. It writes nothing, so the pass after it finds what it has found.

* `Pass.Settled`: what the store holds once a pass has given a link its routes.
* `Pass.settled_of_synced`: every pass that does so leaves such a store, also one that has let the
  interface go while another finalizer holds it.
* `Pass.Settled.pass`: a pass from such a store changes nothing.
* `Pass.converged_stays_converged`: nor do any number of passes.
-/

namespace LinkKeeper

open Net

/-- Whether the call is for a link. -/
def Call.toLink : Call → Bool
  | .tearDownLink _ _ | .linkName _ | .configureLink _ _ | .syncRoutes _ _ => true
  | _ => false

namespace Pass

/-- The calls for links, in order. -/
def linkCalls (events : List Event) : List Call := (events.map Sigma.fst).filter Call.toLink

/-- The links and the metadata service answer as they did when they were asked the same before. -/
def KeepAnswering (earlier later : List Event) : Prop :=
  ∀ (c : Call) (before now : c.Answer), c.toStore = false →
    ⟨c, before⟩ ∈ earlier → ⟨c, now⟩ ∈ later → now = before

/-- Recorded links keep answering. -/
theorem keepAnswering_of_alike {settings : Settings} {key : ObjectKey} {w v : World} (alike : w.Alike v) :
    KeepAnswering (w.trace settings key) (v.trace settings key) := by
  intro c before now outside earlier later
  obtain ⟨r, -, recorded, -⟩ := alike.links
  rw [alike.of_mem_trace outside later, (World.Alike.refl recorded).of_mem_trace outside earlier]

/-- What there is to tell of a pass: its calls with their answers, its result, and the stores that it
has found and left. -/
structure Record where
  events : List Event
  result : Except KeeperError Outcome
  before : MemoryStore
  after : MemoryStore

/-- Passes over one interface, one after the other, with nobody else at work. -/
inductive Succession (settings : Settings) (key : ObjectKey) : MemoryStore → List Record → Prop where
  | nil {s : MemoryStore} : Succession settings key s []
  | cons {events : List Event} {result : Except KeeperError Outcome} {s t : MemoryStore}
      {later : List Record} (pass : Alone settings key s events result t)
      (onward : Succession settings key t later) :
      Succession settings key s (⟨events, result, s, t⟩ :: later)

/-! ### Links in the declared state -/

/-- What is declared of a link, with the name that it has on the host. -/
structure Wiring where
  mac : String
  address : Network
  name : String
  routes : List Route

/-- The calls for a link that is in the declared state. -/
def Wiring.calls (l : Wiring) : List Call :=
  [.linkName l.mac, .configureLink l.mac l.address, .syncRoutes l.mac l.routes]

/-- The link is found on the host and lets itself be configured. -/
structure Confirmed (l : Wiring) (events : List Event) : Prop where
  attached : ∃ document, ⟨.readMetadata, .ok document⟩ ∈ events ∧ document.hasInterface l.mac = true
  resolved : ⟨.linkName l.mac, .ok l.name⟩ ∈ events
  configured : ⟨.configureLink l.mac l.address, .ok ()⟩ ∈ events
  synced : ⟨.syncRoutes l.mac l.routes, .ok ()⟩ ∈ events

/-- The store holds an interface of this node that stays and declares the link, with its name recorded. -/
structure Settled (settings : Settings) (key : ObjectKey) (l : Wiring) (s : MemoryStore)
    (nic : NetworkInterface) : Prop where
  present : s.getInterface key.name = some nic
  here : nic.spec.nodeName = settings.nodeName
  known : nic.macAddress? = some l.mac
  parsed : addressOf nic = .ok l.address
  stays : Phase.releases nic = false
  recorded : nic.linkName? = some l.name
  declared : ∃ owner network, nic.ownerNetwork? = some owner ∧ s.getNetwork owner = some network ∧
    desiredRoutes network = .ok l.routes

/-- What a pass does over a link in the declared state: it makes the calls for it and no others, writes
nothing and leaves the store as it was. -/
structure Idles (l : Wiring) (s : MemoryStore) (pass : Record) : Prop where
  done : pass.result = .ok .done
  before : pass.before = s
  after : pass.after = s
  noWrite : ∀ event ∈ pass.events, event.1.isWrite = false
  calls : linkCalls pass.events = l.calls

section Settling

variable {settings : Settings} {key : ObjectKey} {mac : String} {address : Network}
  {nic : NetworkInterface} {st : PassState} {s t : MemoryStore} {events first : List Event}
  {r : Except KeeperError Outcome} {l : Wiring}

theorem Confirmed.mono (confirmed : Confirmed l events) (more : ∀ event ∈ events, event ∈ first) :
    Confirmed l first := by
  obtain ⟨⟨document, read, attached⟩, resolved, configured, synced⟩ := confirmed
  exact ⟨⟨document, more _ read, attached⟩, more _ resolved, more _ configured, more _ synced⟩

/-- Once the steps that bring a link into the declared state are done, the store is settled. -/
theorem settled_of_convergence (convergence : Convergence mac address st s events (.ok .done) t)
    (holds : Holds key.name s st) (here : st.nic.spec.nodeName = settings.nodeName)
    (known : st.nic.macAddress? = some mac) (parsed : addressOf st.nic = .ok address)
    (stays : Phase.releases st.nic = false) (resolves : ∀ name, ⟨.linkName mac, .ok name⟩ ∈ events → name ≠ "") :
    ∃ name routes now, linkCalls events = Wiring.calls ⟨mac, address, name, routes⟩ ∧
      Confirmed ⟨mac, address, name, routes⟩ events ∧
        Settled settings key ⟨mac, address, name, routes⟩ t now := by
  cases convergence with
  | @connected document name owner written now network routes _ attached recording owned found declared =>
      obtain ⟨⟨-, keeps, -, -⟩, same, rewritten⟩ := recording.stored holds
      have recorded : now.linkName? = some name :=
        (NetworkInterface.linkName?_of_unversioned same).trans
          (NetworkInterface.linkName?_withLinkName (resolves name (by simp)))
      have kept : Phase.releases now = false :=
        (NetworkInterface.releases_of_unversioned same).trans
          ((NetworkInterface.releases_withLinkName _ _).trans stays)
      refine ⟨name, routes, now, ?_, ⟨⟨document, by simp, attached⟩, by simp, by simp, by simp⟩, ?_⟩
      · cases recording with
        | kept => rfl
        | written => rfl
      · exact
          { present := rewritten.now
            here := by rw [keeps.spec, here]
            known := by rw [keeps.macAddress?, known]
            parsed := by rw [keeps.address, parsed]
            stays := kept
            recorded := recorded
            declared := ⟨owner, network, owned, found, declared⟩ }

/-- A pass that has given a link its routes leaves a settled store. Before that it has torn the link down
if the interface was to be let go. -/
theorem settled_of_synced (consistent : s.Consistent) (pass : Alone settings key s events (.ok .done) t)
    (synced : ∃ mac routes answer, ⟨.syncRoutes mac routes, answer⟩ ∈ events)
    (resolves : ∀ mac name, ⟨.linkName mac, .ok name⟩ ∈ events → name ≠ "") :
    ∃ nic l now, s.getInterface key.name = some nic ∧
      linkCalls events =
        (if Phase.releases nic then [.tearDownLink l.mac l.address] else []) ++ l.calls ∧
      Confirmed l events ∧ Settled settings key l t now := by
  obtain ⟨other, given, answer, mem⟩ := synced
  cases pass.account with
  | absent | foreign => simp at mem
  | @working nic mac address rest _ _ present here known parsed working =>
      cases working with
      | ended => simp at mem
      | converging stays convergence =>
          obtain ⟨name, routes, now, calls, confirmed, settled⟩ :=
            settled_of_convergence convergence (.of_read consistent present) here known parsed stays
              fun name mem => resolves mac name (List.mem_cons_of_mem _ mem)
          refine ⟨nic, ⟨mac, address, name, routes⟩, now, present, ?_,
            confirmed.mono fun _ => List.mem_cons_of_mem _, settled⟩
          rw [if_neg (by simp [stays]), List.nil_append, ← calls]
          rfl
      | @released written _ _ later _ releases long accepted convergence =>
          obtain ⟨holds, keeps, same, -⟩ := Holds.of_release consistent present releases accepted
          have stays : Phase.releases written = false :=
            (NetworkInterface.releases_of_unversioned same).trans
              (NetworkInterface.releases_withoutFinalizer nic)
          obtain ⟨name, routes, now, calls, confirmed, settled⟩ :=
            settled_of_convergence convergence holds (by rw [keeps.spec, here])
              (by rw [keeps.macAddress?, known]) (by rw [keeps.address, parsed]) stays
              fun name mem => resolves mac name (List.mem_append_right [_, _, _] mem)
          refine ⟨nic, ⟨mac, address, name, routes⟩, now, present, ?_,
            confirmed.mono fun _ => List.mem_append_right [_, _, _], settled⟩
          rw [if_pos releases, List.singleton_append, ← calls]
          rfl

/-- From a settled store a pass comes to nothing new. -/
theorem Settled.pass {now : NetworkInterface} (settled : Settled settings key l s now)
    (confirmed : Confirmed l first) (steady : KeepAnswering first events)
    (pass : Alone settings key s events r t) : Idles l s ⟨events, r, s, t⟩ := by
  obtain ⟨present, here, known, parsed, stays, recorded, owner, network, owned, found, declared⟩ := settled
  obtain ⟨⟨document, read, attached⟩, resolved, configured, synced⟩ := confirmed
  have documented : ∀ answer, ⟨.readMetadata, answer⟩ ∈ events → answer = .ok document :=
    fun answer mem => steady .readMetadata _ answer rfl read mem
  have named : ∀ answer, ⟨.linkName l.mac, answer⟩ ∈ events → answer = .ok l.name :=
    fun answer mem => steady (.linkName l.mac) _ answer rfl resolved mem
  have addressed : ∀ answer, ⟨.configureLink l.mac l.address, answer⟩ ∈ events → answer = .ok () :=
    fun answer mem => steady (.configureLink l.mac l.address) _ answer rfl configured mem
  have routed : ∀ answer, ⟨.syncRoutes l.mac l.routes, answer⟩ ∈ events → answer = .ok () :=
    fun answer mem => steady (.syncRoutes l.mac l.routes) _ answer rfl synced mem
  obtain ⟨rest, rfl, working⟩ := pass.working present here known parsed
  cases working with
  | untorn releases | unreleased releases | ended releases | released releases =>
      rw [stays] at releases
      cases releases
  | converging _ convergence =>
      cases convergence with
      | @unverified answer e unattached =>
          rw [unattached document (documented answer (by simp))] at attached
          cases attached
      | @unresolved _ cause => cases named (.error cause) (by simp)
      | @unrecorded _ name cause _ _ unwritten =>
          cases named (.ok name) (by simp)
          exact (not_unwritten recorded unwritten).elim
      | @unconnected _ name written later _ _ _ _ recording obstructed =>
          cases named (.ok name) (by simp)
          cases recording with
          | written unwritten => exact (not_unwritten recorded unwritten).elim
          | kept =>
              rcases obstructed with ⟨cause, failed⟩ | unrouted
              · cases addressed (.error cause) (by simp [failed])
              · obtain ⟨cause, failed⟩ := unrouted owner network l.routes owned found declared
                cases routed (.error cause) (by simp [failed])
      | @connected _ name own _ _ there routes _ _ recording owns stored reads =>
          cases named (.ok name) (by simp)
          cases recording with
          | written unwritten => exact (not_unwritten recorded unwritten).elim
          | kept =>
              obtain rfl : own = owner := Option.some.inj (owns.symm.trans owned)
              obtain rfl : there = network := Option.some.inj (stored.symm.trans found)
              obtain rfl : routes = l.routes := Except.ok.inj (reads.symm.trans declared)
              exact ⟨rfl, rfl, rfl, by simp [Call.isWrite], rfl⟩

/-- Nor do any number of passes. -/
theorem Settled.passes {now : NetworkInterface} {passes : List Record}
    (settled : Settled settings key l s now) (confirmed : Confirmed l first)
    (succession : Succession settings key s passes)
    (steady : ∀ pass ∈ passes, KeepAnswering first pass.events) : ∀ pass ∈ passes, Idles l s pass := by
  induction succession with
  | nil => simp
  | @cons _ _ s t _ pass _ ih =>
      have idles := settled.pass confirmed (steady _ List.mem_cons_self) pass
      obtain rfl : t = s := idles.after
      intro other mem
      rcases List.mem_cons.mp mem with rfl | mem
      · exact idles
      · exact ih settled (fun pass mem => steady pass (List.mem_cons_of_mem _ mem)) other mem

end Settling

/-! ### Passes after it -/

/-- An interface that is to go, but that somebody else holds too. -/
def lingering : NetworkInterface :=
  { departing with
    metadata.finalizers := some [interfaceFinalizer, "example.com/lease"]
    metadata.ownerReferences := some [⟨apiVersion, networkKind, "net-a", "1", none, none⟩] }

/-- The network that it belongs to. -/
def lingeringNetwork : PrivateNetwork :=
  ⟨{ ObjectMeta.blank with name := some "net-a" }, ⟨none, [⟨"10.0.0.0/8", "192.168.0.1"⟩]⟩⟩

/-- The node of the interface, on which everything works. -/
def lingeringWorld : World :=
  { departingWorld with store := (MemoryStore.empty.putNetwork lingeringNetwork).put lingering }

/-- The node after a pass. -/
def lingeringAfter (w : World) : World := (w.reconcile departingSettings departingKey).2

/-- What there is to tell of the pass in a world. -/
def recordOf (settings : Settings) (key : ObjectKey) (w : World) : Record :=
  ⟨w.trace settings key, (w.reconcile settings key).1, w.store, (w.reconcile settings key).2.store⟩

/-- When a pass has given a link its routes, every pass after it makes the same calls for the link but
for a tear-down, writes nothing and leaves the store as it is, as long as nobody else is at work and the
links and the metadata service keep answering. -/
theorem converged_stays_converged {settings : Settings} {key : ObjectKey} {s t : MemoryStore}
    {first : List Event} {passes : List Record} (reached : MemoryStore.empty.Reaches s)
    (pass : Alone settings key s first (.ok .done) t)
    (synced : ∃ mac routes answer, ⟨.syncRoutes mac routes, answer⟩ ∈ first)
    (resolves : ∀ mac name, ⟨.linkName mac, .ok name⟩ ∈ first → name ≠ "")
    (succession : Succession settings key t passes)
    (steady : ∀ later ∈ passes, KeepAnswering first later.events) :
    ∃ nic l, s.getInterface key.name = some nic ∧
      linkCalls first = (if Phase.releases nic then [.tearDownLink l.mac l.address] else []) ++ l.calls ∧
      ∀ later ∈ passes, Idles l t later := by
  have consistent := reached.consistent MemoryStore.consistent_empty
  obtain ⟨nic, l, now, present, calls, confirmed, settled⟩ := settled_of_synced consistent pass synced resolves
  exact ⟨nic, l, present, calls, settled.passes confirmed succession steady⟩

set_option maxRecDepth 8000 in
theorem lingering_stays_converged :
    let first := recordOf departingSettings departingKey lingeringWorld
    let second := recordOf departingSettings departingKey (lingeringAfter lingeringWorld)
    let third := recordOf departingSettings departingKey (lingeringAfter (lingeringAfter lingeringWorld))
    ∃ l, linkCalls first.events = .tearDownLink l.mac l.address :: l.calls ∧
      Idles l first.after second ∧ Idles l first.after third := by
  intro first second third
  have reached : MemoryStore.empty.Reaches lingeringWorld.store :=
    .step (.single (.putNetwork lingeringNetwork)) (.put lingering)
  have pass : Alone departingSettings departingKey lingeringWorld.store first.events (.ok .done) first.after :=
    lingeringWorld.alone departingSettings departingKey
  have succession : Succession departingSettings departingKey first.after [second, third] :=
    .cons (World.alone _ _ _) (.cons (World.alone _ _ _) .nil)
  have resolves : ∀ mac name, ⟨.linkName mac, .ok name⟩ ∈ first.events → name ≠ "" := by
    intro mac name mem
    have answered : Except.ok name = (World.answer (.linkName mac) lingeringWorld).1 :=
      (World.Alike.refl rfl).of_mem_trace rfl mem
    rw [RecordedLinks.eq_of_lookup_single (World.lookup_of_linkName rfl answered.symm)]
    decide
  have onceMore : lingeringWorld.Alike (lingeringAfter lingeringWorld) := World.alike_run rfl _
  have again : lingeringWorld.Alike (lingeringAfter (lingeringAfter lingeringWorld)) :=
    onceMore.trans (World.alike_run rfl _)
  have steady : ∀ later ∈ [second, third], KeepAnswering first.events later.events := by
    simp only [List.mem_cons, List.not_mem_nil, or_false, forall_eq_or_imp, forall_eq]
    exact ⟨keepAnswering_of_alike onceMore, keepAnswering_of_alike again⟩
  obtain ⟨nic, l, present, calls, idles⟩ := converged_stays_converged reached pass
    ⟨_, _, _, List.mem_of_getElem? (i := 8) rfl⟩ resolves succession steady
  have found : lingeringWorld.store.getInterface "nic-a" = some (lingering.atVersion "2") := rfl
  cases present.symm.trans found
  exact ⟨l, calls, idles second (by simp), idles third (by simp)⟩

end Pass

end LinkKeeper
