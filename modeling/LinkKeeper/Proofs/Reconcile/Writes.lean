import LinkKeeper.Proofs.Reconcile.Interference

/-!
What a pass writes while other writers are at work.

A pass writes back copies that it has read before. That it overwrites nothing of what others have
written is due to the versions: a write is accepted only while the copy is still what is stored.

* `Moment.Lawful`: the four things that a call of a pass can amount to.
* `Pass.moments_lawful`: every call of every pass amounts to one of them.
* `Pass.calls_confined`: so a pass leaves alone what is not its own.
-/

namespace LinkKeeper

open Net

/-- The interface at another version. -/
def NetworkInterface.atVersion (nic : NetworkInterface) (version : String) : NetworkInterface :=
  { nic with metadata := nic.metadata.atVersion version }

namespace Moment

/-- A write that is not accepted: another writer was faster or has removed the object. The stored
objects stay as they are. -/
structure Refused (key : ObjectKey) (m : Moment) : Prop where
  answer : ∃ nic e, (m.event = ⟨.writeInterface nic, .error e⟩ ∨ m.event = ⟨.writeStatus nic, .error e⟩) ∧
    (e = .conflict interfaceKind key.name ∨ e = .notFound interfaceKind key.name)
  interfaces : m.after.interfaces = m.before.interfaces
  networks : m.after.networks = m.before.networks

/-- The link of the interface has been torn down. -/
def TornDown (past : List Moment) (nic : NetworkInterface) : Prop :=
  ∃ mac address, nic.macAddress? = some mac ∧ addressOf nic = .ok address ∧
    ∃ m ∈ past, m.event = ⟨.tearDownLink mac address, .ok ()⟩

/-- The interface is as it was but for its version and the finalizer: every occurrence of that is gone, and all other
finalizers are there in their order. -/
structure Unheld (stored written : NetworkInterface) (version : String) : Prop where
  finalizers : written.metadata.finalizers =
    stored.metadata.finalizers.map (·.filter (· ≠ interfaceFinalizer))
  version : written.metadata.resourceVersion = some version
  metadata : { written.metadata with finalizers := none, resourceVersion := none } =
    { stored.metadata with finalizers := none, resourceVersion := none }
  spec : written.spec = stored.spec
  status : written.status = stored.status

/-- The interface is as it was but for its version and the name of its link. -/
structure Named (stored written : NetworkInterface) (name version : String) : Prop where
  linkName : written.status.bind InterfaceStatus.linkName = some name
  macAddress : written.status.bind InterfaceStatus.macAddress = stored.status.bind InterfaceStatus.macAddress
  version : written.metadata.resourceVersion = some version
  metadata : { written.metadata with resourceVersion := none } = { stored.metadata with resourceVersion := none }
  spec : written.spec = stored.spec

/-- The finalizer is taken off the stored interface, whose link has been torn down. The interface goes if it has no
other one. -/
structure Releases (settings : Settings) (key : ObjectKey) (past : List Moment) (m : Moment)
    (stored written : NetworkInterface) : Prop where
  present : m.before.interfaces.get? key.name = some stored
  here : stored.spec.nodeName = settings.nodeName
  terminating : stored.isTerminating = true
  tornDown : TornDown past stored
  unheld : Unheld stored written m.before.nextVersion
  answer : ∃ nic, m.event = ⟨.writeInterface nic, .ok written⟩
  interfaces : m.after.interfaces =
    if (written.metadata.finalizers.getD []).isEmpty then m.before.interfaces.erase key.name
    else m.before.interfaces.insert key.name written
  networks : m.after.networks = m.before.networks

/-- The name of the link is recorded in the stored interface. -/
structure Records (settings : Settings) (key : ObjectKey) (past : List Moment) (m : Moment)
    (stored written : NetworkInterface) (name : String) : Prop where
  present : m.before.interfaces.get? key.name = some stored
  here : stored.spec.nodeName = settings.nodeName
  resolved : ∃ mac, ∃ r ∈ past, r.event = ⟨.linkName mac, .ok name⟩
  named : Named stored written name m.before.nextVersion
  answer : ∃ nic, m.event = ⟨.writeStatus nic, .ok written⟩
  interfaces : m.after.interfaces = m.before.interfaces.insert key.name written
  networks : m.after.networks = m.before.networks

/-- What a call of a pass over the interface with the key amounts to. -/
inductive Lawful (settings : Settings) (key : ObjectKey) (past : List Moment) (m : Moment) : Prop where
  | idle (noWrite : m.call.isWrite = false) (same : m.after = m.before)
  | refused (refusal : m.Refused key)
  | releases {stored written : NetworkInterface} (release : m.Releases settings key past stored written)
  | records {stored written : NetworkInterface} {name : String}
      (record : m.Records settings key past stored written name)

end Moment

namespace Pass

/-! ### The copy that a pass holds -/

/-- The copy is of the interface with the key, is right, and is of this node. -/
structure Owns (settings : Settings) (key : ObjectKey) (s : MemoryStore) (nic : NetworkInterface) :
    Prop where
  handedOut : s.HandedOut nic
  named : nic.metadata.name = some key.name
  here : nic.spec.nodeName = settings.nodeName

section Copies

variable {settings : Settings} {key : ObjectKey} {s t : MemoryStore} {copy : NetworkInterface}
  {past : List Moment}

theorem Owns.reaches (owns : Owns settings key s copy) (consistent : s.Consistent) (others : s.Reaches t) :
    Owns settings key t copy :=
  ⟨owns.handedOut.reaches consistent others, owns.named, owns.here⟩

theorem refused_objects (s : MemoryStore) (nic : NetworkInterface) (w : StoreWrite) :
    ((s.noted w).refused nic).interfaces = s.interfaces ∧
      ((s.noted w).refused nic).networks = s.networks := by
  unfold MemoryStore.refused
  split
  · exact ⟨rfl, rfl⟩
  · exact ⟨rfl, rfl⟩

/-- A write of a copy is refused for want of the object or for its version. -/
theorem refusal_cases {nic : NetworkInterface} {e : StoreError} (named : nic.metadata.name = some key.name)
    (refusal : s.target nic = .error e) :
    e = .conflict interfaceKind key.name ∨ e = .notFound interfaceKind key.name := by
  rcases MemoryStore.target_error refusal with ⟨unnamed, -⟩ | ⟨name, own, cause⟩
  · rw [named] at unnamed
    cases unnamed
  · rw [named] at own
    cases own
    exact cause

theorem refused_of_target {m : Moment} {nic : NetworkInterface} {e : StoreError} {w : StoreWrite}
    (named : nic.metadata.name = some key.name) (refusal : m.before.target nic = .error e)
    (event : m.event = ⟨.writeInterface nic, .error e⟩ ∨ m.event = ⟨.writeStatus nic, .error e⟩)
    (after : m.after = (m.before.noted w).refused nic) : m.Refused key := by
  obtain ⟨interfaces, networks⟩ := refused_objects m.before nic w
  rw [← after] at interfaces networks
  exact ⟨⟨nic, e, event, refusal_cases named refusal⟩, interfaces, networks⟩

/-- What taking the finalizer off a copy does. -/
theorem lawful_writeInterface {answer : Except StoreError NetworkInterface} (consistent : s.Consistent)
    (owns : Owns settings key s copy) (terminating : copy.isTerminating = true)
    (tornDown : Moment.TornDown past copy)
    (answered : Answered (.writeInterface copy.withoutFinalizer) answer s t) :
    Moment.Lawful settings key past ⟨.writeInterface copy.withoutFinalizer, answer, s, t⟩ ∧
      ∀ written, answer = .ok written → Owns settings key t written := by
  obtain ⟨rfl, rfl⟩ := answered
  have named : copy.withoutFinalizer.metadata.name = some key.name := owns.named
  cases outcome : s.target copy.withoutFinalizer with
  | error e =>
      rw [MemoryStore.update_of_refused outcome]
      refine ⟨.refused (refused_of_target named outcome (.inl rfl) rfl), ?_⟩
      intro written same
      cases same
  | ok found =>
      obtain ⟨name, stored⟩ := found
      obtain ⟨own, -, present, -⟩ := MemoryStore.target_eq_ok_iff.mp outcome
      obtain rfl : name = key.name := Option.some.inj (own.symm.trans named)
      obtain rfl : stored = copy := owns.handedOut.eq_of_target rfl outcome
      have handedOut := MemoryStore.handedOut_update consistent outcome
      rw [MemoryStore.update_of_target outcome] at handedOut ⊢
      refine ⟨.releases
        (?_ : Moment.Releases settings key past _ stored (s.updated stored.withoutFinalizer stored)), ?_⟩
      · have released : MemoryStore.isReleased (s.updated stored.withoutFinalizer stored) =
            (stored.withoutFinalizer.metadata.finalizers.getD []).isEmpty := by
          have kept : (s.updated stored.withoutFinalizer stored).isTerminating = true := terminating
          unfold MemoryStore.isReleased
          rw [kept, Bool.true_and]
          rfl
        refine ⟨present, owns.here, terminating, tornDown, ⟨rfl, rfl, rfl, rfl, rfl⟩, ⟨_, rfl⟩, ?_, rfl⟩
        rw [released]
        rfl
      · intro written same
        cases same
        exact ⟨handedOut, named, owns.here⟩

/-- What recording the name of the link in a copy does. -/
theorem lawful_writeStatus {name : String} {answer : Except StoreError NetworkInterface}
    (consistent : s.Consistent) (owns : Owns settings key s copy)
    (resolved : ∃ mac, ∃ r ∈ past, r.event = ⟨.linkName mac, .ok name⟩)
    (answered : Answered (.writeStatus (copy.withLinkName name)) answer s t) :
    Moment.Lawful settings key past ⟨.writeStatus (copy.withLinkName name), answer, s, t⟩ ∧
      ∀ written, answer = .ok written → Owns settings key t written := by
  obtain ⟨rfl, rfl⟩ := answered
  have named : (copy.withLinkName name).metadata.name = some key.name := owns.named
  cases outcome : s.target (copy.withLinkName name) with
  | error e =>
      rw [MemoryStore.updateStatus_of_refused outcome]
      refine ⟨.refused (refused_of_target named outcome (.inr rfl) rfl), ?_⟩
      intro written same
      cases same
  | ok found =>
      obtain ⟨under, stored⟩ := found
      obtain ⟨own, -, present, -⟩ := MemoryStore.target_eq_ok_iff.mp outcome
      obtain rfl : under = key.name := Option.some.inj (own.symm.trans named)
      obtain rfl : stored = copy := owns.handedOut.eq_of_target rfl outcome
      have handedOut := MemoryStore.handedOut_updateStatus consistent outcome
      rw [MemoryStore.updateStatus_of_target outcome] at handedOut ⊢
      refine ⟨.records
        (?_ : Moment.Records settings key past _ stored (s.statusUpdated (stored.withLinkName name) stored) name), ?_⟩
      · have status : (s.statusUpdated (stored.withLinkName name) stored).status =
            some ⟨stored.status.bind InterfaceStatus.macAddress, some name⟩ := stored.status_withLinkName name
        refine ⟨present, owns.here, resolved, ⟨?_, ?_, rfl, rfl, rfl⟩, ⟨_, rfl⟩, rfl, rfl⟩
        · rw [status, Option.bind_some]
        · rw [status, Option.bind_some]
      · intro written same
        cases same
        exact ⟨handedOut, named, owns.here⟩

end Copies

/-! ### Step by step -/

section Steps

variable {settings : Settings} {key : ObjectKey} {mac : String} {address : Network} {st : PassState}
  {past : List Moment} {s : MemoryStore}

/-- A call that does not write is lawful. -/
theorem lawful_idle {c : Call} {post : List Moment → c.Answer → MemoryStore → Prop}
    (idle : c.isWrite = false)
    (ended : s.Consistent → ∀ answer u, Answered c answer s s → s.Reaches u →
      post (past ++ [⟨c, answer, s, s⟩]) answer u) :
    Upholds (Moment.Lawful settings key) post (Program.query c) past s := by
  refine upholds_idle idle fun consistent answer answered => ⟨.idle idle rfl, ?_⟩
  exact fun u others => ended consistent answer u answered others

/-- After the step the pass still holds a right copy. -/
abbrev Goes (settings : Settings) (key : ObjectKey) (x : PassProgram PassState) (past : List Moment)
    (s : MemoryStore) : Prop :=
  Ensures (Moment.Lawful settings key) (fun _ st u => Owns settings key u st.nic) x past s

theorem goes_verify (owns : Owns settings key s st.nic) :
    Goes settings key (step key mac address st .verifyAttached) past s := by
  refine ensures_bind (ensures_bind (ensures_call (lawful_idle rfl ?_)))
  intro consistent answer u _ others document _
  split
  · exact ensures_pure (ensures_pure (owns.reaches consistent others))
  · exact ensures_throw

theorem goes_configure (owns : Owns settings key s st.nic) :
    Goes settings key (step key mac address st .configureLink) past s := by
  refine ensures_bind (ensures_call (lawful_idle rfl ?_))
  intro consistent answer u _ others _ _
  exact ensures_pure (owns.reaches consistent others)

theorem goes_routes (owns : Owns settings key s st.nic) :
    Goes settings key (step key mac address st .syncRoutes) past s := by
  refine ensures_bind ?_
  unfold syncNetworkRoutes
  split
  · exact ensures_throw
  · refine ensures_bind (ensures_call (lawful_idle rfl ?_))
    intro consistent answer u _ others network _
    have owns := owns.reaches consistent others
    split
    · exact ensures_throw
    · split
      · exact ensures_throw
      · refine ensures_call (lawful_idle rfl ?_)
        intro consistent answer u _ others _ _
        exact ensures_pure (owns.reaches consistent others)

theorem goes_record (owns : Owns settings key s st.nic) :
    Goes settings key (step key mac address st .recordLinkName) past s := by
  refine ensures_bind (ensures_call (lawful_idle rfl ?_))
  intro consistent answer u _ others name resolved
  subst resolved
  have owns := owns.reaches consistent others
  split
  · exact ensures_pure owns
  · refine ensures_bind (ensures_call (upholds_query ?_))
    intro consistent answer t answered
    have known : ∃ m, ∃ r ∈ past ++ [⟨.linkName mac, .ok name, s, s⟩],
        r.event = ⟨.linkName m, .ok name⟩ :=
      ⟨mac, _, List.mem_append_right _ (List.mem_singleton.mpr rfl), rfl⟩
    obtain ⟨lawful, held⟩ := lawful_writeStatus consistent owns known answered
    refine ⟨lawful, fun u others written got => ensures_pure ?_⟩
    exact (held written got).reaches (answered.reaches.consistent consistent) others

/-- The steps that bring the link into the declared state. -/
theorem goes_converge (owns : Owns settings key s st.nic) :
    Goes settings key (steps key mac address st convergeSteps) past s := by
  refine ensures_bind ((goes_verify owns).mono fun _ _ _ owns => ?_)
  refine ensures_bind ((goes_record owns).mono fun _ _ _ owns => ?_)
  refine ensures_bind ((goes_configure owns).mono fun _ _ _ owns => ?_)
  exact ensures_bind ((goes_routes owns).mono fun _ _ _ owns => ensures_pure owns)

theorem ensures_tearDown (owns : Owns settings key s st.nic) (known : st.nic.macAddress? = some mac)
    (parsed : addressOf st.nic = .ok address) :
    Ensures (Moment.Lawful settings key)
      (fun past t u => t = st ∧ Owns settings key u st.nic ∧ Moment.TornDown past st.nic)
      (step key mac address st .tearDownLink) past s := by
  refine ensures_bind (ensures_call (lawful_idle rfl ?_))
  intro consistent answer u _ others _ torn
  subst torn
  refine ensures_pure ⟨rfl, owns.reaches consistent others, ?_⟩
  exact ⟨mac, address, known, parsed, _, List.mem_append_right _ (List.mem_singleton.mpr rfl), rfl⟩

theorem goes_releaseFinalizer (owns : Owns settings key s st.nic) (terminating : st.nic.isTerminating = true)
    (tornDown : Moment.TornDown past st.nic) :
    Goes settings key (step key mac address st .releaseFinalizer) past s := by
  refine ensures_bind (ensures_call (upholds_query ?_))
  intro consistent answer t answered
  obtain ⟨lawful, held⟩ := lawful_writeInterface consistent owns terminating tornDown answered
  refine ⟨lawful, fun u others written got => ensures_pure ?_⟩
  exact (held written got).reaches (answered.reaches.consistent consistent) others

/-- The steps before an interface can go. -/
theorem goes_release (owns : Owns settings key s st.nic) (known : st.nic.macAddress? = some mac)
    (parsed : addressOf st.nic = .ok address) (terminating : st.nic.isTerminating = true) :
    Goes settings key (steps key mac address st releaseSteps) past s := by
  refine ensures_bind ((ensures_tearDown owns known parsed).mono ?_)
  rintro _ _ _ ⟨rfl, owns, tornDown⟩
  exact ensures_bind ((goes_releaseFinalizer owns terminating tornDown).mono fun _ _ _ owns => ensures_pure owns)

/-- The steps that are planned for an interface. -/
theorem goes_planned {nic : NetworkInterface} (owns : Owns settings key s nic)
    (known : nic.macAddress? = some mac) (parsed : addressOf nic = .ok address) :
    Goes settings key (steps key mac address ⟨nic, false⟩ (Phase.steps settings nic)) past s := by
  unfold Phase.steps Phase.releases
  split
  · rename_i releases
    have terminating : nic.isTerminating = true := (Bool.and_eq_true_iff.mp releases).1
    have released : Goes settings key (steps key mac address ⟨nic, false⟩ releaseSteps) past s :=
      goes_release owns known parsed terminating
    rw [steps_append]
    refine ensures_bind (released.mono fun _ _ _ owns => ?_)
    split
    · exact ensures_pure owns
    · exact goes_converge owns
  · exact goes_converge owns

end Steps

/-! ### The whole pass -/

/-- Every call of a pass is lawful. -/
theorem upholds_reconcile (settings : Settings) (key : ObjectKey) (s : MemoryStore) :
    Ensures (Moment.Lawful settings key) (fun _ _ _ => True) (reconcile settings key) [] s := by
  refine ensures_reconcile (fun _ => .idle rfl rfl) ?_
  intro nic mac address u consistent present here known parsed others
  have found : Owns settings key s nic := ⟨consistent.handedOut present, consistent.named present, here⟩
  exact (goes_planned (found.reaches consistent others) known parsed).mono fun _ _ _ _ => trivial

/-- Every call of every pass is lawful, whatever other writers do meanwhile. -/
theorem moments_lawful {settings : Settings} {key : ObjectKey} {s : MemoryStore} {moments : List Moment}
    {result : Except KeeperError Outcome} (reached : MemoryStore.empty.Reaches s)
    (run : Interleaved (reconcile settings key).run s moments result) {earlier later : List Moment}
    {m : Moment} (split : moments = earlier ++ m :: later) : m.Lawful settings key earlier := by
  have consistent := reached.consistent MemoryStore.consistent_empty
  have lawful := ((upholds_reconcile settings key s).sound consistent run).1 earlier m later split
  rwa [List.nil_append] at lawful

end Pass

/-! ### What a pass leaves alone -/

namespace Moment

section Lawful

variable {settings : Settings} {key : ObjectKey} {past : List Moment} {m : Moment}

/-- What is found under a name is what was found there before, unless the interface has been written. -/
theorem Lawful.after_get? (lawful : m.Lawful settings key past) (name : String) :
    m.after.interfaces.get? name = m.before.interfaces.get? name ∨
      name = key.name ∧
        ((∃ stored written, m.Releases settings key past stored written ∧
            (m.after.interfaces.get? name = none ∨ m.after.interfaces.get? name = some written)) ∨
          ∃ stored written link, m.Records settings key past stored written link ∧
            m.after.interfaces.get? name = some written) := by
  cases lawful with
  | idle _ same => exact .inl (by rw [same])
  | refused refusal => exact .inl (by rw [refusal.interfaces])
  | @releases stored written release =>
      by_cases here : name = key.name
      · refine .inr ⟨here, .inl ⟨stored, written, release, ?_⟩⟩
        rw [release.interfaces, here]
        split
        · exact .inl (Table.get?_erase_self _ _)
        · exact .inr (Table.get?_insert_self _ _ _)
      · refine .inl ?_
        rw [release.interfaces]
        split
        · exact Table.get?_erase_of_ne _ here
        · exact Table.get?_insert_of_ne _ here _
  | @records stored written link record =>
      by_cases here : name = key.name
      · refine .inr ⟨here, .inr ⟨stored, written, link, record, ?_⟩⟩
        rw [record.interfaces, here]
        exact Table.get?_insert_self _ _ _
      · refine .inl ?_
        rw [record.interfaces]
        exact Table.get?_insert_of_ne _ here _

end Lawful

/-- The interface with all that a pass does not write. -/
structure Keeps (stored now : NetworkInterface) : Prop where
  spec : now.spec = stored.spec
  macAddress : now.status.bind InterfaceStatus.macAddress = stored.status.bind InterfaceStatus.macAddress
  metadata : { now.metadata with finalizers := none, resourceVersion := none } =
    { stored.metadata with finalizers := none, resourceVersion := none }

theorem keeps_withoutFinalizer (nic : NetworkInterface) (version : String) :
    Keeps nic (nic.withoutFinalizer.atVersion version) := ⟨rfl, rfl, rfl⟩

theorem keeps_withLinkName (nic : NetworkInterface) (name version : String) :
    Keeps nic ((nic.withLinkName name).atVersion version) := by
  refine ⟨rfl, ?_, rfl⟩
  have status : ((nic.withLinkName name).atVersion version).status =
      some ⟨nic.status.bind InterfaceStatus.macAddress, some name⟩ := nic.status_withLinkName name
  rw [status, Option.bind_some]

theorem Unheld.keeps {stored written : NetworkInterface} {version : String} (unheld : Unheld stored written version) :
    Keeps stored written where
  spec := unheld.spec
  macAddress := by rw [unheld.status]
  metadata := unheld.metadata

theorem Named.keeps {stored written : NetworkInterface} {name version : String}
    (named : Named stored written name version) : Keeps stored written where
  spec := named.spec
  macAddress := named.macAddress
  metadata := congrArg (fun m : ObjectMeta => { m with finalizers := none }) named.metadata

/-- How a call of a pass over the interface with the key leaves alone what is not its own. -/
structure Confined (settings : Settings) (key : ObjectKey) (past : List Moment) (m : Moment) : Prop where
  lawful : m.Lawful settings key past
  /-- The version of a write has not been given out before. -/
  fresh : ¬ m.before.Issued (some m.before.nextVersion)
  networks : m.after.networks = m.before.networks
  elsewhere : ∀ name, name ≠ key.name → m.after.interfaces.get? name = m.before.interfaces.get? name
  created : ∀ name, m.before.interfaces.get? name = none → m.after.interfaces.get? name = none
  kept : ∀ name stored now, m.before.interfaces.get? name = some stored →
    m.after.interfaces.get? name = some now → Keeps stored now
  /-- An interface that has been bound to another node is not written. -/
  foreign : ∀ stored, m.before.interfaces.get? key.name = some stored →
    stored.spec.nodeName ≠ settings.nodeName → m.call.isWrite = true → m.Refused key

section Confined

variable {settings : Settings} {key : ObjectKey} {past : List Moment} {m : Moment}

theorem Lawful.networks (lawful : m.Lawful settings key past) : m.after.networks = m.before.networks := by
  cases lawful with
  | idle _ same => rw [same]
  | refused refusal => exact refusal.networks
  | releases release => exact release.networks
  | records record => exact record.networks

theorem Lawful.kept {name : String} {stored now : NetworkInterface} (lawful : m.Lawful settings key past)
    (present : m.before.interfaces.get? name = some stored)
    (found : m.after.interfaces.get? name = some now) : Keeps stored now := by
  rcases lawful.after_get? name with
    same | ⟨rfl, ⟨old, written, release, gone | there⟩ | ⟨old, written, link, record, there⟩⟩
  · rw [same, present] at found
    cases found
    exact ⟨rfl, rfl, rfl⟩
  · rw [gone] at found
    cases found
  · rw [there] at found
    rw [release.present] at present
    cases found
    cases present
    exact release.unheld.keeps
  · rw [there] at found
    rw [record.present] at present
    cases found
    cases present
    exact record.named.keeps

theorem Lawful.refused_of_foreign {stored : NetworkInterface} (lawful : m.Lawful settings key past)
    (present : m.before.interfaces.get? key.name = some stored)
    (elsewhere : stored.spec.nodeName ≠ settings.nodeName) (writes : m.call.isWrite = true) :
    m.Refused key := by
  cases lawful with
  | idle noWrite =>
      rw [noWrite] at writes
      cases writes
  | refused refusal => exact refusal
  | releases release =>
      rw [release.present] at present
      cases present
      exact absurd release.here elsewhere
  | records record =>
      rw [record.present] at present
      cases present
      exact absurd record.here elsewhere

theorem Lawful.confined (lawful : m.Lawful settings key past) : m.Confined settings key past where
  lawful := lawful
  fresh := fun issued => issued.ne_of_lt (Nat.lt_succ_self _) rfl
  networks := lawful.networks
  elsewhere := by
    intro name other
    rcases lawful.after_get? name with same | ⟨here, -⟩
    · exact same
    · exact absurd here other
  created := by
    intro name absent
    rcases lawful.after_get? name with
      same | ⟨rfl, ⟨old, written, release, -⟩ | ⟨old, written, link, record, -⟩⟩
    · rw [same, absent]
    · rw [release.present] at absent
      cases absent
    · rw [record.present] at absent
      cases absent
  kept := fun _ _ _ => lawful.kept
  foreign := fun _ => lawful.refused_of_foreign

end Confined

end Moment

namespace Pass

/-- An interface that is to go. -/
def departing : NetworkInterface where
  metadata :=
    { ObjectMeta.blank with
      name := some "nic-a"
      finalizers := some [interfaceFinalizer]
      deletionTimestamp := some ⟨1970, 1, 1, 0, 0, 0⟩ }
  spec := ⟨"node-a", "192.168.0.10/24"⟩
  status := some ⟨some "02:00:00:00:00:01", none⟩

def departingKey : ObjectKey := ⟨"nic-a", ""⟩

def departingSettings : Settings := ⟨"node-a", .ofSeconds 1, false⟩

/-- The node of the interface, on which everything works. -/
def departingWorld : World :=
  ⟨MemoryStore.empty.put departing, .recorded (.ofList [("02:00:00:00:00:01", "eth1")]),
    .ofAddresses ["02:00:00:00:00:01"]⟩

/-- A pass overwrites nothing of what others have written: each of its calls changes the stored
interface in one way or not at all. -/
theorem calls_confined {settings : Settings} {key : ObjectKey} {s : MemoryStore} {moments : List Moment}
    {result : Except KeeperError Outcome} (reached : MemoryStore.empty.Reaches s)
    (run : Interleaved (reconcile settings key).run s moments result) {earlier later : List Moment}
    {m : Moment} (split : moments = earlier ++ m :: later) : m.Confined settings key earlier :=
  (moments_lawful reached run split).confined

set_option maxRecDepth 8000 in
theorem departing_calls_confined :
    ∃ earlier m later,
      World.moments (reconcile departingSettings departingKey).run departingWorld = earlier ++ m :: later ∧
        m.call.isWrite = true ∧ m.Confined departingSettings departingKey earlier := by
  refine ⟨(World.moments (reconcile departingSettings departingKey).run departingWorld).take 2, _,
    (World.moments (reconcile departingSettings departingKey).run departingWorld).drop 3, rfl, rfl, ?_⟩
  exact calls_confined (.single (.put departing)) (World.interleaved _ departingWorld) rfl

end Pass

end LinkKeeper
