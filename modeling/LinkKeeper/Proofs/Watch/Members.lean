import LinkKeeper.Proofs.Reconcile.Rounds
import LinkKeeper.Proofs.Store.History
import LinkKeeper.Proofs.Watch.Changes

/-!
From a changed network to the links in it.

The members of a network are told in two ways: the passes that a change asks for go by a label, and a pass
finds the routes by the owner of its interface. A link is given the new routes where both name the network.

* `Selector.terms_ofNetwork`, `Selector.selects_ofNetwork`: what the selector of a network asks for.
* `FanOut.mem_requests_iff`, `FanOut.nodup_requests`: the passes that a change asks for.
* `FanOut.change_reaches_members`: every link in the network is given its routes, once, and no other link is
  touched.
-/

namespace LinkKeeper

open Pass

/-- The selector of a network is read as the one term that it was written for, whatever signs but commas the name
holds. -/
theorem Selector.terms_ofNetwork {name : String} (plain : ',' ∉ name.toList) :
    terms (ofNetwork name) = [.equals networkLabel name] := by
  have text : (ofNetwork name).toList = networkLabel.toList ++ '=' :: name.toList := by
    simp [ofNetwork]
  have whole : ',' ∉ (ofNetwork name).toList := by
    rw [text]
    simp only [List.mem_append, List.mem_cons, not_or]
    exact ⟨by decide, by decide, plain⟩
  unfold terms
  rw [splitAt_of_not_mem whole, text]
  simp [termOf_equals (by decide : '=' ∉ networkLabel.toList)]

theorem Selector.selects_ofNetwork {name : String} (plain : ',' ∉ name.toList) (labels : Table String String) :
    selects (ofNetwork name) labels = true ↔ labels.get? networkLabel = some name := by
  simp [selects, terms_ofNetwork plain, Term.holds]

namespace FanOut

/-- The interface carries the label of the network. -/
def Labelled (name : String) (nic : NetworkInterface) : Prop :=
  (MemoryStore.labelsOf nic).get? networkLabel = some name

section Requests

variable {s : MemoryStore} {metrics : Metrics} {old network : PrivateNetwork} {name : String}

/-- What is asked for when a network has been updated. -/
theorem handle_updated (named : network.metadata.name = some name) (lists : s.listsFailing = false) :
    (handle (.updated old network) s metrics).1 =
        requestsFor (s.interfaces.values.filter fun nic =>
          Selector.selects (Selector.ofNetwork name) (MemoryStore.labelsOf nic)) ∧
      (handle (.updated old network) s metrics).2.1 =
        { s with lists := s.lists ++ [Selector.ofNetwork name] } := by
  simp [handle, lookup?, named, MemoryStore.list, lists]

/-- The names of stored interfaces are the names under which they are stored. -/
theorem requestsFor_values (consistent : s.Consistent) (asks : NetworkInterface → Bool) :
    requestsFor (s.interfaces.values.filter asks) =
      (s.interfaces.toList.filter fun entry => asks entry.2).map Prod.fst := by
  have own : ∀ entry ∈ s.interfaces.toList, entry.2.metadata.name = some entry.1 := by
    rintro ⟨name, nic⟩ mem
    exact consistent.named (Table.mem_toList_iff.mp mem)
  unfold Table.values requestsFor
  generalize s.interfaces.toList = entries at own
  induction entries with
  | nil => rfl
  | cons entry rest ih =>
      have named := own entry List.mem_cons_self
      have later := ih fun entry mem => own entry (List.mem_cons_of_mem _ mem)
      cases asked : asks entry.2 with
      | true => simp [asked, named, later]
      | false => simp [asked, later]

/-- A pass is asked for over each interface that carries the label, and over no other. -/
theorem mem_requests_iff (consistent : s.Consistent) (plain : ',' ∉ name.toList)
    (named : network.metadata.name = some name) (lists : s.listsFailing = false) {asked : String} :
    asked ∈ (handle (.updated old network) s metrics).1 ↔
      ∃ nic, s.getInterface asked = some nic ∧ Labelled name nic := by
  rw [(handle_updated named lists).1, requestsFor_values consistent]
  simp only [List.mem_map, List.mem_filter, Selector.selects_ofNetwork plain, Prod.exists,
    Table.mem_toList_iff]
  constructor
  · rintro ⟨_, nic, ⟨present, labelled⟩, rfl⟩
    exact ⟨nic, present, labelled⟩
  · rintro ⟨nic, present, labelled⟩
    exact ⟨asked, nic, ⟨present, labelled⟩, rfl⟩

/-- No pass is asked for twice. -/
theorem nodup_requests (consistent : s.Consistent) (named : network.metadata.name = some name)
    (lists : s.listsFailing = false) : (handle (.updated old network) s metrics).1.Nodup := by
  rw [(handle_updated named lists).1, requestsFor_values consistent, List.Nodup, List.pairwise_map]
  refine (s.interfaces.rising.filter _).imp ?_
  intro first later rising same
  simp [same] at rising

end Requests

/-! ### Every member, and nobody else -/

/-- What a change of a network comes to: the link of each of its members is given the routes, once, and no
link is given any for an interface that is not labelled with the network or is of another node. -/
structure ReachesMembers (settings : Settings) (r : RecordedLinks) (document : InstanceDocument) (name : String)
    (routes : List Route) (s : MemoryStore) (turns : List Turn) : Prop where
  members : ∀ key nic mac, s.getInterface key = some nic → Labelled name nic → nic.ownerNetwork? = some name →
    Linked settings r document nic mac → syncedOver key turns = [.syncRoutes mac routes]
  others : ∀ key,
    (∀ nic, s.getInterface key = some nic → ¬ Labelled name nic ∨ nic.spec.nodeName ≠ settings.nodeName) →
      syncedOver key turns = []

/-- An interface in the network, of this node or of another. -/
def memberOf (name nodeName mac : String) : NetworkInterface where
  metadata :=
    { ObjectMeta.blank with
      name := some name
      labels := some (.ofList [(networkLabel, "net-a")])
      ownerReferences := some [⟨apiVersion, networkKind, "net-a", "1", none, none⟩] }
  spec := ⟨nodeName, "192.168.0.10/24"⟩
  status := some ⟨some mac, none⟩

/-- The network at a version. -/
def membersNetwork (version : String) : PrivateNetwork :=
  ⟨{ ObjectMeta.blank with name := some "net-a", resourceVersion := some version },
    ⟨none, [⟨"10.0.0.0/8", "192.168.0.1"⟩]⟩⟩

/-- A member on the node. -/
def nearMember : NetworkInterface := memberOf "nic-a" "node-a" "02:00:00:00:00:01"

/-- A member on another one. -/
def farMember : NetworkInterface := memberOf "nic-b" "node-b" "02:00:00:00:00:02"

/-- What has been seen of the network before. -/
def membersSnapshots : Snapshots := Snapshots.empty.through [some (.apply (membersNetwork "0"))]

/-- The node, where both are known. -/
def membersWorld : World :=
  { departingWorld with
    store := ((MemoryStore.empty.putNetwork (membersNetwork "0")).put nearMember).put farMember }

/-- A change of a network reaches the link of every member, whatever the order of the passes that are asked
for, as long as nothing goes wrong and nobody else is at work. -/
theorem change_reaches_members {settings : Settings} {s : MemoryStore} {snapshots : Snapshots}
    {metrics : Metrics} {name : String} {old network : PrivateNetwork} {routes : List Route} {e : WatchEvent}
    (reached : MemoryStore.empty.Reaches s) (accepts : s.pendingConflicts = 0) (lists : s.listsFailing = false)
    (plain : ',' ∉ name.toList) (stored : s.getNetwork name = some network)
    (declared : desiredRoutes network = .ok routes) (brings : Snapshots.Brings e network)
    (copied : snapshots.copy? network = some old)
    (changed : old.metadata.resourceVersion ≠ network.metadata.resourceVersion) :
    ∃ change, (snapshots.observe e).1 = some change ∧
      ∀ turns r document, Rounds settings (handle change s metrics).2.1 turns →
        (namesOf turns).Perm (handle change s metrics).1 →
          (∀ turn ∈ turns, ∀ event ∈ turn.events, Serves r document event) →
            ReachesMembers settings r document name routes s turns := by
  have named := reached.network_named stored
  have consistent := reached.consistent MemoryStore.consistent_empty
  refine ⟨.updated old network, ((Snapshots.told snapshots e).updated_iff old network).mpr
    ⟨brings, copied, changed⟩, ?_⟩
  intro turns r document rounds asked serves
  rw [(handle_updated named lists).2] at rounds
  have smooth : Smooth r document { s with lists := s.lists ++ [Selector.ofNetwork name] } turns :=
    { consistent := ⟨consistent.named, consistent.issued, consistent.distinct⟩
      accepts
      once := asked.nodup_iff.mpr (nodup_requests consistent named lists)
      serves }
  have has_turn : ∀ key, key ∈ namesOf turns ↔ ∃ nic, s.getInterface key = some nic ∧ Labelled name nic := by
    intro key
    rw [asked.mem_iff]
    exact mem_requests_iff consistent plain named lists
  constructor
  · intro key nic mac present labelled owned linked
    exact rounds.syncedOver_of_linked smooth ((has_turn key).mpr ⟨nic, present, labelled⟩) present linked owned
      stored declared
  · intro key apart
    by_cases turn : key ∈ namesOf turns
    · obtain ⟨member, found, labelled⟩ := (has_turn key).mp turn
      refine rounds.syncedOver_of_elsewhere smooth ?_
      intro nic present
      cases found.symm.trans present
      exact (apart member present).resolve_left (not_not_intro labelled)
    · exact syncedOver_of_absent turn

set_option maxRecDepth 8000 in
theorem members_reached :
    ∃ change routes, (membersSnapshots.observe (.apply (membersNetwork "1"))).1 = some change ∧
      desiredRoutes (membersNetwork "1") = .ok routes ∧
      let asked := handle change membersWorld.store .fresh
      let turns :=
        { membersWorld with store := asked.2.1 }.round departingSettings [⟨"nic-b", ""⟩, ⟨"nic-a", ""⟩]
      asked.1 = ["nic-a", "nic-b"] ∧ syncedOver "nic-a" turns = [.syncRoutes "02:00:00:00:00:01" routes] ∧
        syncedOver "nic-b" turns = [] := by
  have reached : MemoryStore.empty.Reaches membersWorld.store :=
    .step (.step (.single (.putNetwork (membersNetwork "0"))) (.put nearMember)) (.put farMember)
  have stored : membersWorld.store.getNetwork "net-a" = some (membersNetwork "1") := rfl
  have copied : membersSnapshots.copy? (membersNetwork "1") = some (membersNetwork "0") := rfl
  obtain ⟨routes, declared⟩ : ∃ routes, desiredRoutes (membersNetwork "1") = .ok routes := ⟨_, rfl⟩
  obtain ⟨change, told, reaches⟩ := @change_reaches_members departingSettings _ membersSnapshots .fresh _ _ _ _
    (.apply (membersNetwork "1")) reached rfl rfl (by decide) stored declared (.inl rfl) copied (by decide)
  refine ⟨change, routes, told, declared, ?_⟩
  obtain rfl : .updated (membersNetwork "0") (membersNetwork "1") = change := Option.some.inj told
  intro asked turns
  have flawless : Flawless (.ofList [("02:00:00:00:00:01", "eth1")]) (.ofAddresses ["02:00:00:00:00:01"])
      { membersWorld with store := asked.2.1 } := ⟨⟨[], rfl⟩, rfl, rfl, rfl⟩
  have requests : asked.1 = ["nic-a", "nic-b"] := rfl
  have order : (namesOf turns).Perm asked.1 := by
    rw [World.namesOf_round, requests]
    exact .swap _ _ _
  have rounds : Rounds departingSettings asked.2.1 turns :=
    World.rounds departingSettings { membersWorld with store := asked.2.1 } _
  have all := reaches turns _ _ rounds order (flawless.serves_round _ _)
  refine ⟨requests, ?_, ?_⟩
  · refine all.members "nic-a" (nearMember.atVersion "2") _ rfl rfl rfl ?_
    exact ⟨rfl, rfl, rfl, ⟨_, rfl⟩, rfl, ⟨_, rfl⟩⟩
  · refine all.others "nic-b" ?_
    intro nic present
    obtain rfl : farMember.atVersion "3" = nic := Option.some.inj present
    exact .inr (by decide)

end FanOut

end LinkKeeper
