import LinkKeeper.Proofs.Watch.Members

/-!
The passes that a change of a network asks for.

The members are looked up by a selector, which is written on one side and taken apart on the other. The name of a
network stands in it as it is, so it is read back as it was written unless it holds the comma that ends a term.

* `FanOut.AsksForMembers`: a pass over each interface with the label, in the order of their names.
* `FanOut.handle_of_silent`, `FanOut.handle_of_failing`: the changes that ask for nothing.
* `FanOut.requests_are_members`: which passes each change asks for, in every store that writers can reach.
-/

namespace LinkKeeper

namespace FanOut

/-- A pass is asked for over each interface that carries the label of the network, and over no other: by its name
alone, in the order of the names, none twice. The store is looked at once, and the passes are counted. -/
structure AsksForMembers (name : String) (s : MemoryStore) (metrics : Metrics)
    (told : List String × MemoryStore × Metrics) : Prop where
  members : ∀ asked, asked ∈ told.1 ↔ ∃ nic, s.getInterface asked = some nic ∧ Labelled name nic
  rising : told.1.Pairwise (· < ·)
  looked : told.2.1 = { s with lists := s.lists ++ [Selector.ofNetwork name] }
  counted : told.2.2 = metrics.recordFanOut told.1.length

/-- The change asks for no pass, whatever the store holds: only a network that has been updated and has a name has
members to look up. -/
def Silent : NetworkChange → Prop
  | .created _ | .deleted _ => True
  | .updated _ network => network.metadata.name = none

section Handling

variable {s : MemoryStore} {metrics : Metrics} {change : NetworkChange} {old network : PrivateNetwork}
  {name : String}

theorem handle_of_silent (silent : Silent change) : handle change s metrics = ([], s, metrics) := by
  have unasked : lookup? change = none := by
    cases change with
    | created | deleted => rfl
    | updated old network => exact congrArg (Option.map _) silent
  unfold handle
  rw [unasked]

/-- When the members cannot be looked up, no pass is asked for and none is counted. -/
theorem handle_of_failing (failing : s.listsFailing = true) :
    (handle change s metrics).1 = [] ∧ (handle change s metrics).2.2 = metrics := by
  unfold handle MemoryStore.list
  dsimp only
  rw [failing]
  cases lookup? change <;> exact ⟨rfl, rfl⟩

/-- The passes are asked for in the order of the names. -/
theorem rising_requests (consistent : s.Consistent) (named : network.metadata.name = some name)
    (lists : s.listsFailing = false) : (handle (.updated old network) s metrics).1.Pairwise (· < ·) := by
  rw [(handle_updated named lists).1, requestsFor_values consistent, List.pairwise_map]
  refine (s.interfaces.rising.filter _).imp ?_
  intro first later rising
  exact compareOfLessAndEq_eq_lt.mp rising

theorem asksForMembers_updated (consistent : s.Consistent) (plain : ',' ∉ name.toList)
    (named : network.metadata.name = some name) (lists : s.listsFailing = false) :
    AsksForMembers name s metrics (handle (.updated old network) s metrics) where
  members _ := mem_requests_iff consistent plain named lists
  rising := rising_requests consistent named lists
  looked := (handle_updated named lists).2
  counted := by simp [handle, lookup?, named, MemoryStore.list, lists]

end Handling

/-- The update of a network whose name holds no comma asks for a pass over each of its members, told by the label
alone: its selector is read as the one term that it was written for. Every other change, and every one while lists
fail, asks for no pass and counts none. -/
theorem requests_are_members {s : MemoryStore} (reached : MemoryStore.empty.Reaches s) (metrics : Metrics)
    (change : NetworkChange) :
    (∀ old network name, change = .updated old network → network.metadata.name = some name → ',' ∉ name.toList →
      Selector.terms (Selector.ofNetwork name) = [.equals networkLabel name] ∧
        (∀ labels, Selector.selects (Selector.ofNetwork name) labels = true ↔
          labels.get? networkLabel = some name) ∧
        (s.listsFailing = false → AsksForMembers name s metrics (handle change s metrics))) ∧
      (Silent change → handle change s metrics = ([], s, metrics)) ∧
      (s.listsFailing = true → (handle change s metrics).1 = [] ∧ (handle change s metrics).2.2 = metrics) := by
  have consistent := reached.consistent MemoryStore.consistent_empty
  refine ⟨?_, handle_of_silent, handle_of_failing⟩
  rintro old network name rfl named plain
  refine ⟨Selector.terms_ofNetwork plain, Selector.selects_ofNetwork plain, ?_⟩
  intro lists
  exact asksForMembers_updated consistent plain named lists

/-- An interface of some node in some network. -/
def labelledWith (network nodeName name : String) : NetworkInterface where
  metadata :=
    { ObjectMeta.blank with
      name := some name
      labels := some (.ofList [("net", "net-a"), (networkLabel, network)]) }
  spec := ⟨nodeName, ""⟩
  status := none

/-- Two members of the network `a=b` on different nodes, put in against their order, and one of another network. -/
def oddStore : MemoryStore :=
  ((MemoryStore.empty.put (labelledWith "a=b" "node-b" "nic-c")).put (labelledWith "a" "node-a" "nic-b")).put
    (labelledWith "a=b" "node-a" "nic-a")

def oddNetwork : PrivateNetwork := ⟨{ ObjectMeta.blank with name := some "a=b" }, ⟨none, []⟩⟩

theorem odd_members_requested :
    MemoryStore.empty.Reaches oddStore ∧
      AsksForMembers "a=b" oddStore .fresh (handle (.updated oddNetwork oddNetwork) oddStore .fresh) ∧
      (handle (.updated oddNetwork oddNetwork) oddStore .fresh).1 = ["nic-a", "nic-c"] := by
  have reached : MemoryStore.empty.Reaches oddStore :=
    .step (.step (.single (.put (labelledWith "a=b" "node-b" "nic-c"))) (.put (labelledWith "a" "node-a" "nic-b")))
      (.put (labelledWith "a=b" "node-a" "nic-a"))
  obtain ⟨updated, -, -⟩ := requests_are_members reached .fresh (.updated oddNetwork oddNetwork)
  obtain ⟨-, -, asks⟩ := updated oddNetwork oddNetwork "a=b" rfl rfl (by decide)
  exact ⟨reached, asks rfl, rfl⟩

end FanOut

end LinkKeeper
