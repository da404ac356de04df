import LinkKeeper.Proofs.Reconcile.Curable

/-!
Passes over several interfaces, one after the other.

A pass writes its own interface and no other, and no network. So every pass of a round finds the
interface that it works on as the round has found it, whatever the order, as long as no interface has its
turn twice.

* `Pass.Rounds`: passes over several interfaces, with nobody else at work.
* `Pass.Rounds.finds`: what the pass over an interface finds.
* `Pass.Rounds.syncedOver_of_linked`, `Pass.Rounds.syncedOver_of_elsewhere`: the routes that the links of a
  round are given.
* `World.round`: a round in a world.
-/

namespace LinkKeeper

open Net

namespace Pass

/-- The calls that give a link its routes, in order. -/
def routesGiven (events : List Event) : List Call := (events.map Sigma.fst).filter Call.syncs

/-- The turn of one interface: its key, and the calls of the pass over it with their answers. -/
structure Turn where
  key : ObjectKey
  events : List Event

/-- Passes over interfaces, one after the other, with nobody else at work. -/
inductive Rounds (settings : Settings) : MemoryStore → List Turn → Prop where
  | nil {s : MemoryStore} : Rounds settings s []
  | cons {key : ObjectKey} {events : List Event} {result : Except KeeperError Outcome} {s t : MemoryStore}
      {later : List Turn} (pass : Alone settings key s events result t) (onward : Rounds settings t later) :
      Rounds settings s (⟨key, events⟩ :: later)

/-- The names of the interfaces, in the order of their turns. -/
def namesOf (turns : List Turn) : List String := turns.map fun turn => turn.key.name

/-- The calls that give a link its routes in the passes over one interface. -/
def syncedOver (name : String) (turns : List Turn) : List Call :=
  (turns.filter fun turn => turn.key.name = name).flatMap fun turn => routesGiven turn.events

/-- Nothing goes wrong in a round, and no interface has its turn twice. -/
structure Smooth (r : RecordedLinks) (document : InstanceDocument) (s : MemoryStore) (turns : List Turn) :
    Prop where
  consistent : s.Consistent
  accepts : s.pendingConflicts = 0
  once : (namesOf turns).Nodup
  serves : ∀ turn ∈ turns, ∀ event ∈ turn.events, Serves r document event

/-- The interface is of this node and stays, both of its addresses are known, and its link is attached and
found. -/
structure Linked (settings : Settings) (r : RecordedLinks) (document : InstanceDocument)
    (nic : NetworkInterface) (mac : String) : Prop where
  live : nic.isTerminating = false
  here : nic.spec.nodeName = settings.nodeName
  known : nic.macAddress? = some mac
  wellFormed : ∃ address, addressOf nic = .ok address
  attached : document.hasInterface mac = true
  resolved : ∃ link, r.lookup mac = .ok link

section Rounds

variable {settings : Settings} {key : ObjectKey} {mac name owner : String} {address : Network}
  {r : RecordedLinks} {document : InstanceDocument} {nic : NetworkInterface} {network : PrivateNetwork}
  {routes : List Route} {st : PassState} {s t : MemoryStore} {events : List Event}
  {result : Except KeeperError Outcome} {turns : List Turn} {turn : Turn}

theorem mem_namesOf (mem : turn ∈ turns) : turn.key.name ∈ namesOf turns :=
  List.mem_map.mpr ⟨turn, mem, rfl⟩

/-- A pass writes nothing but its own interface. -/
theorem Alone.rewritten (pass : Alone settings key s events result t) (consistent : s.Consistent)
    (serves : ∀ event ∈ events, Serves r document event) : ∃ now, s.Rewritten t key.name now := by
  cases pass.account with
  | absent | foreign | awaiting | malformed => exact ⟨_, .refl s key.name⟩
  | @working nic mac _ later _ _ present _ _ _ working =>
      have resolves : ∀ name, ⟨.linkName mac, .ok name⟩ ∈ later → name = linkOf r mac :=
        fun name mem => eq_linkOf (serves _ (List.mem_cons_of_mem _ mem)).symm
      obtain ⟨now, rewritten, -⟩ := working.progress consistent present resolves
      exact ⟨now, rewritten⟩

/-- A link that can be brought into the declared state is given the routes of its network, once. -/
theorem Convergence.synced_of_ready (convergence : Convergence mac address st s events result t)
    (serves : ∀ event ∈ events, Serves r document event) (accepts : s.pendingConflicts = 0)
    (holds : Holds key.name s st) (present : s.getInterface key.name = some st.nic)
    (ready : Ready r document mac s st.nic) (owned : st.nic.ownerNetwork? = some owner)
    (found : s.getNetwork owner = some network) (declared : desiredRoutes network = .ok routes) :
    routesGiven events = [.syncRoutes mac routes] := by
  have done := convergence.done_of_ready serves accepts holds present ready
  cases convergence with
  | unverified | unresolved | unrecorded | unconnected => cases done
  | @connected _ _ own _ _ there given _ _ recording owns stored reads =>
      obtain ⟨⟨-, keeps, -, -⟩, -, rewritten⟩ := recording.stored holds
      obtain rfl : own = owner := Option.some.inj (owns.symm.trans (keeps.ownerNetwork?.trans owned))
      have same : t.getNetwork own = s.getNetwork own := congrArg (·.get? own) rewritten.networks
      obtain rfl : there = network := Option.some.inj (stored.symm.trans (same.trans found))
      obtain rfl : given = routes := Except.ok.inj (reads.symm.trans declared)
      cases recording with
      | kept => rfl
      | written => rfl

/-- What the pass over an interface finds: the interface and the networks are those that the round has found. -/
theorem Rounds.finds (rounds : Rounds settings s turns) (smooth : Smooth r document s turns)
    (mem : turn ∈ turns) :
    ∃ u v result, Alone settings turn.key u turn.events result v ∧ u.Consistent ∧ u.pendingConflicts = 0 ∧
      u.getInterface turn.key.name = s.getInterface turn.key.name ∧ u.networks = s.networks := by
  induction rounds with
  | nil => cases mem
  | @cons key events result s t later pass onward ih =>
      obtain ⟨consistent, accepts, once, serves⟩ := smooth
      obtain ⟨unnamed, apart⟩ := List.nodup_cons.mp once
      rcases List.mem_cons.mp mem with rfl | mem
      · exact ⟨s, t, result, pass, consistent, accepts, rfl, rfl⟩
      · obtain ⟨now, rewritten⟩ := pass.rewritten consistent (serves _ List.mem_cons_self)
        have onward : Smooth r document t later :=
          ⟨pass.replay.reaches.consistent consistent, pass.replay.accepts accepts, apart,
            fun turn mem => serves turn (List.mem_cons_of_mem _ mem)⟩
        obtain ⟨u, v, result, passed, sound, quiet, same, networks⟩ := ih onward mem
        have other : turn.key.name ≠ key.name := ne_of_mem_of_not_mem (mem_namesOf mem) unnamed
        exact ⟨u, v, result, passed, sound, quiet, same.trans (rewritten.elsewhere _ other),
          networks.trans rewritten.networks⟩

/-- An interface that has no turn is not touched. -/
theorem syncedOver_of_absent (absent : name ∉ namesOf turns) : syncedOver name turns = [] := by
  unfold syncedOver
  rw [List.filter_eq_nil_iff.mpr, List.flatMap_nil]
  intro turn mem here
  exact absent (of_decide_eq_true here ▸ mem_namesOf mem)

/-- One that has its turn once is touched in it only. -/
theorem syncedOver_of_once (once : (namesOf turns).Nodup) (mem : turn ∈ turns) :
    syncedOver turn.key.name turns = routesGiven turn.events := by
  induction turns with
  | nil => cases mem
  | cons first later ih =>
      obtain ⟨unnamed, once⟩ := List.nodup_cons.mp once
      rcases List.mem_cons.mp mem with rfl | mem
      · have untouched := syncedOver_of_absent unnamed
        unfold syncedOver at untouched ⊢
        rw [List.filter_cons_of_pos (by simp), List.flatMap_cons, untouched, List.append_nil]
      · have other : first.key.name ≠ turn.key.name := (ne_of_mem_of_not_mem (mem_namesOf mem) unnamed).symm
        rw [← ih once mem]
        unfold syncedOver
        rw [List.filter_cons_of_neg (by simpa using other)]

/-- The link of an interface is given the routes of its network, once. -/
theorem Rounds.syncedOver_of_linked (rounds : Rounds settings s turns) (smooth : Smooth r document s turns)
    (named : name ∈ namesOf turns) (present : s.getInterface name = some nic)
    (linked : Linked settings r document nic mac) (owned : nic.ownerNetwork? = some owner)
    (found : s.getNetwork owner = some network) (declared : desiredRoutes network = .ok routes) :
    syncedOver name turns = [.syncRoutes mac routes] := by
  obtain ⟨live, here, known, ⟨address, parsed⟩, attached, resolved⟩ := linked
  obtain ⟨turn, mem, rfl⟩ := List.mem_map.mp named
  obtain ⟨u, v, result, pass, sound, quiet, same, networks⟩ := rounds.finds smooth mem
  have still : u.getInterface turn.key.name = some nic := same.trans present
  have stored : u.getNetwork owner = some network := by
    rw [← found]
    exact congrArg (·.get? owner) networks
  obtain ⟨rest, calls, working⟩ := pass.working still here known parsed
  have serves : ∀ event ∈ rest, Serves r document event := fun event later =>
    smooth.serves turn mem event (calls ▸ List.mem_cons_of_mem _ later)
  have ready : Ready r document mac u nic :=
    ⟨attached, resolved, owner, network, routes, owned, stored, declared⟩
  rw [syncedOver_of_once smooth.once mem, calls]
  cases working with
  | untorn releases | unreleased releases | ended releases | released releases =>
      unfold Phase.releases at releases
      rw [live] at releases
      cases releases
  | converging _ convergence =>
      exact convergence.synced_of_ready serves quiet (.of_read sound still) still ready owned stored declared

/-- No link is given routes for an interface that is not of this node. -/
theorem Rounds.syncedOver_of_elsewhere (rounds : Rounds settings s turns) (smooth : Smooth r document s turns)
    (elsewhere : ∀ nic, s.getInterface name = some nic → nic.spec.nodeName ≠ settings.nodeName) :
    syncedOver name turns = [] := by
  by_cases named : name ∈ namesOf turns
  · obtain ⟨turn, mem, rfl⟩ := List.mem_map.mp named
    obtain ⟨u, v, result, pass, -, -, same, -⟩ := rounds.finds smooth mem
    rw [← same] at elsewhere
    rw [syncedOver_of_once smooth.once mem]
    generalize turn.key = key at pass elsewhere
    generalize turn.events = events at pass
    cases pass.account with
    | absent | foreign => rfl
    | awaiting present here | malformed present here | working present here =>
        exact absurd here (elsewhere _ present)
  · exact syncedOver_of_absent named

end Rounds

end Pass

/-! ### Rounds in a world -/

namespace World

/-- The passes over interfaces, one after the other. -/
def round (settings : Settings) (w : World) : List ObjectKey → List Pass.Turn
  | [] => []
  | key :: rest => ⟨key, w.trace settings key⟩ :: round settings (w.reconcile settings key).2 rest

theorem rounds (settings : Settings) (w : World) (keys : List ObjectKey) :
    Pass.Rounds settings w.store (w.round settings keys) := by
  induction keys generalizing w with
  | nil => exact .nil
  | cons key rest ih => exact .cons (w.alone settings key) (ih _)

theorem namesOf_round (settings : Settings) (w : World) (keys : List ObjectKey) :
    Pass.namesOf (w.round settings keys) = keys.map ObjectKey.name := by
  induction keys generalizing w with
  | nil => rfl
  | cons key rest ih =>
      rw [List.map_cons, ← ih (w.reconcile settings key).2]
      rfl

end World

/-- Where nothing goes wrong, nothing goes wrong in a round either. -/
theorem Pass.Flawless.serves_round {r : RecordedLinks} {document : InstanceDocument} {w : World}
    (flawless : Pass.Flawless r document w) (settings : Settings) (keys : List ObjectKey) :
    ∀ turn ∈ w.round settings keys, ∀ event ∈ turn.events, Pass.Serves r document event := by
  induction keys generalizing w with
  | nil =>
      intro turn mem
      cases mem
  | cons key rest ih =>
      intro turn mem
      rcases List.mem_cons.mp mem with rfl | mem
      · exact flawless.serves
      · exact ih flawless.after turn mem

end LinkKeeper
