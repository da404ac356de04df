import LinkKeeper.Proofs.Reconcile.Converged
import LinkKeeper.Proofs.Reconcile.Curable
import LinkKeeper.Proofs.Reconcile.Runs

/-!
Passes after faults.

A pass that fails may have done a part of its work: the finalizer may be gone, the interface with it, the
name of the link may be recorded. None of that is lost or done wrongly: once the faults are lifted, passes
come to the end that they would have come to without them.

* `Faults`, `World.under`: what may go wrong in a pass.
* `Pass.FailsThrough`: passes that fail, each for faults of its own.
* `Pass.Settles`: passes up to the first that is done.
* `Pass.Toward`: what passes before that one leave as it is: the end that they lead to, and whether they get
  there.
* `Pass.recovery_reaches_same_end`: passes that have failed change nothing in the end.
-/

namespace LinkKeeper

open Net

/-- What goes wrong in a pass: the operations on links that fail, what the metadata service says of the
machine and whether it fails, and how many writes are refused as if another writer had been faster. -/
structure Faults where
  operations : List LinkOperation
  document : InstanceDocument
  silent : Bool
  conflicts : Nat

/-- Nothing goes wrong. -/
def Faults.none (document : InstanceDocument) : Faults := ⟨[], document, false, 0⟩

namespace World

/-- The world in which these things go wrong. -/
def under (w : World) (f : Faults) : World where
  store := { w.store with pendingConflicts := f.conflicts }
  links := w.links.onRecorded fun r => { r with failing := f.operations }
  machine := { w.machine with document := f.document, failing := f.silent }

end World

/-- The stores hold the same objects, the interfaces among them up to their versions. -/
structure MemoryStore.Matches (s t : MemoryStore) : Prop where
  interfaces : ∀ name, (s.getInterface name).map NetworkInterface.unversioned =
    (t.getInterface name).map NetworkInterface.unversioned
  networks : s.networks = t.networks

namespace Pass

/-- Passes that fail, each under faults of its own. -/
inductive FailsThrough (settings : Settings) (key : ObjectKey) : List Faults → World → World → Prop where
  | nil {w : World} : FailsThrough settings key [] w w
  | cons {f : Faults} {later : List Faults} {w u : World} {e : KeeperError}
      (failed : ((w.under f).reconcile settings key).1 = .error e)
      (onward : FailsThrough settings key later ((w.under f).reconcile settings key).2 u) :
      FailsThrough settings key (f :: later) w u

/-- Passes from one world up to the first that is done, with the worlds that this one finds and leaves. -/
inductive Settles (settings : Settings) (key : ObjectKey) : World → World → World → Prop where
  | done {w : World} (done : (w.reconcile settings key).1 = .ok .done) :
      Settles settings key w w (w.reconcile settings key).2
  | again {w last v : World} (undone : (w.reconcile settings key).1 ≠ .ok .done)
      (onward : Settles settings key (w.reconcile settings key).2 last v) : Settles settings key w last v

/-! ### Pass after pass -/

/-- The interface is of this node, and its addresses are known. -/
structure Grounded (settings : Settings) (mac : String) (address : Network) (nic : NetworkInterface) : Prop where
  here : nic.spec.nodeName = settings.nodeName
  known : nic.macAddress? = some mac
  parsed : addressOf nic = .ok address

/-- The world has the links with these names, and what is stored under the key is grounded. -/
structure Prepared (settings : Settings) (key : ObjectKey) (r : RecordedLinks) (mac : String)
    (address : Network) (w : World) : Prop where
  links : ∃ failing calls, w.links = .recorded ⟨r.names, failing, calls⟩
  consistent : w.store.Consistent
  grounded : ∀ nic, w.store.getInterface key.name = some nic → Grounded settings mac address nic

/-- What passes make in the end of what is stored under the key. -/
def aimAt (settings : Settings) (key : ObjectKey) (link : String) (s : MemoryStore) : Option NetworkInterface :=
  (s.getInterface key.name).bind fun nic => nic.aim settings link

/-- What is stored under the key, if anything, is curable. -/
def CurableAt (settings : Settings) (key : ObjectKey) (r : RecordedLinks) (document : InstanceDocument)
    (mac : String) (s : MemoryStore) : Prop :=
  ∀ nic, s.getInterface key.name = some nic → Curable settings r document mac s nic

/-- The second store is on the way to the same end as the first. -/
structure Toward (settings : Settings) (key : ObjectKey) (r : RecordedLinks) (document : InstanceDocument)
    (mac : String) (s t : MemoryStore) : Prop where
  aim : aimAt settings key (linkOf r mac) t = aimAt settings key (linkOf r mac) s
  curable : CurableAt settings key r document mac t ↔ CurableAt settings key r document mac s
  elsewhere : ∀ other, other ≠ key.name → t.getInterface other = s.getInterface other
  networks : t.networks = s.networks

section Passes

variable {settings : Settings} {key : ObjectKey} {mac : String} {address : Network} {r : RecordedLinks}
  {document : InstanceDocument} {w u v last : World} {nic : NetworkInterface} {s t x : MemoryStore}

theorem Toward.trans (first : Toward settings key r document mac s t)
    (second : Toward settings key r document mac t x) : Toward settings key r document mac s x :=
  ⟨second.aim.trans first.aim, second.curable.trans first.curable,
    fun other apart => (second.elsewhere other apart).trans (first.elsewhere other apart),
    second.networks.trans first.networks⟩

/-- Without faults nothing goes wrong. -/
theorem flawless_under (recorded : ∃ failing calls, w.links = .recorded ⟨r.names, failing, calls⟩) :
    Flawless r document (w.under (.none document)) := by
  obtain ⟨failing, calls, recorded⟩ := recorded
  refine ⟨⟨calls, ?_⟩, rfl, rfl, rfl⟩
  unfold World.under
  rw [recorded]
  rfl

/-- Faults of the collaborators do not touch what is stored. -/
theorem toward_under (w : World) (f : Faults) :
    Toward settings key r document mac w.store (w.under f).store :=
  ⟨rfl, forall_congr' fun _ => imp_congr_right fun _ => curable_iff rfl, fun _ _ => rfl, rfl⟩

theorem Prepared.under (prepared : Prepared settings key r mac address w) (f : Faults) :
    Prepared settings key r mac address (w.under f) := by
  obtain ⟨⟨failing, calls, links⟩, consistent, grounded⟩ := prepared
  refine ⟨⟨f.operations, calls, ?_⟩, ?_, grounded⟩
  · unfold World.under
    rw [links]
    rfl
  · exact (MemoryStore.Reaches.single (.refuseNext f.conflicts)).consistent consistent

/-- A pass over what is stored, in full. -/
theorem Prepared.working (prepared : Prepared settings key r mac address w)
    (present : w.store.getInterface key.name = some nic) :
    ∃ rest now, w.trace settings key = ⟨.readInterface key.name, .ok (some nic)⟩ :: rest ∧
      Working settings mac address nic w.store rest (w.reconcile settings key).1
        (w.reconcile settings key).2.store ∧
      w.store.Rewritten (w.reconcile settings key).2.store key.name now ∧
      Progress settings (linkOf r mac) nic (w.reconcile settings key).1 now := by
  obtain ⟨here, known, parsed⟩ := prepared.grounded nic present
  obtain ⟨rest, events, working⟩ := (w.alone settings key).working present here known parsed
  obtain ⟨failing, calls, links⟩ := prepared.links
  have resolves : ∀ name, ⟨.linkName mac, .ok name⟩ ∈ rest → name = linkOf r mac := by
    intro name mem
    have traced : ⟨.linkName mac, .ok name⟩ ∈ w.trace settings key := by
      rw [events]
      exact List.mem_cons_of_mem _ mem
    have answered : Except.ok name = (World.answer (.linkName mac) w).1 :=
      (World.Alike.refl links).of_mem_trace rfl traced
    exact eq_linkOf (World.lookup_of_linkName links answered.symm)
  obtain ⟨now, rewritten, progress⟩ := working.progress prepared.consistent present resolves
  exact ⟨rest, now, events, working, rewritten, progress⟩

/-- Passes are prepared for by passes. -/
theorem Prepared.after (prepared : Prepared settings key r mac address w) :
    Prepared settings key r mac address (w.reconcile settings key).2 := by
  obtain ⟨failing, calls, links⟩ := prepared.links
  obtain ⟨⟨_, later, here, there⟩, -, -⟩ := World.alike_run links (reconcile settings key).run
  cases links.symm.trans here
  refine ⟨⟨failing, later, there⟩, (w.alone settings key).replay.reaches.consistent prepared.consistent, ?_⟩
  intro now found
  cases present : w.store.getInterface key.name with
  | none =>
      rw [World.reconcile_none present, present] at found
      cases found
  | some nic =>
      obtain ⟨-, after, -, -, rewritten, progress⟩ := prepared.working present
      cases rewritten.now.symm.trans found
      obtain ⟨here, known, parsed⟩ := prepared.grounded nic present
      have keeps := progress.keeps
      exact ⟨by rw [keeps.spec, here], by rw [keeps.macAddress?, known], by rw [keeps.address, parsed]⟩

/-- A pass that is not done is on the way. -/
theorem Prepared.toward (prepared : Prepared settings key r mac address w)
    (undone : (w.reconcile settings key).1 ≠ .ok .done) :
    Toward settings key r document mac w.store (w.reconcile settings key).2.store := by
  cases present : w.store.getInterface key.name with
  | none => exact absurd (by rw [World.reconcile_none present]) undone
  | some nic =>
      obtain ⟨_, now, -, working, rewritten, progress⟩ := prepared.working present
      obtain ⟨e, failed⟩ := working.result.resolve_left undone
      rw [failed] at progress
      refine ⟨?_, ?_, rewritten.elsewhere, rewritten.networks⟩
      · unfold aimAt
        rw [rewritten.now, present]
        exact progress.aim_of_error
      · unfold CurableAt
        rw [rewritten.now, present]
        cases now with
        | none =>
            cases progress with
            | departed departs => simp [Curable, departs]
        | some now => simpa using progress.curable_iff rewritten.networks

/-- A pass that is done has reached the end. -/
theorem Prepared.reached (prepared : Prepared settings key r mac address w)
    (done : (w.reconcile settings key).1 = .ok .done) :
    ((w.reconcile settings key).2.store.getInterface key.name).map NetworkInterface.unversioned =
        aimAt settings key (linkOf r mac) w.store ∧
      (∀ other, other ≠ key.name →
        (w.reconcile settings key).2.store.getInterface other = w.store.getInterface other) ∧
      (w.reconcile settings key).2.store.networks = w.store.networks := by
  unfold aimAt
  cases present : w.store.getInterface key.name with
  | none =>
      rw [World.reconcile_none present, present]
      exact ⟨rfl, fun _ _ => rfl, rfl⟩
  | some nic =>
      obtain ⟨-, now, -, -, rewritten, progress⟩ := prepared.working present
      rw [done] at progress
      refine ⟨?_, rewritten.elsewhere, rewritten.networks⟩
      rw [rewritten.now]
      exact progress.aim_of_done

/-- Passes that fail are on the way. -/
theorem FailsThrough.toward {faults : List Faults} (fails : FailsThrough settings key faults w u)
    (prepared : Prepared settings key r mac address w) :
    Prepared settings key r mac address u ∧ Toward settings key r document mac w.store u.store := by
  induction fails with
  | nil => exact ⟨prepared, rfl, Iff.rfl, fun _ _ => rfl, rfl⟩
  | @cons f _ w _ _ failed _ ih =>
      have under := prepared.under f
      obtain ⟨after, onward⟩ := ih under.after
      exact ⟨after, (toward_under w f).trans ((under.toward (by simp [failed])).trans onward)⟩

/-- Passes up to the first that is done are on the way until then. -/
theorem Settles.toward (settles : Settles settings key w last v)
    (prepared : Prepared settings key r mac address w) :
    Prepared settings key r mac address last ∧ Toward settings key r document mac w.store last.store ∧
      (last.reconcile settings key).1 = .ok .done ∧ v = (last.reconcile settings key).2 := by
  induction settles with
  | done done => exact ⟨prepared, ⟨rfl, Iff.rfl, fun _ _ => rfl, rfl⟩, done, rfl⟩
  | again undone _ ih =>
      obtain ⟨after, onward, done, left⟩ := ih prepared.after
      exact ⟨after, (prepared.toward undone).trans onward, done, left⟩

theorem Settles.flawless (settles : Settles settings key w last v) (flawless : Flawless r document w) :
    Flawless r document last := by
  induction settles with
  | done => exact flawless
  | again _ _ ih => exact ih flawless.after

/-- The interface of a pass that is done is curable. -/
theorem Prepared.curable (prepared : Prepared settings key r mac address w) (flawless : Flawless r document w)
    (done : (w.reconcile settings key).1 = .ok .done) : CurableAt settings key r document mac w.store := by
  intro nic present
  obtain ⟨rest, -, events, working, -, -⟩ := prepared.working present
  rw [done] at working
  have serves : ∀ event ∈ w.trace settings key, Serves r document event := flawless.serves
  rw [events] at serves
  exact working.curable_of_done (fun event mem => serves event (List.mem_cons_of_mem _ mem))
    prepared.consistent present

/-- Passes over a curable interface come to an end when nothing goes wrong. -/
theorem Prepared.settles (prepared : Prepared settings key r mac address w) (flawless : Flawless r document w)
    (curable : CurableAt settings key r document mac w.store) : ∃ last v, Settles settings key w last v := by
  have gone {v : World} (absent : v.store.getInterface key.name = none) : ∃ last x, Settles settings key v last x :=
    ⟨v, _, .done (by rw [World.reconcile_none absent])⟩
  cases present : w.store.getInterface key.name with
  | none => exact gone present
  | some nic =>
      obtain ⟨rest, -, events, working, -, -⟩ := prepared.working present
      have serves : ∀ event ∈ w.trace settings key, Serves r document event := flawless.serves
      rw [events] at serves
      by_cases done : (w.reconcile settings key).1 = .ok .done
      · exact ⟨w, _, .done done⟩
      · rcases working.done_or_gone (fun event mem => serves event (List.mem_cons_of_mem _ mem))
            flawless.accepts prepared.consistent present (curable nic present) with finished | absent
        · exact absurd finished done
        · obtain ⟨last, x, settles⟩ := gone absent
          exact ⟨last, x, .again done settles⟩

/-! ### The last routes -/

/-- The last routes that the links have been given are those that the network of the stored interface
declares. -/
def RoutesDeclared (key : ObjectKey) (w : World) : Prop :=
  ∃ nic owner network routes r, w.store.getInterface key.name = some nic ∧ nic.ownerNetwork? = some owner ∧
    w.store.getNetwork owner = some network ∧ desiredRoutes network = .ok routes ∧
    w.links = .recorded r ∧ r.lastRoutes? = some routes

theorem lastRoutes?_append (r : RecordedLinks) (calls : List LinkCall) (mac : String) (routes : List Route) :
    RecordedLinks.lastRoutes? { r with calls := calls ++ [.syncRoutes mac routes] } = some routes := by
  simp [RecordedLinks.lastRoutes?]

/-- The calls end with the routes that the network of the stored interface declares. -/
def EndsSynced (key : ObjectKey) (mac : String) (s : MemoryStore) (events : List Event) : Prop :=
  ∃ nic owner network routes earlier, s.getInterface key.name = some nic ∧ nic.ownerNetwork? = some owner ∧
    s.getNetwork owner = some network ∧ desiredRoutes network = .ok routes ∧
    events = earlier ++ [⟨.syncRoutes mac routes, .ok ()⟩]

theorem EndsSynced.append {events : List Event} (synced : EndsSynced key mac s events) (first : List Event) :
    EndsSynced key mac s (first ++ events) := by
  obtain ⟨nic, owner, network, routes, earlier, found, owned, there, declared, rfl⟩ := synced
  exact ⟨nic, owner, network, routes, first ++ earlier, found, owned, there, declared,
    (List.append_assoc _ _ _).symm⟩

/-- The steps that bring a link into the declared state end like that. -/
theorem Convergence.synced {st : PassState} {events : List Event}
    (convergence : Convergence mac address st s events (.ok .done) t) (holds : Holds key.name s st) :
    EndsSynced key mac t events := by
  cases convergence with
  | @connected document name owner written now network routes _ _ recording owned found declared =>
      obtain ⟨-, -, rewritten⟩ := recording.stored holds
      refine ⟨now, owner, network, routes, ⟨.readMetadata, .ok document⟩ :: ⟨.linkName mac, .ok name⟩ ::
        (written ++ [⟨.configureLink mac address, .ok ()⟩, ⟨.readNetwork owner, .ok (some network)⟩]),
        rewritten.now, owned, found, declared, by simp⟩

/-- So does a pass that has given a link its routes. -/
theorem Working.synced {events : List Event} (working : Working settings mac address nic s events (.ok .done) t)
    (consistent : s.Consistent) (present : s.getInterface key.name = some nic)
    (synced : ∃ other routes answer, ⟨.syncRoutes other routes, answer⟩ ∈ events) :
    EndsSynced key mac t events := by
  obtain ⟨other, given, answer, mem⟩ := synced
  cases working with
  | ended => simp at mem
  | converging _ convergence => exact convergence.synced (.of_read consistent present)
  | released releases _ accepted convergence =>
      exact (convergence.synced (Holds.of_release consistent present releases accepted).1).append [_, _]

/-- After a pass that has given a link its routes, the last ones given are those that are declared. -/
theorem Prepared.routesDeclared (prepared : Prepared settings key r mac address w)
    (done : (w.reconcile settings key).1 = .ok .done)
    (synced : ∃ other routes answer, ⟨.syncRoutes other routes, answer⟩ ∈ w.trace settings key) :
    RoutesDeclared key (w.reconcile settings key).2 := by
  obtain ⟨other, known, answer, mem⟩ := synced
  cases present : w.store.getInterface key.name with
  | none =>
      have nothing : w.trace settings key = [⟨.readInterface key.name, .ok none⟩] := World.trace_none present
      simp [nothing] at mem
  | some nic =>
      obtain ⟨rest, -, events, working, -, -⟩ := prepared.working present
      rw [done] at working
      have ends : EndsSynced key mac (w.reconcile settings key).2.store (w.trace settings key) := by
        rw [events]
        exact (working.synced prepared.consistent present
          ⟨other, known, answer, by simpa [events] using mem⟩).append [_]
      obtain ⟨now, owner, network, routes, earlier, found, owned, there, declared, traced⟩ := ends
      obtain ⟨failing, calls, links⟩ := prepared.links
      refine ⟨now, owner, network, routes, _, found, owned, there, declared,
        World.links_run links (reconcile settings key).run, ?_⟩
      unfold World.trace at traced
      rw [traced, List.map_append, List.filterMap_append, ← List.append_assoc]
      exact lastRoutes?_append _ _ mac routes

/-! ### Where passes lead -/

/-- Without its addresses a pass over an interface of this node leaves the store as it is. -/
theorem Account.grounded_or_idle {events : List Event} {result : Except KeeperError Outcome}
    (account : Account settings key s events result t) (present : s.getInterface key.name = some nic)
    (here : nic.spec.nodeName = settings.nodeName) :
    (∃ mac address, Grounded settings mac address nic) ∨ result ≠ .ok .done ∧ t = s := by
  cases account with
  | absent gone => cases gone.symm.trans present
  | foreign found elsewhere =>
      cases found.symm.trans present
      exact absurd here elsewhere
  | awaiting => exact .inr ⟨by simp, rfl⟩
  | malformed => exact .inr ⟨by simp, rfl⟩
  | @working _ mac address _ _ _ found _ known parsed =>
      cases found.symm.trans present
      exact .inl ⟨mac, address, here, known, parsed⟩

/-- So the next pass gets no further, and passes come to an end only if the addresses are known. -/
theorem Settles.grounded (settles : Settles settings key w last v)
    (present : w.store.getInterface key.name = some nic) (here : nic.spec.nodeName = settings.nodeName) :
    ∃ mac address, Grounded settings mac address nic := by
  induction settles with
  | @done w done =>
      rcases (w.alone settings key).account.grounded_or_idle present here with grounded | ⟨undone, -⟩
      · exact grounded
      · exact absurd done undone
  | @again w _ _ _ _ ih =>
      rcases (w.alone settings key).account.grounded_or_idle present here with grounded | ⟨-, same⟩
      · exact grounded
      · exact ih (by rw [same, present])

end Passes

/-- Three passes that fail: when the finalizer has been taken off, when the name of the link is to be
recorded, and when the link is to be configured. -/
def lingeringFaults : List Faults :=
  [⟨[], lingeringWorld.machine.document, true, 0⟩, ⟨[], lingeringWorld.machine.document, false, 1⟩,
    ⟨[.configure], lingeringWorld.machine.document, false, 0⟩]

/-- The node after them. -/
def lingeringStumbled : World :=
  lingeringFaults.foldl (fun w f => lingeringAfter (w.under f)) lingeringWorld

/-- The faults are lifted. -/
def calmed (w : World) : World := w.under (.none lingeringWorld.machine.document)

/-- Passes that fail change nothing in the end. From a store from which passes come to an end when nothing
goes wrong, they do so too after any passes that have failed, whatever has gone wrong in them; then the same
objects are stored, and the routes that a link has been given last are those that its network declares. -/
theorem recovery_reaches_same_end {settings : Settings} {key : ObjectKey} {w u last v : World}
    {r : RecordedLinks} {nic : NetworkInterface} {faults : List Faults}
    (reached : MemoryStore.empty.Reaches w.store) (recorded : w.links = .recorded r)
    (present : w.store.getInterface key.name = some nic) (here : nic.spec.nodeName = settings.nodeName)
    (settles : Settles settings key (w.under (.none w.machine.document)) last v)
    (fails : FailsThrough settings key faults w u) :
    (∃ last x, Settles settings key (u.under (.none w.machine.document)) last x) ∧
      ∀ last x, Settles settings key (u.under (.none w.machine.document)) last x →
        x.store.Matches v.store ∧
          ((∃ mac routes answer, ⟨.syncRoutes mac routes, answer⟩ ∈ last.trace settings key) →
            RoutesDeclared key x) := by
  obtain ⟨mac, address, grounded⟩ := settles.grounded present here
  have prepared : Prepared settings key r mac address w := by
    refine ⟨⟨r.failing, r.calls, recorded⟩, reached.consistent MemoryStore.consistent_empty, ?_⟩
    intro now found
    cases found.symm.trans present
    exact grounded
  let calm := Faults.none w.machine.document
  have flawless : Flawless r w.machine.document (w.under calm) := flawless_under prepared.links
  obtain ⟨preparedLast, toLast, done, rfl⟩ := settles.toward (prepared.under calm)
  obtain ⟨preparedAfter, toAfter⟩ := fails.toward prepared
  have restored : Flawless r w.machine.document (u.under calm) := flawless_under preparedAfter.links
  -- Both ways of going on are on the way to the end of the first store.
  have straight : Toward settings key r w.machine.document mac w.store last.store :=
    (toward_under w calm).trans toLast
  have around : Toward settings key r w.machine.document mac w.store (u.under calm).store :=
    toAfter.trans (toward_under u calm)
  have curable := around.curable.mpr (straight.curable.mp
    (preparedLast.curable (settles.flawless flawless) done))
  refine ⟨(preparedAfter.under calm).settles restored curable, ?_⟩
  intro final x recovers
  obtain ⟨preparedFinal, toFinal, finished, rfl⟩ := recovers.toward (preparedAfter.under calm)
  obtain ⟨aim, elsewhere, networks⟩ := preparedLast.reached done
  obtain ⟨aimFinal, elsewhereFinal, networksFinal⟩ := preparedFinal.reached finished
  have whole := around.trans toFinal
  refine ⟨⟨?_, ?_⟩, preparedFinal.routesDeclared finished⟩
  · intro name
    by_cases own : name = key.name
    · rw [own, aim, aimFinal, whole.aim, straight.aim]
    · rw [elsewhere name own, elsewhereFinal name own, whole.elsewhere name own, straight.elsewhere name own]
  · rw [networks, networksFinal, whole.networks, straight.networks]

set_option maxRecDepth 8000 in
theorem lingering_recovers :
    FailsThrough departingSettings departingKey lingeringFaults lingeringWorld lingeringStumbled ∧
      ∃ last x, Settles departingSettings departingKey (calmed lingeringStumbled) last x ∧
        x.store.Matches (lingeringAfter (calmed lingeringWorld)).store ∧ RoutesDeclared departingKey x := by
  have reached : MemoryStore.empty.Reaches lingeringWorld.store :=
    .step (.single (.putNetwork lingeringNetwork)) (.put lingering)
  have settles : Settles departingSettings departingKey (calmed lingeringWorld) (calmed lingeringWorld)
      (lingeringAfter (calmed lingeringWorld)) := .done rfl
  have fails : FailsThrough departingSettings departingKey lingeringFaults lingeringWorld lingeringStumbled :=
    .cons rfl (.cons rfl (.cons rfl .nil))
  have recovers : Settles departingSettings departingKey (calmed lingeringStumbled) (calmed lingeringStumbled)
      (lingeringAfter (calmed lingeringStumbled)) := .done rfl
  have ended := (@recovery_reaches_same_end departingSettings departingKey lingeringWorld lingeringStumbled _ _
    _ (lingering.atVersion "2") _ reached rfl rfl rfl settles fails).2 _ _ recovers
  obtain ⟨same, declared⟩ := ended
  exact ⟨fails, _, _, recovers, same, declared ⟨_, _, _, List.mem_of_getElem? (i := 5) rfl⟩⟩

end Pass

end LinkKeeper
