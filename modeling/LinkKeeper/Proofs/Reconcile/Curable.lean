import LinkKeeper.Proofs.Reconcile.Progress

/-!
When passes come to an end.

Where nothing goes wrong a pass fails only for what is declared, for a link that is not there, or because
it has just let the interface go. Whether passes come to an end can be told from the stored interface, and
no pass that fails changes it.

* `Pass.Flawless`: the worlds in which nothing goes wrong.
* `Pass.Curable`: what holds of an interface whose passes come to an end there.
* `Pass.Working.done_or_gone`, `Pass.Working.curable_of_done`: passes over such an interface come to an end,
  and passes over no other.
* `Pass.Progress.curable_iff`: a pass that fails makes no difference.
-/

namespace LinkKeeper

open Net

namespace Pass

/-! ### When nothing goes wrong -/

/-- How a call is answered when nothing goes wrong. -/
def Serves (r : RecordedLinks) (document : InstanceDocument) : Event → Prop
  | ⟨.readMetadata, answer⟩ => answer = .ok document
  | ⟨.tearDownLink _ _, answer⟩ => answer = .ok ()
  | ⟨.linkName mac, answer⟩ => answer = r.lookup mac
  | ⟨.configureLink _ _, answer⟩ => answer = .ok ()
  | ⟨.syncRoutes _ _, answer⟩ => answer = .ok ()
  | _ => True

/-- The name of a link, if it is found. -/
def linkOf (r : RecordedLinks) (mac : String) : String := (r.lookup mac).toOption.getD ""

/-- Nothing goes wrong in the world, whose links have the names of the given ones. -/
structure Flawless (r : RecordedLinks) (document : InstanceDocument) (w : World) : Prop where
  links : ∃ calls, w.links = .recorded { r with failing := [], calls := calls }
  document : w.machine.document = document
  failing : w.machine.failing = false
  accepts : w.store.pendingConflicts = 0

/-- A link can be brought into the declared state: it is attached and found, and its network is stored with
readable routes. -/
structure Ready (r : RecordedLinks) (document : InstanceDocument) (mac : String) (s : MemoryStore)
    (nic : NetworkInterface) : Prop where
  attached : document.hasInterface mac = true
  resolved : ∃ name, r.lookup mac = .ok name
  routed : ∃ owner network routes, nic.ownerNetwork? = some owner ∧ s.getNetwork owner = some network ∧
    desiredRoutes network = .ok routes

/-- Passes over the interface come to an end when nothing goes wrong: it goes, or a pass ends once it is let
go, or its link can be brought into the declared state. -/
def Curable (settings : Settings) (r : RecordedLinks) (document : InstanceDocument) (mac : String)
    (s : MemoryStore) (nic : NetworkInterface) : Prop :=
  nic.departs = true ∨ (Phase.releases nic && settings.endAfterTearDown) = true ∨ Ready r document mac s nic

section Flawless

variable {settings : Settings} {key : ObjectKey} {mac : String} {address : Network} {r : RecordedLinks}
  {document : InstanceDocument} {w : World} {nic now : NetworkInterface} {st : PassState}
  {s t : MemoryStore} {events : List Event} {result : Except KeeperError Outcome}

theorem eq_linkOf {name : String} (resolved : r.lookup mac = .ok name) : name = linkOf r mac := by
  unfold linkOf
  rw [resolved]
  rfl

theorem Flawless.answer (flawless : Flawless r document w) (c : Call) :
    Serves r document ⟨c, (World.answer c w).1⟩ := by
  obtain ⟨⟨calls, links⟩, rfl, failing, -⟩ := flawless
  cases c with
  | readInterface | writeInterface | writeStatus | readNetwork => exact trivial
  | readMetadata =>
      show w.machine.fetch.1 = .ok w.machine.document
      unfold MemoryInstance.fetch
      dsimp only
      rw [failing, if_neg Bool.false_ne_true]
  | tearDownLink | configureLink | syncRoutes =>
      simp [Serves, World.answer, links, WorldLinks.tearDown, WorldLinks.configure, WorldLinks.syncRoutes,
        RecordedLinks.perform]
  | linkName mac =>
      simp [Serves, World.answer, links, WorldLinks.name, RecordedLinks.name_eq, RecordedLinks.lookup]

theorem Flawless.serves (flawless : Flawless r document w) :
    ∀ event ∈ w.trace settings key, Serves r document event := by
  rintro ⟨c, answer⟩ mem
  obtain ⟨calls, links⟩ := flawless.links
  cases outside : c.toStore with
  | false =>
      obtain rfl : answer = (World.answer c w).1 := (World.Alike.refl links).of_mem_trace outside mem
      exact flawless.answer c
  | true =>
      cases c with
      | readInterface | writeInterface | writeStatus | readNetwork => exact trivial
      | readMetadata | tearDownLink | linkName | configureLink | syncRoutes => cases outside

/-- Nothing goes wrong after a pass either. -/
theorem Flawless.after (flawless : Flawless r document w) :
    Flawless r document (w.reconcile settings key).2 := by
  obtain ⟨⟨calls, links⟩, told, failing, accepts⟩ := flawless
  obtain ⟨⟨_, later, here, there⟩, sameDocument, sameFailing⟩ :=
    World.alike_run links (reconcile settings key).run
  cases links.symm.trans here
  exact ⟨⟨later, there⟩, sameDocument.trans told, sameFailing.trans failing,
    (w.alone settings key).replay.accepts accepts⟩

theorem ready_iff (keeps : Moment.Keeps nic now) (networks : t.networks = s.networks) :
    Ready r document mac t now ↔ Ready r document mac s nic := by
  have found : ∀ owner, t.getNetwork owner = s.getNetwork owner := fun owner => by
    unfold MemoryStore.getNetwork
    rw [networks]
  constructor
  · rintro ⟨attached, resolved, routed⟩
    simp only [found, keeps.ownerNetwork?] at routed
    exact ⟨attached, resolved, routed⟩
  · rintro ⟨attached, resolved, routed⟩
    refine ⟨attached, resolved, ?_⟩
    simp only [found, keeps.ownerNetwork?]
    exact routed

/-- Of the store only the networks matter to that. -/
theorem curable_iff (networks : t.networks = s.networks) :
    Curable settings r document mac t nic ↔ Curable settings r document mac s nic :=
  or_congr_right (or_congr_right (ready_iff ⟨rfl, rfl, rfl⟩ networks))

/-- A link that can be brought into the declared state is, when nothing goes wrong. -/
theorem Convergence.done_of_ready (convergence : Convergence mac address st s events result t)
    (serves : ∀ event ∈ events, Serves r document event) (accepts : s.pendingConflicts = 0)
    (holds : Holds key.name s st) (present : s.getInterface key.name = some st.nic)
    (ready : Ready r document mac s st.nic) : result = .ok .done := by
  obtain ⟨attached, ⟨name, resolved⟩, owner, network, routes, owned, found, declared⟩ := ready
  cases convergence with
  | connected => rfl
  | @unverified answer _ unattached =>
      have told : answer = .ok document := serves ⟨.readMetadata, answer⟩ (by simp)
      rw [unattached document told] at attached
      cases attached
  | @unresolved _ cause =>
      have told : .error cause = r.lookup mac := serves ⟨.linkName mac, .error cause⟩ (by simp)
      rw [resolved] at told
      cases told
  | unrecorded _ _ refused =>
      exact (MemoryStore.not_refused (.inr refused) accepts holds.named present rfl).elim
  | unconnected _ recording obstructed =>
      obtain ⟨⟨-, keeps, -, -⟩, -, rewritten⟩ := recording.stored holds
      rcases obstructed with ⟨cause, failed⟩ | unrouted
      · have told : Except.error cause = .ok () :=
          serves ⟨.configureLink mac address, .error cause⟩ (by simp [failed])
        cases told
      · have there : t.getNetwork owner = some network := by
          rw [← found]
          exact congrArg (·.get? owner) rewritten.networks
        obtain ⟨cause, failed⟩ := unrouted owner network routes (keeps.ownerNetwork?.trans owned) there declared
        have told : Except.error cause = .ok () :=
          serves ⟨.syncRoutes mac routes, .error cause⟩ (by simp [failed])
        cases told

/-- When nothing goes wrong, a pass over a curable interface is done, or else the interface has gone. -/
theorem Working.done_or_gone (working : Working settings mac address nic s events result t)
    (serves : ∀ event ∈ events, Serves r document event) (accepts : s.pendingConflicts = 0)
    (consistent : s.Consistent) (present : s.getInterface key.name = some nic)
    (curable : Curable settings r document mac s nic) :
    result = .ok .done ∨ t.getInterface key.name = none := by
  have holds := Holds.of_read consistent present
  cases working with
  | ended => exact .inl rfl
  | @untorn cause =>
      have told : Except.error cause = .ok () :=
        serves ⟨.tearDownLink mac address, .error cause⟩ (by simp)
      cases told
  | unreleased _ refused =>
      exact (MemoryStore.not_refused (.inl refused) accepts holds.named present rfl).elim
  | converging stays convergence =>
      rcases curable with departs | ends | ready
      · simp [NetworkInterface.departs, stays] at departs
      · simp [stays] at ends
      · exact .inl (convergence.done_of_ready serves accepts holds present ready)
  | @released _ u _ _ _ releases long accepted convergence =>
      obtain ⟨after, keeps, -, rewritten⟩ := Holds.of_release consistent present releases accepted
      have quiet : u.pendingConflicts = 0 := by
        have := (MemoryStore.accepts_after_write accepts nic.withoutFinalizer).1
        rwa [accepted] at this
      have served := fun event mem => serves event (List.mem_append_right [_, _] mem)
      cases departs : nic.departs with
      | false =>
          rw [if_neg (by simp [departs])] at rewritten
          have ready : Ready r document mac s nic := by
            rcases curable with gone | ends | ready
            · rw [departs] at gone
              cases gone
            · simp [long] at ends
            · exact ready
          exact .inl (convergence.done_of_ready served quiet after rewritten.now
            ((ready_iff keeps rewritten.networks).mpr ready))
      | true =>
          rw [if_pos departs] at rewritten
          rcases convergence.written after (fun name mem => eq_linkOf (served _ mem).symm) with
            ⟨-, -, unwritten⟩ | ⟨_, recorded, -, -⟩
          · exact .inr (unwritten.now.trans rewritten.now)
          · cases rewritten.now.symm.trans recorded.present

/-- Only an interface that is curable lets a pass be done. -/
theorem Convergence.ready_of_done (convergence : Convergence mac address st s events (.ok .done) t)
    (serves : ∀ event ∈ events, Serves r document event) (holds : Holds key.name s st) :
    Ready r document mac s st.nic := by
  cases convergence with
  | @connected told name owner _ _ network routes _ attached recording owned found declared =>
      obtain ⟨⟨-, keeps, -, -⟩, -, rewritten⟩ := recording.stored holds
      have read : Except.ok told = .ok document := serves ⟨.readMetadata, .ok told⟩ (by simp)
      have resolved : Except.ok name = r.lookup mac := serves ⟨.linkName mac, .ok name⟩ (by simp)
      cases read
      exact (ready_iff keeps rewritten.networks).mp
        ⟨attached, ⟨name, resolved.symm⟩, owner, network, routes, owned, found, declared⟩

theorem Working.curable_of_done (working : Working settings mac address nic s events (.ok .done) t)
    (serves : ∀ event ∈ events, Serves r document event) (consistent : s.Consistent)
    (present : s.getInterface key.name = some nic) : Curable settings r document mac s nic := by
  cases working with
  | ended releases short => exact .inr (.inl (by simp [releases, short]))
  | converging _ convergence =>
      exact .inr (.inr (convergence.ready_of_done serves (.of_read consistent present)))
  | released releases _ accepted convergence =>
      obtain ⟨after, keeps, -, rewritten⟩ := Holds.of_release consistent present releases accepted
      have ready :=
        convergence.ready_of_done (fun event mem => serves event (List.mem_append_right [_, _] mem)) after
      exact .inr (.inr ((ready_iff keeps rewritten.networks).mp ready))

/-- A pass that fails neither cures an interface nor makes it incurable. -/
theorem Progress.curable_iff {link : String} {e : KeeperError}
    (progress : Progress settings link nic (.error e) (some now)) (networks : t.networks = s.networks) :
    Curable settings r document mac t now ↔ Curable settings r document mac s nic := by
  rcases progress.stays with rfl | ⟨stays, keeps, remains, goesOn⟩
  · exact curable_iff networks
  · have rests : now.departs = false := by simp [NetworkInterface.departs, stays]
    unfold Curable
    rw [ready_iff keeps networks, remains, goesOn, rests, stays, Bool.false_and]

end Flawless

end Pass

end LinkKeeper
