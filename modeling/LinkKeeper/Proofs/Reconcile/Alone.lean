import LinkKeeper.Proofs.Reconcile.Copies
import LinkKeeper.Proofs.Reconcile.Recorded

/-!
Passes that nobody disturbs, told by their calls.

Such a pass goes through its script, and the store answers for itself and changes by the writes of the
pass only. What the links and the metadata service answer is left open.

* `Pass.Replay`: a store goes through calls that it answers.
* `Pass.Alone`: a pass with nobody else at work.
* `Pass.Convergence`: all that can come of the steps which bring a link into the declared state.
* `Pass.Working`, `Pass.Account`: all that can come of a pass over an interface of this node, and of any.
* `Pass.Alone.account`, `Pass.Alone.working`: nothing else comes of an undisturbed pass.
* `World.alone`: a pass in a world is one of these.
-/

namespace LinkKeeper

open Net

namespace Pass

/-! ### Calls to a store -/

/-- The store answers the calls that are made to it, one after the other, and nobody else works on it. -/
inductive Replay : MemoryStore → List Event → MemoryStore → Prop where
  | nil {s : MemoryStore} : Replay s [] s
  | cons {c : Call} {answer : c.Answer} {s t u : MemoryStore} {later : List Event}
      (answered : Answered c answer s t) (onward : Replay t later u) :
      Replay s (⟨c, answer⟩ :: later) u

section Replay

variable {c : Call} {answer : c.Answer} {s t u : MemoryStore} {events : List Event}

theorem replay_nil_iff : Replay s [] t ↔ t = s := by
  constructor
  · intro replay
    cases replay
    rfl
  · rintro rfl
    exact .nil

theorem replay_cons_iff :
    Replay s (⟨c, answer⟩ :: events) u ↔ ∃ t, Answered c answer s t ∧ Replay t events u := by
  constructor
  · intro replay
    cases replay with
    | cons answered onward => exact ⟨_, answered, onward⟩
  · rintro ⟨t, answered, onward⟩
    exact .cons answered onward

/-- A call that does not write is passed over. -/
theorem Replay.of_idle (replay : Replay s (⟨c, answer⟩ :: events) t) (idle : c.isWrite = false) :
    Answered c answer s s ∧ Replay s events t := by
  obtain ⟨u, answered, onward⟩ := replay_cons_iff.mp replay
  obtain rfl := answered.same_of_idle idle
  exact ⟨answered, onward⟩

/-- The store changes like one that others use. -/
theorem Replay.reaches (replay : Replay s events t) : s.Reaches t := by
  induction replay with
  | nil => exact .refl
  | cons answered _ ih => exact answered.reaches.trans ih

/-- Where no refusal is pending, none is pending in the end. -/
theorem Replay.accepts (replay : Replay s events t) (accepts : s.pendingConflicts = 0) :
    t.pendingConflicts = 0 := by
  induction replay with
  | nil => exact accepts
  | @cons c _ s t _ _ answered _ ih =>
      refine ih ?_
      by_cases idle : c.isWrite = false
      · rwa [answered.same_of_idle idle]
      · cases c with
        | writeInterface nic =>
            obtain ⟨-, rfl⟩ := answered
            exact (MemoryStore.accepts_after_write accepts nic).1
        | writeStatus nic =>
            obtain ⟨-, rfl⟩ := answered
            exact (MemoryStore.accepts_after_write accepts nic).2
        | readInterface | readNetwork | readMetadata | tearDownLink | linkName | configureLink
          | syncRoutes => exact absurd rfl idle

end Replay

/-- A pass with these calls, answers and result, which finds the first store and leaves the second. -/
structure Alone (settings : Settings) (key : ObjectKey) (s : MemoryStore) (events : List Event)
    (result : Except KeeperError Outcome) (t : MemoryStore) : Prop where
  path : Path (reconcile settings key) events result
  replay : Replay s events t

/-! ### Lines of a script -/

section Lines

variable {α : Type} {f : Findings} {a : α} {c : Call} {lines : List Line} {events : List Event}
  {r : Except KeeperError α} {failure : Option KeeperError}

theorem course_nil_iff : Course f a [] events r ↔ events = [] ∧ r = .ok a := by
  constructor
  · intro course
    cases course
    exact ⟨rfl, rfl⟩
  · rintro ⟨rfl, rfl⟩
    exact .finished

theorem course_call_iff :
    Course f a (.call c :: lines) events r ↔
      ∃ (answer : c.Answer) (rest : List Event), events = ⟨c, answer⟩ :: rest ∧
        ((f.Gives ⟨c, answer⟩ ∧ Course f a lines rest r) ∨
          ∃ e, Event.failure? ⟨c, answer⟩ = some e ∧ rest = [] ∧ r = .error e) := by
  constructor
  · intro course
    cases course with
    | answered gives onward => exact ⟨_, _, rfl, .inl ⟨gives, onward⟩⟩
    | failed failure => exact ⟨_, _, rfl, .inr ⟨_, failure, rfl, rfl⟩⟩
  · rintro ⟨answer, rest, rfl, ⟨gives, onward⟩ | ⟨e, failure, rfl, rfl⟩⟩
    · exact .answered gives onward
    · exact .failed failure

theorem course_check_iff :
    Course f a (.check failure :: lines) events r ↔
      (failure = none ∧ Course f a lines events r) ∨ ∃ e, failure = some e ∧ events = [] ∧ r = .error e := by
  constructor
  · intro course
    cases course with
    | passed onward => exact .inl ⟨rfl, onward⟩
    | refused => exact .inr ⟨_, rfl, rfl, rfl⟩
  · rintro (⟨rfl, onward⟩ | ⟨e, rfl, rfl, rfl⟩)
    · exact .passed onward
    · exact .refused

theorem demand_eq_none_iff {condition : Bool} {e : KeeperError} :
    demand condition e = none ↔ condition = true := by
  cases condition <;> simp [demand]

theorem fault?_eq_none_iff {ε : Type} {x : Except ε α} : fault? x = none ↔ ∃ a, x = .ok a := by
  cases x <;> simp [fault?]

theorem routes_eq_ok_iff {owner : String} {routes : List Route} :
    f.routes owner = .ok routes ↔ ∃ network, f.network = some network ∧ desiredRoutes network = .ok routes := by
  unfold Findings.routes
  cases f.network <;> simp

end Lines

/-! ### The steps that bring a link into the declared state -/

/-- The name of the link has to be written: the finalizer has just been taken off, or the name is not
the recorded one. -/
def Unwritten (st : PassState) (name : String) : Prop := st.released = true ∨ st.nic.linkName? ≠ some name

theorem not_unwritten {nic : NetworkInterface} {name : String} (recorded : nic.linkName? = some name) :
    ¬ Unwritten ⟨nic, false⟩ name := by
  rintro (released | other)
  · cases released
  · exact other recorded

/-- The name of the link is recorded: it was so before, or it is written. The pass goes on with the copy. -/
inductive Recording (st : PassState) (name : String) (s : MemoryStore) :
    List Event → NetworkInterface → MemoryStore → Prop where
  | kept (held : st.released = false) (same : st.nic.linkName? = some name) :
      Recording st name s [] st.nic s
  | written {copy : NetworkInterface} {t : MemoryStore} (unwritten : Unwritten st name)
      (accepted : s.updateStatus (st.nic.withLinkName name) = (.ok copy, t)) :
      Recording st name s [⟨.writeStatus (st.nic.withLinkName name), .ok copy⟩] copy t

/-- The link does not get its routes: the copy belongs to no network that is stored with readable routes,
or the link refuses them. -/
def Unrouted (mac : String) (copy : NetworkInterface) (s : MemoryStore) (events : List Event) : Prop :=
  ∀ owner network routes, copy.ownerNetwork? = some owner → s.getNetwork owner = some network →
    desiredRoutes network = .ok routes → ∃ cause, ⟨.syncRoutes mac routes, .error cause⟩ ∈ events

/-- The link does not get its address or its routes. -/
def Obstructed (mac : String) (address : Network) (copy : NetworkInterface) (s : MemoryStore)
    (events : List Event) : Prop :=
  (∃ cause, ⟨.configureLink mac address, .error cause⟩ ∈ events) ∨ Unrouted mac copy s events

/-- What can come of the steps that bring a link into the declared state. -/
inductive Convergence (mac : String) (address : Network) (st : PassState) (s : MemoryStore) :
    List Event → Except KeeperError Outcome → MemoryStore → Prop where
  | unverified {answer : Call.Answer .readMetadata} {e : KeeperError}
      (unattached : ∀ document, answer = .ok document → document.hasInterface mac = false) :
      Convergence mac address st s [⟨.readMetadata, answer⟩] (.error e) s
  | unresolved {document : InstanceDocument} {cause : LinkError}
      (attached : document.hasInterface mac = true) :
      Convergence mac address st s [⟨.readMetadata, .ok document⟩, ⟨.linkName mac, .error cause⟩]
        (.error (.link cause)) s
  | unrecorded {document : InstanceDocument} {name : String} {cause : StoreError} {t : MemoryStore}
      (attached : document.hasInterface mac = true) (unwritten : Unwritten st name)
      (refused : s.updateStatus (st.nic.withLinkName name) = (.error cause, t)) :
      Convergence mac address st s
        [⟨.readMetadata, .ok document⟩, ⟨.linkName mac, .ok name⟩,
          ⟨.writeStatus (st.nic.withLinkName name), .error cause⟩]
        (.error (.store cause)) t
  | unconnected {document : InstanceDocument} {name : String} {written later : List Event}
      {copy : NetworkInterface} {t : MemoryStore} {e : KeeperError}
      (attached : document.hasInterface mac = true) (recording : Recording st name s written copy t)
      (obstructed : Obstructed mac address copy t later) :
      Convergence mac address st s
        (⟨.readMetadata, .ok document⟩ :: ⟨.linkName mac, .ok name⟩ :: (written ++ later)) (.error e) t
  | connected {document : InstanceDocument} {name owner : String} {written : List Event}
      {copy : NetworkInterface} {network : PrivateNetwork} {routes : List Route} {t : MemoryStore}
      (attached : document.hasInterface mac = true) (recording : Recording st name s written copy t)
      (owned : copy.ownerNetwork? = some owner) (found : t.getNetwork owner = some network)
      (declared : desiredRoutes network = .ok routes) :
      Convergence mac address st s
        (⟨.readMetadata, .ok document⟩ :: ⟨.linkName mac, .ok name⟩ ::
          (written ++ [⟨.configureLink mac address, .ok ()⟩, ⟨.readNetwork owner, .ok (some network)⟩,
            ⟨.syncRoutes mac routes, .ok ()⟩]))
        (.ok .done) t

/-- The copy that a pass goes on with is right. It is what is stored, unless the pass has let it go. -/
structure Holds (name : String) (s : MemoryStore) (st : PassState) : Prop where
  consistent : s.Consistent
  handedOut : s.HandedOut st.nic
  named : st.nic.metadata.name = some name
  present : st.released = false → s.getInterface name = some st.nic

section Holds

variable {st : PassState} {s t : MemoryStore} {nic written : NetworkInterface} {name link : String}
  {events : List Event}

/-- What a pass has read. -/
theorem Holds.of_read (consistent : s.Consistent) (present : s.getInterface name = some nic) :
    Holds name s ⟨nic, false⟩ :=
  ⟨consistent, consistent.handedOut present, consistent.named present, fun _ => present⟩

/-- What a pass has let go. -/
theorem Holds.of_release (consistent : s.Consistent) (present : s.getInterface name = some nic)
    (releases : Phase.releases nic = true) (accepted : s.update nic.withoutFinalizer = (.ok written, t)) :
    Holds name t ⟨written, true⟩ ∧ Moment.Keeps nic written ∧
      written.unversioned = nic.withoutFinalizer.unversioned ∧
      s.Rewritten t name (if nic.departs then none else some written) := by
  have named := consistent.named present
  obtain ⟨⟨-, keeps, handedOut, after⟩, same, rewritten⟩ :=
    MemoryStore.released_of_update consistent (consistent.handedOut present) named releases accepted
  exact ⟨⟨after, handedOut, keeps.name.trans named, fun kept => nomatch kept⟩, keeps, same, rewritten⟩

/-- Once the name of the link is recorded, the copy is what is stored. -/
theorem Recording.stored (recording : Recording st link s events written t) (holds : Holds name s st) :
    s.Accepted name st.nic written t ∧ written.unversioned = (st.nic.withLinkName link).unversioned ∧
      s.Rewritten t name (some written) := by
  cases recording with
  | kept held same =>
      rw [NetworkInterface.withLinkName_of_recorded same]
      have here := holds.present held
      exact ⟨⟨here, ⟨rfl, rfl, rfl⟩, holds.handedOut, holds.consistent⟩, rfl, here, fun _ _ => rfl, rfl⟩
  | written _ accepted =>
      exact MemoryStore.recorded_of_updateStatus holds.consistent holds.handedOut holds.named accepted

end Holds

section Converging

variable {key : ObjectKey} {mac : String} {address : Network} {st : PassState} {s t : MemoryStore}
  {f : Findings} {events : List Event} {r : Except KeeperError Outcome}

/-- A call that does not write either gives what is found, and the pass goes on, or ends it. -/
theorem idle_call {c : Call} {lines : List Line} (idle : c.isWrite = false)
    (course : Course f .done (.call c :: lines) events r) (replay : Replay s events t) :
    ∃ answer rest, events = ⟨c, answer⟩ :: rest ∧ Answered c answer s s ∧ Replay s rest t ∧
      ((f.Gives ⟨c, answer⟩ ∧ Course f .done lines rest r) ∨
        ∃ e, Event.failure? ⟨c, answer⟩ = some e ∧ rest = [] ∧ t = s ∧ r = .error e) := by
  obtain ⟨answer, rest, rfl, outcome⟩ := course_call_iff.mp course
  obtain ⟨answered, onward⟩ := replay.of_idle idle
  refine ⟨answer, rest, rfl, answered, onward, ?_⟩
  rcases outcome with gives | ⟨e, failure, rfl, failed⟩
  · exact .inl gives
  · exact .inr ⟨e, failure, rfl, replay_nil_iff.mp onward, failed⟩

/-- A check that is not stood ends the pass. -/
theorem stood_or_ended {failure : Option KeeperError} {lines : List Line}
    (course : Course f .done (.check failure :: lines) events r) (replay : Replay s events t) :
    (failure = none ∧ Course f .done lines events r) ∨
      ∃ e, failure = some e ∧ events = [] ∧ t = s ∧ r = .error e := by
  rcases course_check_iff.mp course with stood | ⟨e, failed, rfl, ended⟩
  · exact .inl stood
  · exact .inr ⟨e, failed, rfl, replay_nil_iff.mp replay, ended⟩

/-- What can come of the line that gives a link its routes. -/
theorem synced_of_course {routes : List Route} (course : Course f .done [.call (.syncRoutes mac routes)] events r)
    (replay : Replay s events t) :
    t = s ∧ ((∃ cause, r = .error (.link cause) ∧ events = [⟨.syncRoutes mac routes, .error cause⟩]) ∨
      r = .ok .done ∧ events = [⟨.syncRoutes mac routes, .ok ()⟩]) := by
  obtain ⟨answer, rest, rfl, -, onward, ⟨gives, ended⟩ | ⟨e, failure, rfl, same, rfl⟩⟩ :=
    idle_call rfl course replay
  · obtain rfl : answer = .ok () := gives
    obtain ⟨rfl, done⟩ := course_nil_iff.mp ended
    exact ⟨replay_nil_iff.mp onward, .inr ⟨done, rfl⟩⟩
  · cases answer with
    | error cause =>
        cases failure
        exact ⟨same, .inl ⟨cause, rfl, rfl⟩⟩
    | ok => cases failure

/-- What can come of the lines that give a link the routes of its network. -/
theorem routed_of_course {copy : NetworkInterface} (course : Course f .done (routeLines key mac copy f) events r)
    (replay : Replay s events t) :
    t = s ∧ ((∃ e, r = .error e ∧ Unrouted mac copy s events) ∨
      ∃ owner network routes, r = .ok .done ∧ copy.ownerNetwork? = some owner ∧
        s.getNetwork owner = some network ∧ desiredRoutes network = .ok routes ∧
        events = [⟨.readNetwork owner, .ok (some network)⟩, ⟨.syncRoutes mac routes, .ok ()⟩]) := by
  rcases stood_or_ended course replay with ⟨owns, asks⟩ | ⟨e, unowned, rfl, same, failed⟩
  · obtain ⟨owner, owned⟩ := Option.isSome_iff_exists.mp (demand_eq_none_iff.mp owns)
    simp only [owned, Option.getD_some] at asks
    obtain ⟨answer, rest, rfl, ⟨rfl, -⟩, onward, ⟨gives, routing⟩ | ⟨e, failure, -⟩⟩ := idle_call rfl asks replay
    · have shown : s.getNetwork owner = f.network := Except.ok.inj gives
      rcases stood_or_ended routing onward with ⟨readable, syncs⟩ | ⟨e, unreadable, rfl, same, failed⟩
      · obtain ⟨routes, read⟩ := fault?_eq_none_iff.mp readable
        obtain ⟨network, found, declared⟩ := routes_eq_ok_iff.mp read
        have given : (f.routes owner).toOption.getD [] = routes := by
          rw [read]
          rfl
        rw [given] at syncs
        rw [← shown] at found
        obtain ⟨same, ⟨cause, failed, rfl⟩ | ⟨done, rfl⟩⟩ := synced_of_course syncs onward
        · refine ⟨same, .inl ⟨_, failed, ?_⟩⟩
          intro other present known own here there
          obtain rfl : other = owner := Option.some.inj (own.symm.trans owned)
          obtain rfl : present = network := Option.some.inj (here.symm.trans found)
          obtain rfl : known = routes := Except.ok.inj (there.symm.trans declared)
          exact ⟨cause, List.mem_cons_of_mem _ List.mem_cons_self⟩
        · refine ⟨same, .inr ⟨owner, network, routes, done, owned, found, declared, ?_⟩⟩
          rw [found]
      · refine ⟨same, .inl ⟨e, failed, ?_⟩⟩
        intro other present known own here there
        obtain rfl : other = owner := Option.some.inj (own.symm.trans owned)
        rw [routes_eq_ok_iff.mpr ⟨present, shown.symm.trans here, there⟩] at unreadable
        cases unreadable
    · cases failure
  · refine ⟨same, .inl ⟨e, failed, ?_⟩⟩
    intro owner _ _ owned
    rw [owned] at unowned
    cases unowned

/-- What can come of the lines that connect a link. -/
theorem connected_of_course {copy : NetworkInterface}
    (course : Course f .done (.call (.configureLink mac address) :: routeLines key mac copy f) events r)
    (replay : Replay s events t) :
    t = s ∧ ((∃ e, r = .error e ∧ Obstructed mac address copy s events) ∨
      ∃ owner network routes, r = .ok .done ∧ copy.ownerNetwork? = some owner ∧
        s.getNetwork owner = some network ∧ desiredRoutes network = .ok routes ∧
        events = [⟨.configureLink mac address, .ok ()⟩, ⟨.readNetwork owner, .ok (some network)⟩,
          ⟨.syncRoutes mac routes, .ok ()⟩]) := by
  obtain ⟨answer, rest, rfl, -, onward, ⟨gives, routing⟩ | ⟨e, failure, rfl, same, failed⟩⟩ :=
    idle_call rfl course replay
  · obtain rfl : answer = .ok () := gives
    obtain ⟨same, ⟨e, failed, unrouted⟩ | ⟨owner, network, routes, done, owned, found, declared, rfl⟩⟩ :=
      routed_of_course routing onward
    · refine ⟨same, .inl ⟨e, failed, .inr ?_⟩⟩
      intro owner network routes owned found declared
      obtain ⟨cause, mem⟩ := unrouted owner network routes owned found declared
      exact ⟨cause, List.mem_cons_of_mem _ mem⟩
    · exact ⟨same, .inr ⟨owner, network, routes, done, owned, found, declared, rfl⟩⟩
  · refine ⟨same, .inl ⟨e, failed, .inl ?_⟩⟩
    cases answer with
    | error cause => exact ⟨cause, List.mem_cons_self⟩
    | ok => cases failure

/-- What can come of the lines that record the name of a link and connect it. -/
theorem named_of_course {document : InstanceDocument} (attached : document.hasInterface mac = true)
    (course : Course f .done
      (recordLines mac st f ++ (.call (.configureLink mac address) :: routeLines key mac (latest st f) f))
      events r)
    (replay : Replay s events t) :
    Convergence mac address st s (⟨.readMetadata, .ok document⟩ :: events) r t := by
  rw [recordLines_eq] at course
  obtain ⟨answer, rest, rfl, -, onward, ⟨gives, records⟩ | ⟨e, failure, rfl, rfl, rfl⟩⟩ :=
    idle_call rfl course replay
  · obtain rfl : answer = .ok f.linkName := gives
    by_cases writes : writesName st f = true
    · have unwritten : Unwritten st f.linkName := by simpa [Unwritten, writesName] using writes
      unfold latest at records
      rw [if_pos writes, if_pos writes] at records
      obtain ⟨answer, later, rfl, outcome⟩ := course_call_iff.mp records
      obtain ⟨u, ⟨answered, rfl⟩, settled⟩ := replay_cons_iff.mp onward
      rcases outcome with ⟨gives, connects⟩ | ⟨e, failure, rfl, rfl⟩
      · obtain rfl : answer = .ok f.recorded := gives
        have recording : Recording st f.linkName s _ f.recorded _ :=
          .written unwritten (Prod.ext answered.symm rfl)
        obtain ⟨rfl, ⟨e, rfl, obstructed⟩ | ⟨owner, network, routes, rfl, owned, found, declared, rfl⟩⟩ :=
          connected_of_course connects settled
        · exact .unconnected attached recording obstructed
        · exact .connected attached recording owned found declared
      · obtain rfl := replay_nil_iff.mp settled
        cases answer with
        | error cause =>
            cases failure
            exact .unrecorded attached unwritten (Prod.ext answered.symm rfl)
        | ok => cases failure
    · unfold latest at records
      rw [if_neg writes, if_neg writes] at records
      have kept : (!st.released && st.nic.linkName? = some f.linkName) = true :=
        Decidable.of_not_not fun skip => writes (writesName_iff.mpr skip)
      simp only [Bool.and_eq_true, Bool.not_eq_true', decide_eq_true_eq] at kept
      have recording : Recording st f.linkName s [] st.nic s := .kept kept.1 kept.2
      obtain ⟨rfl, ⟨e, rfl, obstructed⟩ | ⟨owner, network, routes, rfl, owned, found, declared, rfl⟩⟩ :=
        connected_of_course records onward
      · exact .unconnected attached recording obstructed
      · exact .connected attached recording owned found declared
  · cases answer with
    | error cause =>
        cases failure
        exact .unresolved attached
    | ok => cases failure

/-- What can come of the lines that bring a link into the declared state. -/
theorem convergence_of_course (course : Course f .done (convergeLines key mac address st f) events r)
    (replay : Replay s events t) : Convergence mac address st s events r t := by
  obtain ⟨answer, rest, rfl, -, onward, ⟨gives, verifies⟩ | ⟨e, failure, rfl, rfl, rfl⟩⟩ :=
    idle_call rfl course replay
  · obtain rfl : answer = .ok f.document := gives
    rcases stood_or_ended verifies onward with ⟨stands, names⟩ | ⟨e, refused, rfl, rfl, rfl⟩
    · exact named_of_course (demand_eq_none_iff.mp stands) names onward
    · refine .unverified fun document same => ?_
      cases same
      cases attached : f.document.hasInterface mac with
      | false => rfl
      | true =>
          rw [demand_eq_none_iff.mpr attached] at refused
          cases refused
  · refine .unverified fun document same => ?_
    subst same
    cases failure

/-- The steps come to their end or fail. -/
theorem Convergence.result (convergence : Convergence mac address st s events r t) :
    r = .ok .done ∨ ∃ e, r = .error e := by
  cases convergence with
  | connected => exact .inl rfl
  | unverified | unresolved | unrecorded | unconnected => exact .inr ⟨_, rfl⟩

end Converging

/-! ### Whole passes -/

/-- What can come of a pass over an interface of this node whose addresses are known, once it is read. -/
inductive Working (settings : Settings) (mac : String) (address : Network) (nic : NetworkInterface)
    (s : MemoryStore) : List Event → Except KeeperError Outcome → MemoryStore → Prop where
  | converging {events : List Event} {r : Except KeeperError Outcome} {t : MemoryStore}
      (stays : Phase.releases nic = false) (convergence : Convergence mac address ⟨nic, false⟩ s events r t) :
      Working settings mac address nic s events r t
  | untorn {cause : LinkError} (releases : Phase.releases nic = true) :
      Working settings mac address nic s [⟨.tearDownLink mac address, .error cause⟩] (.error (.link cause)) s
  | unreleased {cause : StoreError} {t : MemoryStore} (releases : Phase.releases nic = true)
      (refused : s.update nic.withoutFinalizer = (.error cause, t)) :
      Working settings mac address nic s
        [⟨.tearDownLink mac address, .ok ()⟩, ⟨.writeInterface nic.withoutFinalizer, .error cause⟩]
        (.error (.store cause)) t
  | ended {written : NetworkInterface} {t : MemoryStore} (releases : Phase.releases nic = true)
      (short : settings.endAfterTearDown = true)
      (accepted : s.update nic.withoutFinalizer = (.ok written, t)) :
      Working settings mac address nic s
        [⟨.tearDownLink mac address, .ok ()⟩, ⟨.writeInterface nic.withoutFinalizer, .ok written⟩]
        (.ok .done) t
  | released {written : NetworkInterface} {t u : MemoryStore} {events : List Event}
      {r : Except KeeperError Outcome} (releases : Phase.releases nic = true)
      (long : settings.endAfterTearDown = false)
      (accepted : s.update nic.withoutFinalizer = (.ok written, t))
      (convergence : Convergence mac address ⟨written, true⟩ t events r u) :
      Working settings mac address nic s
        (⟨.tearDownLink mac address, .ok ()⟩ :: ⟨.writeInterface nic.withoutFinalizer, .ok written⟩ :: events)
        r u

/-- What can come of a pass. -/
inductive Account (settings : Settings) (key : ObjectKey) (s : MemoryStore) :
    List Event → Except KeeperError Outcome → MemoryStore → Prop where
  | absent (gone : s.getInterface key.name = none) :
      Account settings key s [⟨.readInterface key.name, .ok none⟩] (.ok .done) s
  | foreign {nic : NetworkInterface} (present : s.getInterface key.name = some nic)
      (elsewhere : nic.spec.nodeName ≠ settings.nodeName) :
      Account settings key s [⟨.readInterface key.name, .ok (some nic)⟩] (.ok .done) s
  | awaiting {nic : NetworkInterface} (present : s.getInterface key.name = some nic)
      (here : nic.spec.nodeName = settings.nodeName) (unknown : nic.macAddress? = none) :
      Account settings key s [⟨.readInterface key.name, .ok (some nic)⟩]
        (.ok (.requeueAfter settings.addressWait)) s
  | malformed {nic : NetworkInterface} {mac : String} {e : KeeperError}
      (present : s.getInterface key.name = some nic) (here : nic.spec.nodeName = settings.nodeName)
      (known : nic.macAddress? = some mac) (malformed : addressOf nic = .error e) :
      Account settings key s [⟨.readInterface key.name, .ok (some nic)⟩] (.error e) s
  | working {nic : NetworkInterface} {mac : String} {address : Network} {events : List Event}
      {r : Except KeeperError Outcome} {t : MemoryStore}
      (present : s.getInterface key.name = some nic) (here : nic.spec.nodeName = settings.nodeName)
      (known : nic.macAddress? = some mac) (parsed : addressOf nic = .ok address)
      (working : Working settings mac address nic s events r t) :
      Account settings key s (⟨.readInterface key.name, .ok (some nic)⟩ :: events) r t

section Wholes

variable {settings : Settings} {key : ObjectKey} {mac : String} {address : Network}
  {nic : NetworkInterface} {s t : MemoryStore} {f : Findings} {events : List Event}
  {r : Except KeeperError Outcome}

theorem working_of_course (parsed : addressOf nic = .ok address)
    (course : Course f .done (script settings key nic mac f) events r) (replay : Replay s events t) :
    Working settings mac address nic s events r t := by
  rw [script_of_address parsed] at course
  by_cases releases : (nic.isTerminating && nic.hasFinalizer) = true
  · rw [if_pos releases] at course
    obtain ⟨answer, rest, rfl, -, onward, ⟨gives, releasing⟩ | ⟨e, failure, rfl, rfl, rfl⟩⟩ :=
      idle_call rfl course replay
    · obtain rfl : answer = .ok () := gives
      obtain ⟨answer, later, rfl, outcome⟩ := course_call_iff.mp releasing
      obtain ⟨u, ⟨answered, rfl⟩, settled⟩ := replay_cons_iff.mp onward
      rcases outcome with ⟨gives, converges⟩ | ⟨e, failure, rfl, rfl⟩
      · obtain rfl : answer = .ok f.written := gives
        have accepted : s.update nic.withoutFinalizer = (.ok f.written, _) := Prod.ext answered.symm rfl
        cases short : settings.endAfterTearDown with
        | true =>
            rw [if_pos short] at converges
            obtain ⟨rfl, rfl⟩ := course_nil_iff.mp converges
            obtain rfl := replay_nil_iff.mp settled
            exact .ended releases short accepted
        | false =>
            rw [if_neg (by simp [short])] at converges
            exact .released releases short accepted (convergence_of_course converges settled)
      · obtain rfl := replay_nil_iff.mp settled
        cases answer with
        | error cause =>
            cases failure
            exact .unreleased releases (Prod.ext answered.symm rfl)
        | ok => cases failure
    · cases answer with
      | error cause =>
          cases failure
          exact .untorn releases
      | ok => cases failure
  · rw [if_neg releases] at course
    exact .converging (Bool.eq_false_iff.mpr releases) (convergence_of_course course replay)

/-- A pass over such an interface is done or fails. -/
theorem Working.result (working : Working settings mac address nic s events r t) :
    r = .ok .done ∨ ∃ e, r = .error e := by
  cases working with
  | ended => exact .inl rfl
  | untorn | unreleased => exact .inr ⟨_, rfl⟩
  | converging _ convergence | released _ _ _ convergence => exact convergence.result

theorem Alone.account (alone : Alone settings key s events r t) : Account settings key s events r t := by
  obtain ⟨path, replay⟩ := alone
  obtain ⟨found, rest, rfl, follows⟩ := path_reconcile path
  obtain ⟨⟨rfl, -⟩, onward⟩ := replay.of_idle rfl
  cases present : s.getInterface key.name with
  | none =>
      rw [present] at follows
      obtain ⟨rfl, rfl⟩ := follows
      obtain rfl := replay_nil_iff.mp onward
      exact .absent present
  | some nic =>
      rw [present] at follows
      unfold Follows at follows
      dsimp only at follows
      by_cases here : nic.spec.nodeName = settings.nodeName
      · rw [if_neg (not_not_intro here)] at follows
        cases known : nic.macAddress? with
        | none =>
            rw [known] at follows
            obtain ⟨rfl, rfl⟩ := follows
            obtain rfl := replay_nil_iff.mp onward
            exact .awaiting present here known
        | some mac =>
            rw [known] at follows
            obtain ⟨f, performs⟩ := follows
            cases parsed : addressOf nic with
            | ok address => exact .working present here known parsed (working_of_course parsed performs.course onward)
            | error e =>
                have course := performs.course
                unfold script at course
                rw [parsed] at course
                rcases stood_or_ended course onward with ⟨passed, -⟩ | ⟨cause, failed, rfl, rfl, rfl⟩
                · cases passed
                · cases failed
                  exact .malformed present here known parsed
      · rw [if_pos here] at follows
        obtain ⟨rfl, rfl⟩ := follows
        obtain rfl := replay_nil_iff.mp onward
        exact .foreign present here

/-- A pass that finds an interface of this node with both addresses works on it. -/
theorem Alone.working (alone : Alone settings key s events r t) (present : s.getInterface key.name = some nic)
    (here : nic.spec.nodeName = settings.nodeName) (known : nic.macAddress? = some mac)
    (parsed : addressOf nic = .ok address) :
    ∃ rest, events = ⟨.readInterface key.name, .ok (some nic)⟩ :: rest ∧
      Working settings mac address nic s rest r t := by
  cases alone.account with
  | absent gone => cases gone.symm.trans present
  | foreign found elsewhere =>
      cases found.symm.trans present
      exact absurd here elsewhere
  | awaiting found _ unknown =>
      cases found.symm.trans present
      cases unknown.symm.trans known
  | malformed found _ _ malformed =>
      cases found.symm.trans present
      cases malformed.symm.trans parsed
  | working found _ knew read working =>
      cases found.symm.trans present
      cases knew.symm.trans known
      cases read.symm.trans parsed
      exact ⟨_, rfl, working⟩

end Wholes

end Pass

/-! ### Passes in a world -/

namespace World

variable {α : Type}

/-- The store of a world goes through the calls of its runs. -/
theorem replay (p : Program Call Call.Answer α) (w : World) :
    Pass.Replay w.store (Program.trace World.answer p w) (Program.run World.answer p w).2.store := by
  induction p generalizing w with
  | done a => exact .nil
  | ask c next ih => exact .cons (answered c w) (ih _ _)

/-- The calls of a pass with their answers. -/
def trace (w : World) (settings : Settings) (key : ObjectKey) : List Pass.Event :=
  Program.trace World.answer (Pass.reconcile settings key).run w

theorem alone (w : World) (settings : Settings) (key : ObjectKey) :
    Pass.Alone settings key w.store (w.trace settings key) (w.reconcile settings key).1
      (w.reconcile settings key).2.store where
  path := Program.path_run World.answer _ w
  replay := replay _ w

end World

end LinkKeeper
