import LinkKeeper.Proofs.Reconcile.Writes

/-!
Links that are torn down.

The finalizer of an interface stands for its link: while it is there, the link may be up, and once it is
gone nobody will take the link down any more.

* `Moment.Frees`: a call after which the finalizer no longer holds an interface.
* `Pass.of_failed_tearDown`: a pass ends with a tear-down that fails.
* `Pass.teardown_precedes_release`: no finalizer goes before the link has been torn down.
-/

namespace LinkKeeper

open Net

namespace Moment

/-- The finalizer held the stored interface before the call, and no longer does after it: it has been
taken off, or the interface is gone. -/
structure Frees (m : Moment) (name : String) (stored : NetworkInterface) : Prop where
  present : m.before.interfaces.get? name = some stored
  freed : m.after.interfaces.get? name = none ∨
    stored.hasFinalizer = true ∧
      ∃ now, m.after.interfaces.get? name = some now ∧ now.hasFinalizer = false

/-- A lawful call that frees an interface releases it. -/
theorem Lawful.releases_of_frees {settings : Settings} {key : ObjectKey} {past : List Moment} {m : Moment}
    {name : String} {stored : NetworkInterface} (lawful : m.Lawful settings key past)
    (frees : m.Frees name stored) : ∃ written, m.Releases settings key past stored written := by
  obtain ⟨present, freed⟩ := frees
  rcases lawful.after_get? name with
    same | ⟨rfl, ⟨old, written, release, -⟩ | ⟨old, written, link, record, there⟩⟩
  · -- What is found is what was there, so it is neither gone nor without the finalizer.
    rw [same, present] at freed
    rcases freed with gone | ⟨held, now, found, free⟩
    · cases gone
    · cases found
      rw [held] at free
      cases free
  · have same : old = stored := Option.some.inj (release.present.symm.trans present)
    exact ⟨written, same ▸ release⟩
  · have same : old = stored := Option.some.inj (record.present.symm.trans present)
    rw [there] at freed
    rcases freed with gone | ⟨held, now, found, free⟩
    · cases gone
    · cases found
      -- Recording the name of the link leaves the finalizers as they are.
      have kept : written.metadata.finalizers = old.metadata.finalizers :=
        (congrArg ObjectMeta.finalizers record.named.metadata :)
      unfold NetworkInterface.hasFinalizer at free held
      rw [kept, same, held] at free
      cases free

end Moment

namespace Pass

/-! ### A tear-down that fails -/

section Failure

variable {settings : Settings} {key : ObjectKey} {nic : NetworkInterface} {mac : String}
  {address : Network} {f : Findings} {s : PassState}

theorem tearDownLink_not_mem_converge (other : String) (elsewhere : Network) :
    Call.tearDownLink other elsewhere ∉ callsOf (convergeLines key mac address s f) := by
  unfold convergeLines verifyLines recordLines routeLines callsOf
  split <;> simp

/-- A script tears a link down in its first call or not at all. -/
theorem tearDownLink_not_mem_tail (other : String) (elsewhere : Network) :
    Call.tearDownLink other elsewhere ∉ (callsOf (script settings key nic mac f)).tail := by
  cases parsed : addressOf nic with
  | error e =>
      unfold script callsOf
      rw [parsed]
      simp
  | ok address =>
      rw [script_of_address parsed]
      by_cases releases : (nic.isTerminating && nic.hasFinalizer) = true
      · rw [if_pos releases]
        cases settings.endAfterTearDown with
        | true => simp [callsOf, releaseLines]
        | false =>
            have absent : Call.tearDownLink other elsewhere ∉
                callsOf (convergeLines key mac address ⟨f.written, true⟩ f) :=
              tearDownLink_not_mem_converge other elsewhere
            simpa [callsOf, releaseLines] using absent
      · rw [if_neg releases]
        exact fun mem => tearDownLink_not_mem_converge other elsewhere (List.mem_of_mem_tail mem)

/-- A pass that performs a script makes no call but a tear-down that fails, and ends with its error. -/
theorem Performs.of_failed_tearDown {events earlier later : List Event} {result : Except KeeperError Outcome}
    {other : String} {elsewhere : Network} {e : LinkError}
    (performs : Performs f (script settings key nic mac f) events result)
    (split : events = earlier ++ ⟨.tearDownLink other elsewhere, .error e⟩ :: later) :
    earlier = [] ∧ later = [] ∧ result = .error (.link e) := by
  obtain ⟨last, failed⟩ := performs.course.eq_error_of_failure split rfl
  refine ⟨?_, last, failed⟩
  cases earlier with
  | nil => rfl
  | cons first others =>
      have mem : Call.tearDownLink other elsewhere ∈ (callsOf (script settings key nic mac f)).tail := by
        obtain ⟨more, whole⟩ := performs.calls
        rw [← whole, split]
        simp
      exact absurd mem (tearDownLink_not_mem_tail other elsewhere)

/-- A pass whose tear-down fails has only read the interface before, and ends with the error. -/
theorem of_failed_tearDown {events earlier later : List Event} {result : Except KeeperError Outcome}
    {other : String} {elsewhere : Network} {e : LinkError} (path : Path (reconcile settings key) events result)
    (split : events = earlier ++ ⟨.tearDownLink other elsewhere, .error e⟩ :: later) :
    (∃ found, earlier = [⟨.readInterface key.name, found⟩]) ∧ later = [] ∧ result = .error (.link e) := by
  obtain ⟨found, rest, rfl, follows⟩ := path_reconcile path
  cases earlier with
  | nil => cases split
  | cons first others =>
      obtain ⟨rfl, rfl⟩ := List.cons.inj split
      unfold Follows at follows
      split at follows
      · exact absurd follows.1 (by simp)
      · exact absurd follows.1 (by simp)
      · split at follows
        · exact absurd follows.1 (by simp)
        · split at follows
          · exact absurd follows.1 (by simp)
          · obtain ⟨f, performs⟩ := follows
            obtain ⟨rfl, last, failed⟩ := performs.of_failed_tearDown rfl
            exact ⟨⟨_, rfl⟩, last, failed⟩

end Failure

/-! ### What goes before a release -/

/-- No pass lets an interface go before it has torn down its link, whatever other writers do
meanwhile; and when that fails it does nothing more. -/
theorem teardown_precedes_release {settings : Settings} {key : ObjectKey} {s : MemoryStore}
    {moments : List Moment} {result : Except KeeperError Outcome} (reached : MemoryStore.empty.Reaches s)
    (run : Interleaved (reconcile settings key).run s moments result) {earlier later : List Moment}
    {m : Moment} (split : moments = earlier ++ m :: later) :
    (∀ name stored, m.Frees name stored →
      Moment.TornDown earlier stored ∧ stored.isTerminating = true ∧
        stored.spec.nodeName = settings.nodeName) ∧
      ∀ mac address e, m.event = ⟨.tearDownLink mac address, .error e⟩ →
        later = [] ∧ result = .error (.link e) ∧ ∀ w ∈ moments, w.call.isWrite = false := by
  constructor
  · intro name stored frees
    obtain ⟨_, release⟩ := (moments_lawful reached run split).releases_of_frees frees
    exact ⟨release.tornDown, release.terminating, release.here⟩
  · intro mac address e failed
    have events : moments.map Moment.event =
        earlier.map Moment.event ++ ⟨.tearDownLink mac address, .error e⟩ :: later.map Moment.event := by
      rw [split, ← failed]
      simp
    obtain ⟨⟨found, first⟩, last, ended⟩ := of_failed_tearDown run.path events
    obtain ⟨read, rfl, asked⟩ := List.map_eq_singleton_iff.mp first
    obtain rfl := List.map_eq_nil_iff.mp last
    refine ⟨rfl, ended, ?_⟩
    have called : m.call = .tearDownLink mac address := congrArg Sigma.fst failed
    have readCall : read.call = .readInterface key.name := congrArg Sigma.fst asked
    subst split
    intro w mem
    simp only [List.singleton_append, List.mem_cons, List.not_mem_nil, or_false] at mem
    rcases mem with rfl | rfl
    · rw [readCall]
      rfl
    · rw [called]
      rfl

/-- The same node, on which no link can be torn down. -/
def stuckWorld : World :=
  { departingWorld with
    links := departingWorld.links.onRecorded (RecordedLinks.failOn · .tearDown) }

set_option maxRecDepth 8000 in
theorem departing_teardown_precedes_release :
    (∃ earlier m later,
      World.moments (reconcile departingSettings departingKey).run departingWorld = earlier ++ m :: later ∧
        m.Frees "nic-a" (departing.atVersion "1") ∧ Moment.TornDown earlier (departing.atVersion "1")) ∧
      (stuckWorld.reconcile departingSettings departingKey).1 =
          .error (.link (.injected "injected failure for TearDown")) ∧
        ∀ w ∈ World.moments (reconcile departingSettings departingKey).run stuckWorld,
          w.call.isWrite = false := by
  have reached : MemoryStore.empty.Reaches departingWorld.store := .single (.put departing)
  have run := World.interleaved (reconcile departingSettings departingKey).run
  constructor
  · have split : World.moments (reconcile departingSettings departingKey).run departingWorld =
        (World.moments (reconcile departingSettings departingKey).run departingWorld).take 2 ++
          _ :: (World.moments (reconcile departingSettings departingKey).run departingWorld).drop 3 := rfl
    have released := (teardown_precedes_release reached (run departingWorld) split).1
    refine ⟨_, _, _, split, ⟨rfl, .inl rfl⟩, ?_⟩
    exact (released "nic-a" (departing.atVersion "1") ⟨rfl, .inl rfl⟩).1
  · have split : World.moments (reconcile departingSettings departingKey).run stuckWorld =
        (World.moments (reconcile departingSettings departingKey).run stuckWorld).take 1 ++ _ :: [] := rfl
    exact ((teardown_precedes_release reached (run stuckWorld) split).2 _ _ _ rfl).2

end Pass

end LinkKeeper
