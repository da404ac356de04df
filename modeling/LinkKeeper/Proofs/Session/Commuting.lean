import LinkKeeper.Proofs.Reconcile.Abreast
import LinkKeeper.Proofs.Session.Accounts
import LinkKeeper.Proofs.Watch.Members

/-!
Passes over different objects, in any order.

Passes share the versions that the store gives out, the table of the failures and the counts. What one of them does
there, the pass over another object does not see: it finds its own object, its own failures, and everything that it
only reads, as they were.

* `Session.visits`, `Session.round`: passes one after the other, with what each of them gives.
* `Session.Twins`: two sessions in which passes over an object go the same way; `Session.Twins.pass` keeps it.
* `Session.visits_eq`: each pass of a round goes as if it were the first.
* `Session.passes_commute`: the order of the passes changes neither what they give nor where they end.
-/

namespace LinkKeeper

open Pass

/-- What a pass over an object has given: its result, what follows it, and what it has asked of the links and of the
metadata service. -/
structure Visit where
  result : Except KeeperError Outcome
  action : Action
  noted : Notes

namespace Session

/-- A pass over an object. -/
def visit (s : Session) (object : NetworkInterface) (elapsed : Duration) : Visit :=
  let (result, action, after) := s.pass object elapsed
  ⟨result, action, after.world.notes.since s.world.notes⟩

/-- Passes over objects one after the other, each taking some time: what they give. -/
def visits (s : Session) : List (NetworkInterface × Duration) → List (NetworkInterface × Visit)
  | [] => []
  | (object, elapsed) :: rest =>
    (object, s.visit object elapsed) :: (s.pass object elapsed).2.2.visits rest

/-- Passes over objects one after the other: where they end. -/
def round (s : Session) : List (NetworkInterface × Duration) → Session
  | [] => s
  | (object, elapsed) :: rest => (s.pass object elapsed).2.2.round rest

/-! ### Sessions that can come about -/

/-- The session can come about from one that starts with an empty store. -/
def Reached (s : Session) : Prop :=
  ∃ settings backoff links machine events,
    s = (start settings backoff ⟨.empty, links, machine⟩).run events

section Reached

variable {s : Session}

theorem reaches_reconcile (w : World) (settings : Settings) (key : ObjectKey) :
    w.store.Reaches (w.reconcile settings key).2.store := (w.alone settings key).replay.reaches

theorem reaches_fanOut (s : Session) (change : NetworkChange) :
    s.world.store.Reaches (s.fanOut change).2.world.store := by
  show s.world.store.Reaches (FanOut.handle change s.world.store s.attempts.metrics).2.1
  unfold FanOut.handle
  cases FanOut.lookup? change with
  | none => exact .refl
  | some selector =>
      have listed : s.world.store.Reaches (s.world.store.list selector).2 := .single (.list selector)
      dsimp only
      split <;> simp_all

/-- Whatever happens, the store is changed as by its users. -/
theorem reaches_after (s : Session) (e : SessionEvent) : s.world.store.Reaches (s.after e).world.store := by
  cases e with
  | pass object elapsed =>
      show s.world.store.Reaches (s.attempt object).2.world.store
      unfold attempt
      split
      · exact .refl
      · exact reaches_reconcile _ _ _
  | reconcile key => exact reaches_reconcile _ _ _
  | observe event =>
      show s.world.store.Reaches (s.observe event).2.world.store
      unfold observe
      simp only [Snapshots.observe]
      split
      · exact .refl
      · exact reaches_fanOut { s with snapshots := s.snapshots.after event } _
  | fanOut change => exact reaches_fanOut s change
  | store change => exact .single change
  | failed | links | machine | ready => exact .refl

theorem reaches_run (s : Session) (events : List SessionEvent) :
    s.world.store.Reaches (s.run events).world.store := by
  induction events generalizing s with
  | nil => exact .refl
  | cons e rest ih => exact (s.reaches_after e).trans (ih _)

theorem Reached.consistent (reached : s.Reached) : s.world.store.Consistent := by
  obtain ⟨settings, backoff, links, machine, events, rfl⟩ := reached
  exact (reaches_run _ events).consistent MemoryStore.consistent_empty

end Reached

/-! ### Passes over an object in two sessions -/

/-- In both sessions passes over the object with the name go the same way from now on. -/
structure Twins (name : String) (a b : Session) : Prop where
  settings : a.settings = b.settings
  worlds : World.Twins name a.world b.world
  attempts : ∀ k : ObjectKey, k.name = name → Attempts.Level k a.attempts b.attempts

section Twins

variable {a b c s : Session} {name : String} {object : NetworkInterface} {elapsed later : Duration}

theorem Twins.refl (settled : s.world.store.Settled) (name : String) : Twins name s s :=
  ⟨rfl, ⟨settled, settled, rfl, rfl, rfl⟩, fun _ _ => ⟨rfl, rfl⟩⟩

theorem Twins.symm (twins : Twins name a b) : Twins name b a :=
  ⟨twins.settings.symm,
    ⟨twins.worlds.settledOther, twins.worlds.settled, twins.worlds.networks.symm, twins.worlds.outside.symm,
      twins.worlds.interface.symm⟩,
    fun k own => (twins.attempts k own).symm⟩

theorem Twins.trans (first : Twins name a b) (second : Twins name b c) : Twins name a c :=
  ⟨first.settings.trans second.settings,
    ⟨first.worlds.settled, second.worlds.settledOther, first.worlds.networks.trans second.worlds.networks,
      first.worlds.outside.trans second.worlds.outside, first.worlds.interface.trans second.worlds.interface⟩,
    fun k own => (first.attempts k own).trans (second.attempts k own)⟩

/-- A pass over an object without a name changes nothing. -/
theorem pass_of_unnamed (unnamed : object.metadata.name = none) :
    s.pass object elapsed = (.error (.store (.unnamed interfaceKind)), .awaitChange, s) := by
  have key : object.key? = none := by simp [NetworkInterface.key?, ObjectKey.of?, unnamed]
  simp [pass, attempt, key, Attempts.settle, Attempts.onError]

/-- A pass over one with a name is a pass over its key, which is then settled. -/
theorem pass_of_key {key : ObjectKey} (named : object.key? = some key) :
    s.pass object elapsed =
      let done := s.world.reconcile s.settings key
      let settled := Trial.settle s.attempts (.pass object done.1 elapsed)
      (done.1, settled.1, { s with world := done.2, attempts := settled.2 }) := by
  simp [pass, attempt, named, reconcile, Trial.settle]

theorem key?_of_named (named : object.metadata.name = some name) :
    ∃ key : ObjectKey, object.key? = some key ∧ key.name = name :=
  ⟨⟨name, object.metadata.namespaceName.getD ""⟩, by simp [NetworkInterface.key?, ObjectKey.of?, named], rfl⟩

/-- A pass over the object gives the same in both, and they go on alike. -/
theorem Twins.pass (twins : Twins name a b) (named : object.metadata.name = some name) :
    a.visit object elapsed = b.visit object later ∧
      Twins name (a.pass object elapsed).2.2 (b.pass object later).2.2 := by
  obtain ⟨key, keyed, rfl⟩ := key?_of_named named
  obtain ⟨settings, worlds, attempts⟩ := twins
  obtain ⟨result, left, right, interface, more, noted, notedOther⟩ := worlds.reconcile a.settings
  have concerned : (Trial.pass object (a.world.reconcile a.settings key).1 elapsed).Concerns key :=
    Trial.key?_eq_some_iff.mp keyed
  have concernedOther : (Trial.pass object (b.world.reconcile a.settings key).1 later).Concerns key :=
    Trial.key?_eq_some_iff.mp keyed
  obtain ⟨action, level⟩ := (attempts key rfl).settle concerned concernedOther result.symm
  unfold visit
  rw [pass_of_key keyed, pass_of_key keyed, ← settings]
  refine ⟨?_, rfl, ⟨left.settled, right.settled, ?_, ?_, interface⟩, ?_⟩
  · dsimp only
    rw [noted, notedOther, Notes.append_since, Notes.append_since, action, result]
  · exact left.networks.trans (worlds.networks.trans right.networks.symm)
  · exact left.outside.trans (worlds.outside.trans right.outside.symm)
  · intro k own
    by_cases same : k = key
    · exact same ▸ level
    · have other : ∀ t : Trial, t.Concerns key → ¬ t.Concerns k := fun t mine its => same (its.unique mine)
      exact (Attempts.level_settle_of_other (other _ concerned)).trans
        ((attempts k own).trans (Attempts.level_settle_of_other (other _ concernedOther)).symm)

/-- What a pass gives is the same in sessions that do not differ for its object. -/
theorem visit_congr (alike : ∀ name, object.metadata.name = some name → Twins name a b) :
    a.visit object elapsed = b.visit object later := by
  cases own : object.metadata.name with
  | none =>
      have nothing (s : Session) (elapsed : Duration) :
          s.visit object elapsed = ⟨.error (.store (.unnamed interfaceKind)), .awaitChange, .none⟩ := by
        simp [visit, pass_of_unnamed own]
      rw [nothing, nothing]
  | some name => exact ((alike name own).pass own).1

/-- A pass over another object changes nothing for the object with the name. -/
theorem twins_pass_of_other (settled : s.world.store.Settled) (other : object.metadata.name ≠ some name) :
    Twins name (s.pass object elapsed).2.2 s := by
  cases own : object.metadata.name with
  | none =>
      rw [pass_of_unnamed own]
      exact .refl settled name
  | some different =>
      obtain ⟨key, keyed, rfl⟩ := key?_of_named own
      have apart : name ≠ key.name := fun same => other (own.trans (congrArg some same.symm))
      obtain ⟨-, left, -⟩ := (Twins.refl settled key.name).worlds.reconcile s.settings
      have concerned : (Trial.pass object (s.world.reconcile s.settings key).1 elapsed).Concerns key :=
        Trial.key?_eq_some_iff.mp keyed
      rw [pass_of_key keyed]
      refine ⟨rfl, ⟨left.settled, settled, left.networks, left.outside, ?_⟩, ?_⟩
      · exact congrArg _ (left.elsewhere name apart)
      · intro k named
        refine Attempts.level_settle_of_other fun mine => apart ?_
        rw [← named, mine.unique concerned]

theorem settled_pass (settled : s.world.store.Settled) :
    (s.pass object elapsed).2.2.world.store.Settled := by
  cases own : object.metadata.name with
  | none =>
      rw [pass_of_unnamed own]
      exact settled
  | some name =>
      have twins : Twins name (s.pass object elapsed).2.2 (s.pass object elapsed).2.2 :=
        ((Twins.refl settled name).pass own).2
      exact twins.worlds.settled

end Twins

/-! ### Rounds -/

section Rounds

variable {s : Session} {name : String} {errands : List (NetworkInterface × Duration)}

/-- The names of the objects of a round, in order. -/
def namesOf (errands : List (NetworkInterface × Duration)) : List (Option String) :=
  errands.map fun errand => errand.1.metadata.name

theorem mem_namesOf {object : NetworkInterface} {elapsed : Duration} (mem : (object, elapsed) ∈ errands) :
    object.metadata.name ∈ namesOf errands := List.mem_map.mpr ⟨_, mem, rfl⟩

theorem nodup_namesOf_cons {object : NetworkInterface} {elapsed : Duration} :
    (namesOf ((object, elapsed) :: errands)).Nodup ↔
      object.metadata.name ∉ namesOf errands ∧ (namesOf errands).Nodup := List.nodup_cons

/-- A round without the object changes nothing for it. -/
theorem twins_round_of_absent (settled : s.world.store.Settled) (absent : some name ∉ namesOf errands) :
    Twins name (s.round errands) s := by
  induction errands generalizing s with
  | nil => exact .refl settled name
  | cons errand rest ih =>
      obtain ⟨object, elapsed⟩ := errand
      have other : object.metadata.name ≠ some name := fun same =>
        absent (same ▸ mem_namesOf List.mem_cons_self)
      have later : some name ∉ namesOf rest := fun mem => absent (List.mem_cons_of_mem _ mem)
      exact (ih (settled_pass settled) later).trans (twins_pass_of_other settled other)

/-- A round with the object, once, leaves it as the pass over it by itself. -/
theorem twins_round_of_mem {object : NetworkInterface} {elapsed : Duration} (settled : s.world.store.Settled)
    (once : (namesOf errands).Nodup) (mem : (object, elapsed) ∈ errands) (named : object.metadata.name = some name) :
    Twins name (s.round errands) (s.pass object .zero).2.2 := by
  induction errands generalizing s with
  | nil => cases mem
  | cons errand rest ih =>
      obtain ⟨first, took⟩ := errand
      obtain ⟨absent, once⟩ := nodup_namesOf_cons.mp once
      have next : (s.pass first took).2.2.world.store.Settled := settled_pass settled
      rcases List.mem_cons.mp mem with same | mem
      · cases same
        rw [named] at absent
        exact (twins_round_of_absent next absent).trans ((Twins.refl settled name).pass named).2
      · have other : first.metadata.name ≠ some name := fun same =>
          absent (same.trans named.symm ▸ mem_namesOf mem)
        exact (ih next once mem).trans ((twins_pass_of_other settled other).pass named).2

/-- Each pass of a round gives what it would have given at first. -/
theorem visits_eq (settled : s.world.store.Settled) (once : (namesOf errands).Nodup) :
    s.visits errands = errands.map fun errand => (errand.1, s.visit errand.1 .zero) := by
  induction errands generalizing s with
  | nil => rfl
  | cons errand rest ih =>
      obtain ⟨object, elapsed⟩ := errand
      obtain ⟨absent, once⟩ := nodup_namesOf_cons.mp once
      have first : s.visit object elapsed = s.visit object .zero := visit_congr fun name _ => .refl settled name
      have later : ∀ errand ∈ rest,
          (s.pass object elapsed).2.2.visit errand.1 .zero = s.visit errand.1 .zero := by
        rintro ⟨another, took⟩ mem
        refine visit_congr fun name named => twins_pass_of_other settled fun same => absent ?_
        exact same.trans named.symm ▸ mem_namesOf mem
      rw [visits, first, ih (settled_pass settled) once, List.map_cons]
      refine congrArg _ (List.map_congr_left fun errand mem => ?_)
      rw [later errand mem]

/-! ### The counts -/

/-- One more under a label. -/
def bump (passes : Table String Nat) (r : PassResult) : Table String Nat :=
  passes.insert r.label ((passes.get? r.label).getD 0 + 1)

/-- It does not matter in which order results are counted. -/
theorem bump_comm (passes : Table String Nat) (r q : PassResult) :
    bump (bump passes r) q = bump (bump passes q) r := by
  refine Table.ext_get? fun label => ?_
  by_cases same : r.label = q.label
  · simp [bump, same]
  · simp only [bump, Table.get?_insert, same, Ne.symm same, if_false]
    split <;> split <;> simp_all

/-- How a pass over an object is counted. -/
def counted? (visit : NetworkInterface × Visit) : Option PassResult :=
  (Trial.pass visit.1 visit.2.result .zero).counted?

/-- A pass counts its result, if its object has a name. -/
theorem metrics_pass (s : Session) (object : NetworkInterface) (elapsed : Duration) :
    (s.pass object elapsed).2.2.attempts.metrics.passes =
        (counted? (object, s.visit object elapsed)).toList.foldl bump s.attempts.metrics.passes ∧
      (s.pass object elapsed).2.2.attempts.metrics.durations.count =
        s.attempts.metrics.durations.count + (counted? (object, s.visit object elapsed)).toList.length := by
  have trial : counted? (object, s.visit object elapsed) =
      (Trial.pass object (s.attempt object).1 elapsed).counted? := rfl
  obtain ⟨keys, same⟩ := Attempts.metrics_settle s.attempts (.pass object (s.attempt object).1 elapsed)
  rw [attempts_pass, same, trial]
  cases own : (Trial.pass object (s.attempt object).1 elapsed).counted? with
  | none =>
      rw [Trial.countedIn_of_none own]
      exact ⟨rfl, rfl⟩
  | some r =>
      obtain ⟨took, counted⟩ := Trial.countedIn_of_some own s.attempts.metrics
      rw [counted]
      exact ⟨rfl, rfl⟩

/-- A round counts the results of its passes. -/
theorem metrics_round (s : Session) (errands : List (NetworkInterface × Duration)) :
    (s.round errands).attempts.metrics.passes =
        ((s.visits errands).filterMap counted?).foldl bump s.attempts.metrics.passes ∧
      (s.round errands).attempts.metrics.durations.count =
        s.attempts.metrics.durations.count + ((s.visits errands).filterMap counted?).length := by
  induction errands generalizing s with
  | nil => exact ⟨rfl, rfl⟩
  | cons errand rest ih =>
      obtain ⟨object, elapsed⟩ := errand
      obtain ⟨passes, durations⟩ := ih (s.pass object elapsed).2.2
      obtain ⟨first, count⟩ := metrics_pass s object elapsed
      have visited : (s.visits ((object, elapsed) :: rest)).filterMap counted? =
          (counted? (object, s.visit object elapsed)).toList ++
            ((s.pass object elapsed).2.2.visits rest).filterMap counted? := by
        rw [visits]
        cases result : counted? (object, s.visit object elapsed) <;> simp [result]
      rw [visited, List.foldl_append, List.length_append, round, passes, durations, first, count]
      exact ⟨rfl, Nat.add_assoc _ _ _⟩

end Rounds

/-! ### Any order -/

/-- Two sessions hold the same: the objects up to the versions of the interfaces, the failures, and the counts of the
passes. -/
structure SameEnd (a b : Session) : Prop where
  interfaces : ∀ name, (a.world.store.getInterface name).map NetworkInterface.unversioned =
    (b.world.store.getInterface name).map NetworkInterface.unversioned
  networks : a.world.store.networks = b.world.store.networks
  failures : a.attempts.retries.counts = b.attempts.retries.counts
  passes : a.attempts.metrics.passes = b.attempts.metrics.passes
  durations : a.attempts.metrics.durations.count = b.attempts.metrics.durations.count

section Orders

variable {s : Session} {first second : List (NetworkInterface × Duration)}

/-- Rounds over the same objects leave each of them alike. -/
theorem twins_rounds (settled : s.world.store.Settled) (distinct : (namesOf first).Nodup)
    (distinctOther : (namesOf second).Nodup) (same : (first.map Prod.fst).Perm (second.map Prod.fst))
    (name : String) : Twins name (s.round first) (s.round second) := by
  have named (errands : List (NetworkInterface × Duration)) :
      some name ∈ namesOf errands ↔
        ∃ object elapsed, (object, elapsed) ∈ errands ∧ object.metadata.name = some name := by
    simp [namesOf]
  have objects (object : NetworkInterface) :
      (∃ elapsed, (object, elapsed) ∈ first) ↔ ∃ elapsed, (object, elapsed) ∈ second := by
    simpa using same.mem_iff (a := object)
  by_cases present : some name ∈ namesOf first
  · obtain ⟨object, elapsed, mem, own⟩ := (named first).mp present
    obtain ⟨later, memOther⟩ := (objects object).mp ⟨elapsed, mem⟩
    exact (twins_round_of_mem settled distinct mem own).trans
      (twins_round_of_mem settled distinctOther memOther own).symm
  · have absent : some name ∉ namesOf second := by
      intro present'
      obtain ⟨object, elapsed, mem, own⟩ := (named second).mp present'
      obtain ⟨earlier, memFirst⟩ := (objects object).mpr ⟨elapsed, mem⟩
      exact present ((named first).mpr ⟨object, earlier, memFirst, own⟩)
    exact (twins_round_of_absent settled present).trans (twins_round_of_absent settled absent).symm

/-- Passes over different objects may be run in any order, and take any time: each of them gives the same, and the
sessions end with the same. -/
theorem passes_commute (reached : s.Reached) (accepts : s.world.store.pendingConflicts = 0)
    (distinct : (namesOf first).Nodup) (same : (first.map Prod.fst).Perm (second.map Prod.fst)) :
    (s.visits first).Perm (s.visits second) ∧ SameEnd (s.round first) (s.round second) := by
  have settled : s.world.store.Settled := ⟨reached.consistent, accepts⟩
  have distinctOther : (namesOf second).Nodup := by
    have names := same.map fun object => object.metadata.name
    rw [List.map_map, List.map_map] at names
    exact names.nodup_iff.mp distinct
  have visited : (s.visits first).Perm (s.visits second) := by
    have all := same.map fun object => (object, s.visit object .zero)
    rw [List.map_map, List.map_map] at all
    rw [visits_eq settled distinct, visits_eq settled distinctOther]
    exact all
  have twins := twins_rounds settled distinct distinctOther same
  obtain ⟨passes, durations⟩ := metrics_round s first
  obtain ⟨passesOther, durationsOther⟩ := metrics_round s second
  have results := visited.filterMap counted?
  refine ⟨visited, fun name => (twins name).worlds.interface, (twins "").worlds.networks, ?_, ?_, ?_⟩
  · exact Table.ext_get? fun k => ((twins k.name).attempts k rfl).counts
  · rw [passes, passesOther]
    exact results.foldl_eq' (fun r _ q _ passes => bump_comm passes r q) _
  · rw [durations, durationsOther, results.length_eq]

end Orders

/-- Another member on the node, which is not attached to it. -/
def looseMember : NetworkInterface := FanOut.memberOf "nic-b" "node-a" "02:00:00:00:00:02"

/-- A session with two members of a network. -/
def membersSession : Session :=
  (start departingSettings .standard ⟨.empty, departingWorld.links, departingWorld.machine⟩).run
    [.store (.putNetwork (FanOut.membersNetwork "0")), .store (.put FanOut.nearMember), .store (.put looseMember)]

/-- A pass over each of them, and one over an object that is not stored. -/
def membersTurns : List (NetworkInterface × Duration) :=
  [(FanOut.nearMember, .ofSeconds 1), (looseMember, .zero),
    (FanOut.memberOf "nic-c" "node-a" "02:00:00:00:00:03", .ofSeconds 2)]

theorem members_commute :
    (namesOf membersTurns).Nodup ∧
      (membersSession.visits membersTurns).Perm (membersSession.visits membersTurns.reverse) ∧
        SameEnd (membersSession.round membersTurns) (membersSession.round membersTurns.reverse) := by
  have distinct : (namesOf membersTurns).Nodup := by decide
  exact ⟨distinct, passes_commute ⟨_, _, _, _, _, rfl⟩ rfl distinct (membersTurns.reverse_perm.symm.map Prod.fst)⟩

end Session

end LinkKeeper
