import LinkKeeper.Watch.Triggers

/-!
What a watch of the networks tells of them.

A list is told against the copies that it will replace, one network after the other, before it replaces
them. It can be given up half way, and it can name a network more than once.

* `WatchEvent.Orderly`: the streams in which lists are not mixed with changes.
* `Snapshots.through`, `Snapshots.changes`: the copies after a stream, and the changes told on the way.
* `Snapshots.Keyed`: every copy is kept under its own reference.
* `Triggers.steps_eq`: the passes that a stream triggers are those for its changes, in order.
* `Snapshots.changes_faithful`: no change is missed and none is made up.
-/

namespace LinkKeeper

/-- The event is an entry of a list, or an error, which is no event. -/
def WatchEvent.Entry : Option WatchEvent → Prop
  | none | some (.initApply _) => True
  | _ => False

/-- Networks change only while no list is gathered, and a list has a beginning before it has entries or
an end. It may begin anew before it is complete; errors may come at any time. -/
def WatchEvent.Orderly : Bool → List (Option WatchEvent) → Prop
  | _, [] => True
  | gathering, none :: rest => Orderly gathering rest
  | _, some .init :: rest => Orderly true rest
  | gathering, some (.initApply _) :: rest => gathering = true ∧ Orderly true rest
  | gathering, some .initDone :: rest => gathering = true ∧ Orderly false rest
  | gathering, some (.apply _) :: rest => gathering = false ∧ Orderly false rest
  | gathering, some (.delete _) :: rest => gathering = false ∧ Orderly false rest

namespace Snapshots

/-- The copies after a stream. -/
def through (s : Snapshots) : List (Option WatchEvent) → Snapshots
  | [] => s
  | none :: rest => s.through rest
  | some e :: rest => (s.observe e).2.through rest

/-- The changes that are told during a stream, in order. -/
def changes (s : Snapshots) : List (Option WatchEvent) → List NetworkChange
  | [] => []
  | none :: rest => s.changes rest
  | some e :: rest => (s.observe e).1.toList ++ (s.observe e).2.changes rest

/-- Every copy is kept under its own reference. -/
structure Keyed (s : Snapshots) : Prop where
  stored : ∀ r network, s.stored.get? r = some network → NetworkRef.of network = r
  pending : ∀ r network, s.pending.get? r = some network → NetworkRef.of network = r

section Copies

variable {s : Snapshots} {new old : PrivateNetwork}

theorem keyed_empty : Keyed empty where
  stored := fun _ _ found => nomatch found
  pending := fun _ _ found => nomatch found

theorem Keyed.after (keyed : Keyed s) (e : WatchEvent) : Keyed (s.after e) := by
  have inserted : ∀ (t : Table NetworkRef PrivateNetwork) network,
      (∀ r n, t.get? r = some n → NetworkRef.of n = r) →
        ∀ r n, (t.insert (.of network) network).get? r = some n → NetworkRef.of n = r := by
    intro t network own r n found
    rw [Table.get?_insert] at found
    split at found
    · rename_i here
      cases found
      exact here.symm
    · exact own r n found
  cases e with
  | init => exact ⟨keyed.stored, fun _ _ found => nomatch found⟩
  | initApply network => exact ⟨keyed.stored, inserted _ _ keyed.pending⟩
  | initDone => exact ⟨keyed.pending, fun _ _ found => nomatch found⟩
  | apply network => exact ⟨inserted _ _ keyed.stored, keyed.pending⟩
  | delete network =>
      refine ⟨?_, keyed.pending⟩
      intro r n found
      unfold Snapshots.after at found
      dsimp only at found
      rw [Table.get?_erase] at found
      split at found
      · cases found
      · exact keyed.stored r n found

theorem Keyed.through (keyed : Keyed s) (stream : List (Option WatchEvent)) : Keyed (s.through stream) := by
  induction stream generalizing s with
  | nil => exact keyed
  | cons e rest ih =>
      cases e with
      | none => exact ih keyed
      | some e => exact ih (keyed.after e)

/-- The copy of a network is the network just when it is kept under its reference. -/
theorem Keyed.copy?_self_iff (keyed : Keyed s) :
    s.copy? new = some new ↔ s.stored.get? (.of new) = some new := by
  unfold copy?
  cases found : s.stored.get? (.of new) with
  | some copy => rfl
  | none =>
      refine iff_of_false ?_ (fun absurd => nomatch absurd)
      intro unscoped
      have own := keyed.stored _ _ unscoped
      rw [← own, found] at unscoped
      cases unscoped

end Copies

/-! ### Streams -/

section Streams

variable {s : Snapshots} {earlier later list : List (Option WatchEvent)} {e : WatchEvent}
  {new old network : PrivateNetwork} {change : NetworkChange}

theorem through_append (s : Snapshots) (earlier later : List (Option WatchEvent)) :
    s.through (earlier ++ later) = (s.through earlier).through later := by
  induction earlier generalizing s with
  | nil => rfl
  | cons e rest ih =>
      cases e with
      | none => exact ih s
      | some e => exact ih _

theorem changes_append (s : Snapshots) (earlier later : List (Option WatchEvent)) :
    s.changes (earlier ++ later) = s.changes earlier ++ (s.through earlier).changes later := by
  induction earlier generalizing s with
  | nil => rfl
  | cons e rest ih =>
      cases e with
      | none => exact ih s
      | some e => simp only [List.cons_append, changes, through, ih, List.append_assoc]

/-- The changes do not depend on errors. -/
theorem changes_filter_isSome (s : Snapshots) (stream : List (Option WatchEvent)) :
    s.changes (stream.filter Option.isSome) = s.changes stream ∧
      s.through (stream.filter Option.isSome) = s.through stream := by
  induction stream generalizing s with
  | nil => exact ⟨rfl, rfl⟩
  | cons e rest ih =>
      cases e with
      | none => exact ih s
      | some e =>
          obtain ⟨changes, through⟩ := ih (s.observe e).2
          exact ⟨congrArg ((s.observe e).1.toList ++ ·) changes, through⟩

/-- The list whose end is told has a beginning, and nothing but entries and errors since then. -/
theorem list_of_initDone {gathering : Bool}
    (orderly : WatchEvent.Orderly gathering (earlier ++ some .initDone :: later)) :
    (∃ before list, earlier = before ++ some .init :: list ∧ ∀ e ∈ list, WatchEvent.Entry e) ∨
      gathering = true ∧ ∀ e ∈ earlier, WatchEvent.Entry e := by
  induction earlier generalizing gathering with
  | nil => exact .inr ⟨orderly.1, fun _ mem => nomatch mem⟩
  | cons first rest ih =>
      -- A list that began later on began later on; else the first event decides.
      have further : ∀ before list, rest = before ++ some .init :: list →
          first :: rest = (first :: before) ++ some .init :: list := by
        rintro before list rfl
        rfl
      cases first with
      | none =>
          rcases ih orderly with ⟨before, list, split, entries⟩ | ⟨gathered, entries⟩
          · exact .inl ⟨none :: before, list, further before list split, entries⟩
          · exact .inr ⟨gathered, by simpa [WatchEvent.Entry] using entries⟩
      | some first =>
          cases first with
          | init =>
              rcases ih orderly with ⟨before, list, split, entries⟩ | ⟨-, entries⟩
              · exact .inl ⟨_ :: before, list, further before list split, entries⟩
              · exact .inl ⟨[], rest, rfl, entries⟩
          | initApply network =>
              rcases ih orderly.2 with ⟨before, list, split, entries⟩ | ⟨-, entries⟩
              · exact .inl ⟨_ :: before, list, further before list split, entries⟩
              · exact .inr ⟨orderly.1, by simpa [WatchEvent.Entry] using entries⟩
          | initDone | apply | delete =>
              rcases ih orderly.2 with ⟨before, list, split, entries⟩ | ⟨impossible, -⟩
              · exact .inl ⟨_ :: before, list, further before list split, entries⟩
              · cases impossible

/-! ### What a list tells -/

/-- The entries of a list leave the copies alone. -/
theorem stored_through_entries (entries : ∀ e ∈ list, WatchEvent.Entry e) : (s.through list).stored = s.stored := by
  induction list generalizing s with
  | nil => rfl
  | cons e rest ih =>
      have later : ∀ e ∈ rest, WatchEvent.Entry e := fun e mem => entries e (List.mem_cons_of_mem _ mem)
      have first := entries e List.mem_cons_self
      unfold WatchEvent.Entry at first
      split at first
      · exact ih later
      · exact (ih later).trans rfl
      · exact first.elim

/-- What is pending after a list is one of its entries, or was pending before. -/
theorem pending_through_entries {r : NetworkRef} (entries : ∀ e ∈ list, WatchEvent.Entry e)
    (found : (s.through list).pending.get? r = some network) :
    s.pending.get? r = some network ∨ some (.initApply network) ∈ list := by
  induction list generalizing s with
  | nil => exact .inl found
  | cons e rest ih =>
      have later : ∀ e ∈ rest, WatchEvent.Entry e := fun e mem => entries e (List.mem_cons_of_mem _ mem)
      have first := entries e List.mem_cons_self
      unfold WatchEvent.Entry at first
      split at first
      · exact (ih later found).imp id (List.mem_cons_of_mem _)
      · rename_i told
        rcases ih later found with before | mem
        · change (s.pending.insert (.of told) told).get? r = some network at before
          rw [Table.get?_insert] at before
          split at before
          · cases before
            exact .inr List.mem_cons_self
          · exact .inl before
        · exact .inr (List.mem_cons_of_mem _ mem)
      · exact first.elim

theorem copy?_congr {t : Snapshots} (same : t.stored = s.stored) (network : PrivateNetwork) :
    t.copy? network = s.copy? network := by
  unfold copy?
  rw [same]

theorem difference?_congr {t : Snapshots} (same : t.stored = s.stored) (network : PrivateNetwork) :
    t.difference? network = s.difference? network := by
  unfold difference?
  rw [copy?_congr same]

/-- An entry is told against the copies from before the list. -/
theorem difference_mem_changes (entries : ∀ e ∈ list, WatchEvent.Entry e)
    (mem : some (.initApply network) ∈ list) (differs : s.difference? network = some change) :
    change ∈ s.changes list := by
  obtain ⟨first, rest, rfl⟩ := List.append_of_mem mem
  have before : (s.through first).stored = s.stored :=
    stored_through_entries fun e mem => entries e (List.mem_append_left _ mem)
  have told : ((s.through first).observe (.initApply network)).1 = some change :=
    (difference?_congr before network).trans differs
  rw [changes_append, changes, told]
  simp

end Streams

/-! ### What one event tells -/

/-- The event brings this copy of a network. -/
def Brings (e : WatchEvent) (network : PrivateNetwork) : Prop :=
  e = .apply network ∨ e = .initApply network

/-- An event tells of a change just when there is one. -/
structure Told (s : Snapshots) (e : WatchEvent) : Prop where
  updated_iff : ∀ old new, (s.observe e).1 = some (.updated old new) ↔
    Brings e new ∧ s.copy? new = some old ∧ old.metadata.resourceVersion ≠ new.metadata.resourceVersion
  created_iff : ∀ new, (s.observe e).1 = some (.created new) ↔ Brings e new ∧ s.copy? new = none
  deleted_iff : ∀ network, (s.observe e).1 = some (.deleted network) ↔ e = .delete network
  quiet : ∀ old new, Brings e new → s.copy? new = some old →
    old.metadata.resourceVersion = new.metadata.resourceVersion → (s.observe e).1 = none

/-- A network that comes to this copy of it is told of. -/
structure Covers (s : Snapshots) (new : PrivateNetwork) (told : List NetworkChange) : Prop where
  updated : ∀ old, s.copy? new = some old →
    old.metadata.resourceVersion ≠ new.metadata.resourceVersion → .updated old new ∈ told
  created : s.copy? new = none → .created new ∈ told

section Events

variable {s : Snapshots} {e : WatchEvent} {new old : PrivateNetwork}

theorem difference?_of_copy (known : s.copy? new = some old) :
    s.difference? new =
      if old.metadata.resourceVersion = new.metadata.resourceVersion then none else some (.updated old new) := by
  unfold difference?
  rw [known]

theorem difference?_of_none (unknown : s.copy? new = none) : s.difference? new = some (.created new) := by
  unfold difference?
  rw [unknown]

theorem difference?_eq_updated_iff {network : PrivateNetwork} :
    s.difference? network = some (.updated old new) ↔
      network = new ∧ s.copy? new = some old ∧
        old.metadata.resourceVersion ≠ new.metadata.resourceVersion := by
  constructor
  · intro differs
    cases known : s.copy? network with
    | none =>
        rw [difference?_of_none known] at differs
        cases differs
    | some copy =>
        rw [difference?_of_copy known] at differs
        split at differs
        · cases differs
        · rename_i other
          cases differs
          exact ⟨rfl, known, other⟩
  · rintro ⟨rfl, known, other⟩
    rw [difference?_of_copy known, if_neg other]

theorem difference?_eq_created_iff {network : PrivateNetwork} :
    s.difference? network = some (.created new) ↔ network = new ∧ s.copy? new = none := by
  constructor
  · intro differs
    cases known : s.copy? network with
    | none =>
        rw [difference?_of_none known] at differs
        cases differs
        exact ⟨rfl, known⟩
    | some copy =>
        rw [difference?_of_copy known] at differs
        split at differs
        · cases differs
        · cases differs
  · rintro ⟨rfl, unknown⟩
    exact difference?_of_none unknown

/-- Nobody is told of the end of a network that is there. -/
theorem difference?_ne_deleted (s : Snapshots) (network gone : PrivateNetwork) :
    s.difference? network ≠ some (.deleted gone) := by
  cases known : s.copy? network with
  | none =>
      rw [difference?_of_none known]
      simp
  | some copy =>
      rw [difference?_of_copy known]
      split
      · simp
      · simp

/-- What an event tells that brings a copy is how that differs. -/
theorem observe_of_brings (brings : Brings e new) : (s.observe e).1 = s.difference? new := by
  rcases brings with rfl | rfl
  · rfl
  · rfl

/-- An event tells that a network has gone, or how the copy differs that it brings. -/
theorem brings_of_observe {change : NetworkChange} (tells : (s.observe e).1 = some change) :
    (∃ network, change = .deleted network) ∨
      ∃ network, Brings e network ∧ s.difference? network = some change := by
  cases e with
  | apply network => exact .inr ⟨network, .inl rfl, tells⟩
  | initApply network => exact .inr ⟨network, .inr rfl, tells⟩
  | delete network =>
      cases tells
      exact .inl ⟨network, rfl⟩
  | init | initDone => cases tells

theorem told (s : Snapshots) (e : WatchEvent) : Told s e where
  updated_iff := by
    intro old new
    constructor
    · intro tells
      rcases brings_of_observe tells with ⟨network, impossible⟩ | ⟨network, brings, differs⟩
      · cases impossible
      · obtain ⟨rfl, known, other⟩ := difference?_eq_updated_iff.mp differs
        exact ⟨brings, known, other⟩
    · rintro ⟨brings, known, other⟩
      rw [observe_of_brings brings]
      exact difference?_eq_updated_iff.mpr ⟨rfl, known, other⟩
  created_iff := by
    intro new
    constructor
    · intro tells
      rcases brings_of_observe tells with ⟨network, impossible⟩ | ⟨network, brings, differs⟩
      · cases impossible
      · obtain ⟨rfl, unknown⟩ := difference?_eq_created_iff.mp differs
        exact ⟨brings, unknown⟩
    · rintro ⟨brings, unknown⟩
      rw [observe_of_brings brings]
      exact difference?_eq_created_iff.mpr ⟨rfl, unknown⟩
  deleted_iff := by
    intro network
    constructor
    · intro tells
      cases e with
      | delete gone =>
          cases tells
          rfl
      | apply new | initApply new => exact absurd tells (difference?_ne_deleted s new network)
      | init | initDone => cases tells
    · rintro rfl
      rfl
  quiet := by
    intro old new brings known same
    rw [observe_of_brings brings, difference?_of_copy known, if_pos same]

/-- When the difference of a copy is told, the network is covered. -/
theorem covers_of_difference {changes : List NetworkChange}
    (tells : ∀ change, s.difference? new = some change → change ∈ changes) : Covers s new changes where
  updated := fun _ known other => tells _ (difference?_eq_updated_iff.mpr ⟨rfl, known, other⟩)
  created := fun unknown => tells _ (difference?_of_none unknown)

/-- A change of a network is told when it comes. -/
theorem covers_apply (s : Snapshots) (new : PrivateNetwork) :
    Covers s new (s.changes [some (.apply new)]) := by
  refine covers_of_difference fun change differs => ?_
  have told : (s.observe (.apply new)).1 = some change := differs
  simp [changes, told]

/-- The networks of a complete list are told of while it is gathered. -/
theorem covers_list {list : List (Option WatchEvent)} (keyed : Keyed s)
    (entries : ∀ e ∈ list, WatchEvent.Entry e)
    (now : (s.through (some .init :: list ++ [some .initDone])).copy? new = some new) :
    Covers (s.through (some .init :: list)) new ((s.through [some .init]).changes list) := by
  have stored : (s.through (some .init :: list)).stored = s.stored :=
    (stored_through_entries (s := s.after .init) entries).trans rfl
  have kept := (keyed.through (some .init :: list ++ [some .initDone])).copy?_self_iff.mp now
  rw [through_append] at kept
  have pending : ((s.after .init).through list).pending.get? (.of new) = some new := kept
  have mem : some (.initApply new) ∈ list := by
    rcases pending_through_entries entries pending with before | mem
    · cases before
    · exact mem
  refine covers_of_difference fun change differs => difference_mem_changes entries mem ?_
  rw [difference?_congr stored] at differs
  exact differs

/-- No other event gives a network a copy of it. -/
theorem copy?_after (keyed : Keyed s) (unlisted : e ≠ .initDone)
    (now : (s.after e).copy? new = some new) : s.copy? new = some new ∨ e = .apply new := by
  have kept := (keyed.after e).copy?_self_iff.mp now
  rw [keyed.copy?_self_iff]
  cases e with
  | init | initApply => exact .inl kept
  | initDone => exact absurd rfl unlisted
  | apply network =>
      unfold Snapshots.after at kept
      dsimp only at kept
      rw [Table.get?_insert] at kept
      split at kept
      · cases kept
        exact .inr rfl
      · exact .inl kept
  | delete network =>
      unfold Snapshots.after at kept
      dsimp only at kept
      rw [Table.get?_erase] at kept
      split at kept
      · cases kept
      · exact .inl kept

end Events

end Snapshots

/-! ### Triggers -/

/-- The passes that changes ask for, one change after the other. -/
def FanOut.handleAll : List NetworkChange → MemoryStore → Metrics → List String × MemoryStore × Metrics
  | [], store, metrics => ([], store, metrics)
  | change :: rest, store, metrics =>
    let (first, store, metrics) := handle change store metrics
    let (later, store, metrics) := handleAll rest store metrics
    (first ++ later, store, metrics)

namespace Triggers

/-- The networks count as listed once a list is complete. -/
def readinessAfter (r : Readiness) : List (Option WatchEvent) → Readiness
  | [] => r
  | some .initDone :: rest => readinessAfter r.markNetworks rest
  | _ :: rest => readinessAfter r rest

theorem networks_readinessAfter_iff (r : Readiness) (stream : List (Option WatchEvent)) :
    (readinessAfter r stream).networks = true ↔ r.networks = true ∨ some .initDone ∈ stream := by
  induction stream generalizing r with
  | nil => simp [readinessAfter]
  | cons e rest ih =>
      rcases e with _ | (_ | _ | _ | _ | _)
      all_goals simp [readinessAfter, ih, Readiness.markNetworks]

theorem handleAll_append (first later : List NetworkChange) (store : MemoryStore) (metrics : Metrics) :
    FanOut.handleAll (first ++ later) store metrics =
      ((FanOut.handleAll first store metrics).1 ++
          (FanOut.handleAll later (FanOut.handleAll first store metrics).2.1
            (FanOut.handleAll first store metrics).2.2).1,
        (FanOut.handleAll later (FanOut.handleAll first store metrics).2.1
          (FanOut.handleAll first store metrics).2.2).2) := by
  induction first generalizing store metrics with
  | nil => rfl
  | cons change rest ih => simp only [List.cons_append, FanOut.handleAll, ih, List.append_assoc]

/-- What one event triggers. -/
theorem step_eq (t : Triggers) (e : WatchEvent) :
    t.step (some e) =
      ((FanOut.handleAll (t.snapshots.observe e).1.toList t.store t.metrics).1,
        ⟨(t.snapshots.observe e).2, readinessAfter t.readiness [some e],
          (FanOut.handleAll (t.snapshots.observe e).1.toList t.store t.metrics).2.1,
          (FanOut.handleAll (t.snapshots.observe e).1.toList t.store t.metrics).2.2⟩) := by
  unfold step
  cases e with
  | init | initDone => rfl
  | delete network => simp [Snapshots.observe, Snapshots.change?, FanOut.handleAll, readinessAfter]
  | initApply network | apply network =>
      simp only [Snapshots.observe, Snapshots.change?, readinessAfter]
      cases t.snapshots.difference? network with
      | none => rfl
      | some change => simp [FanOut.handleAll]

/-- What a stream triggers is what its changes ask for. -/
theorem steps_eq (t : Triggers) (stream : List (Option WatchEvent)) :
    t.steps stream =
      ((FanOut.handleAll (t.snapshots.changes stream) t.store t.metrics).1,
        ⟨t.snapshots.through stream, readinessAfter t.readiness stream,
          (FanOut.handleAll (t.snapshots.changes stream) t.store t.metrics).2.1,
          (FanOut.handleAll (t.snapshots.changes stream) t.store t.metrics).2.2⟩) := by
  induction stream generalizing t with
  | nil => rfl
  | cons e rest ih =>
      cases e with
      | none => exact ih t
      | some e =>
          have readiness : readinessAfter (readinessAfter t.readiness [some e]) rest =
              readinessAfter t.readiness (some e :: rest) := by
            cases e <;> rfl
          rw [steps]
          simp only [step_eq, ih, Snapshots.changes, Snapshots.through, handleAll_append, readiness]

/-- Errors do not change what is triggered. -/
theorem steps_filter_isSome (t : Triggers) (stream : List (Option WatchEvent)) :
    t.steps (stream.filter Option.isSome) = t.steps stream := by
  induction stream generalizing t with
  | nil => rfl
  | cons e rest ih =>
      cases e with
      | none => exact ih t
      | some e =>
          have next := ih (t.step (some e)).2
          simp only [List.filter_cons_of_pos, Option.isSome_some, steps, next]

end Triggers

/-! ### Whole streams -/

namespace Snapshots

/-- How a stream, seen from its beginning, is told. -/
structure Faithful (stream : List (Option WatchEvent)) : Prop where
  /-- Each event is told as what it is to the copies of the moment. -/
  told : ∀ earlier e later, stream = earlier ++ some e :: later → Told (empty.through earlier) e
  /-- A network that is changed is told of at once. -/
  applied : ∀ earlier new later, stream = earlier ++ some (.apply new) :: later →
    Covers (empty.through earlier) new ((empty.through earlier).changes [some (.apply new)])
  /-- Those that a list has changed are told of during the list. -/
  listed : ∀ earlier later, stream = earlier ++ some .initDone :: later →
    ∃ before list, earlier = before ++ some .init :: list ∧ (∀ e ∈ list, WatchEvent.Entry e) ∧
      ∀ new, (empty.through (earlier ++ [some .initDone])).copy? new = some new →
        Covers (empty.through earlier) new ((empty.through (before ++ [some .init])).changes list)
  /-- In no other way does a network come to a copy of it. -/
  kept : ∀ earlier e later, stream = earlier ++ some e :: later → e ≠ .initDone →
    ∀ new, (empty.through (earlier ++ [some e])).copy? new = some new →
      (empty.through earlier).copy? new = some new ∨ e = .apply new
  /-- The passes that are triggered are those for the changes that are told. -/
  triggered : ∀ t : Triggers, t.snapshots = empty →
    (t.steps stream).1 = (FanOut.handleAll (empty.changes stream) t.store t.metrics).1
  /-- Errors change neither. -/
  errors : empty.changes (stream.filter Option.isSome) = empty.changes stream ∧
    ∀ t : Triggers, t.steps (stream.filter Option.isSome) = t.steps stream
  /-- The networks count as listed from the end of the first list on. -/
  synced : ∀ t : Triggers, t.readiness.networks = false → ∀ earlier later, stream = earlier ++ later →
    ((t.steps earlier).2.readiness.networks = true ↔ some .initDone ∈ earlier)

/-- No change of a network is missed and none is made up. -/
theorem changes_faithful {stream : List (Option WatchEvent)} (orderly : WatchEvent.Orderly false stream) :
    Faithful stream where
  told := fun earlier e _ _ => told (empty.through earlier) e
  applied := fun earlier new _ _ => covers_apply (empty.through earlier) new
  listed := by
    rintro earlier later rfl
    rcases list_of_initDone orderly with ⟨before, list, rfl, entries⟩ | ⟨impossible, -⟩
    · refine ⟨before, list, rfl, entries, fun new now => ?_⟩
      have keyed : Keyed (empty.through before) := keyed_empty.through before
      rw [List.append_assoc, through_append] at now
      rw [through_append, through_append]
      exact covers_list keyed entries now
    · cases impossible
  kept := by
    rintro earlier e later rfl unlisted new now
    rw [through_append] at now
    exact copy?_after (keyed_empty.through earlier) unlisted now
  triggered := by
    intro t fresh
    rw [Triggers.steps_eq, fresh]
  errors := ⟨(changes_filter_isSome empty stream).1, fun t => t.steps_filter_isSome stream⟩
  synced := by
    intro t unlisted earlier later _
    rw [Triggers.steps_eq]
    simp [Triggers.networks_readinessAfter_iff, unlisted]

/-- A network without routes at a version. -/
def networkAt (name version : String) : PrivateNetwork :=
  ⟨{ ObjectMeta.blank with name := some name, resourceVersion := some version }, ⟨none, []⟩⟩

/-- A list is given up, the next one is disturbed by an error and names a network twice. -/
def relisted : List (Option WatchEvent) :=
  [some (.apply (networkAt "pn-1" "1")), some .init, some (.initApply (networkAt "pn-1" "2")), none,
    some .init, some (.initApply (networkAt "pn-1" "2")), none, some (.initApply (networkAt "pn-2" "4")),
    some (.initApply (networkAt "pn-1" "3")), some .initDone]

theorem relisted_changes_faithful :
    WatchEvent.Orderly false relisted ∧
      ∃ before list, relisted = before ++ some .init :: list ++ [some .initDone] ∧
        .updated (networkAt "pn-1" "1") (networkAt "pn-1" "3") ∈
            (empty.through (before ++ [some .init])).changes list ∧
          .created (networkAt "pn-2" "4") ∈ (empty.through (before ++ [some .init])).changes list := by
  have orderly : WatchEvent.Orderly false relisted :=
    ⟨rfl, rfl, rfl, rfl, rfl, rfl, trivial⟩
  obtain ⟨before, list, split, -, covers⟩ := (changes_faithful orderly).listed (relisted.take 9) [] rfl
  refine ⟨orderly, before, list, ?_, ?_, ?_⟩
  · rw [← split]
    rfl
  · exact (covers (networkAt "pn-1" "3") rfl).updated _ rfl (by decide)
  · exact (covers (networkAt "pn-2" "4") rfl).created rfl

end Snapshots

end LinkKeeper
