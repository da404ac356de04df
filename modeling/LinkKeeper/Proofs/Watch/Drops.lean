import LinkKeeper.Proofs.Watch.Changes

/-!
Networks that leave the copies.

A network leaves in two ways. An event for its end takes its copy away and is told. A complete list takes
the place of the copies, and what it does not name is dropped; its end tells nothing, and none of its
entries tells of a network that it does not name.

* `Snapshots.endsOf_changes`: the ends that are told of a network are those of the events for its end.
* `Snapshots.stored_through_listing`: after a list the copies are those of the networks that it names.
* `Snapshots.left_cases`: how a network leaves.
* `Snapshots.ends_told_iff`: the ends of networks are told just as far as no list drops any.
-/

namespace LinkKeeper

/-- The network that the event says is gone. -/
def WatchEvent.gone? : Option WatchEvent → Option PrivateNetwork
  | some (.delete network) => some network
  | _ => none

/-- The network that the change says is gone. -/
def NetworkChange.gone? : NetworkChange → Option PrivateNetwork
  | deleted network => some network
  | _ => none

namespace Snapshots

/-- A complete list: its beginning, its entries, where nothing stands for an error, and its end. -/
def listing (entries : List (Option PrivateNetwork)) : List (Option WatchEvent) :=
  some .init :: entries.map (Option.map .initApply) ++ [some .initDone]

/-- The list names a network with this reference. -/
def Listed (entries : List (Option PrivateNetwork)) (r : NetworkRef) : Prop :=
  ∃ network, some network ∈ entries ∧ NetworkRef.of network = r

/-- The changes by which the network with this reference is told to be gone, each with the copy that it
carries. -/
def endsOf (r : NetworkRef) (changes : List NetworkChange) : List PrivateNetwork :=
  (changes.filterMap NetworkChange.gone?).filter (NetworkRef.of · = r)

/-- A list tells once of each network that it drops, with the last copy of it, and never of one that it
names. -/
structure EndsTold (s : Snapshots) (entries : List (Option PrivateNetwork)) : Prop where
  dropped : ∀ r network, s.stored.get? r = some network → ¬ Listed entries r →
    endsOf r (s.changes (listing entries)) = [network]
  listed : ∀ r, Listed entries r → endsOf r (s.changes (listing entries)) = []

/-- No network leaves the copies while a stream goes by without being told to be gone. -/
def NoneLostSilently (stream : List (Option WatchEvent)) : Prop :=
  ∀ earlier e later, stream = earlier ++ some e :: later → ∀ r,
    ((empty.through earlier).stored.get? r).isSome →
      ((empty.through (earlier ++ [some e])).stored.get? r).isNone →
        ∃ gone, NetworkRef.of gone = r ∧ ((empty.through earlier).observe e).1 = some (.deleted gone)

/-- Every list that is completed in the stream names every network of which there is a copy. -/
def DropsNone (stream : List (Option WatchEvent)) : Prop :=
  ∀ earlier later, stream = earlier ++ some .initDone :: later → ∀ r,
    ((empty.through earlier).stored.get? r).isSome → ((empty.through earlier).pending.get? r).isSome

section Ends

variable {s : Snapshots} {e : WatchEvent} {r : NetworkRef} {entries : List (Option PrivateNetwork)}

/-- An event tells of the end of a network just when it is the event for it. -/
theorem gone_observe (s : Snapshots) (e : WatchEvent) :
    (s.observe e).1.toList.filterMap NetworkChange.gone? = (WatchEvent.gone? (some e)).toList := by
  cases e with
  | init => rfl
  | initDone => rfl
  | delete network => rfl
  | initApply network | apply network =>
      have differs : (s.observe (.apply network)).1 = s.difference? network := rfl
      have same : (s.observe (.initApply network)).1 = s.difference? network := rfl
      simp only [differs, same, WatchEvent.gone?, Option.toList_none]
      cases told : s.difference? network with
      | none => rfl
      | some change =>
          cases change with
          | deleted gone => exact absurd told (difference?_ne_deleted s network gone)
          | created new => rfl
          | updated old new => rfl

/-- The ends that a stream tells of are those of its events for them, in order. -/
theorem gone_changes (s : Snapshots) (stream : List (Option WatchEvent)) :
    (s.changes stream).filterMap NetworkChange.gone? = stream.filterMap WatchEvent.gone? := by
  induction stream generalizing s with
  | nil => rfl
  | cons e rest ih =>
      cases e with
      | none => exact ih s
      | some e =>
          rw [changes, List.filterMap_append, gone_observe, ih]
          cases gone : WatchEvent.gone? (some e) <;> simp [gone]

/-- The ends that are told of a network are those of the events for its end. -/
theorem endsOf_changes (s : Snapshots) (r : NetworkRef) (stream : List (Option WatchEvent)) :
    endsOf r (s.changes stream) = (stream.filterMap WatchEvent.gone?).filter (NetworkRef.of · = r) := by
  rw [endsOf, gone_changes]

/-- A list has no events for the end of a network, so it tells of none. -/
theorem endsOf_listing (s : Snapshots) (r : NetworkRef) (entries : List (Option PrivateNetwork)) :
    endsOf r (s.changes (listing entries)) = [] := by
  have none_gone : (listing entries).filterMap WatchEvent.gone? = [] := by
    rw [List.filterMap_eq_nil_iff]
    intro e mem
    rcases List.mem_append.mp mem with mem | mem
    · rcases List.mem_cons.mp mem with rfl | mem
      · rfl
      · obtain ⟨entry, -, rfl⟩ := List.mem_map.mp mem
        cases entry with
        | none => rfl
        | some network => rfl
    · rw [List.mem_singleton.mp mem]
      rfl
  rw [endsOf_changes, none_gone, List.filter_nil]

/-! ### What a list leaves behind -/

/-- What is gathered is what has been gathered before and what the entries name. -/
theorem pending_through_map (s : Snapshots) (r : NetworkRef) :
    ((s.through (entries.map (Option.map .initApply))).pending.get? r).isSome ↔
      (s.pending.get? r).isSome ∨ Listed entries r := by
  induction entries generalizing s with
  | nil => simp [through, Listed]
  | cons entry rest ih =>
      cases entry with
      | none =>
          rw [List.map_cons]
          refine (ih s).trans (or_congr_right ?_)
          simp [Listed]
      | some network =>
          rw [List.map_cons]
          refine (ih (s.after (.initApply network))).trans ?_
          have gathered : (s.after (.initApply network)).pending.get? r =
              if r = .of network then some network else s.pending.get? r :=
            Table.get?_insert s.pending (.of network) r network
          rw [gathered]
          by_cases here : r = .of network
          · simp [here, Listed]
          · simp [here, Listed, Ne.symm here]

/-- After a list there are copies of just the networks that it names. -/
theorem stored_through_listing (s : Snapshots) (entries : List (Option PrivateNetwork)) (r : NetworkRef) :
    ((s.through (listing entries)).stored.get? r).isSome ↔ Listed entries r := by
  have gathered : (((s.after .init).through (entries.map (Option.map .initApply))).pending.get? r).isSome ↔
      ((s.after .init).pending.get? r).isSome ∨ Listed entries r := pending_through_map (s.after .init) r
  have complete : (s.through (listing entries)).stored =
      ((s.after .init).through (entries.map (Option.map .initApply))).pending := by
    rw [listing, through_append]
    rfl
  rw [complete, gathered]
  refine or_iff_right ?_
  intro before
  cases before

/-! ### How a network leaves -/

/-- A network leaves with the event for its end, which is told, or with the end of a list that does not
name it, which is not. -/
theorem left_cases (before : (s.stored.get? r).isSome) (after : ((s.after e).stored.get? r).isNone) :
    (∃ gone, e = .delete gone ∧ NetworkRef.of gone = r) ∨ e = .initDone ∧ (s.pending.get? r).isNone := by
  have kept : (s.after e).stored = s.stored → False := by
    intro same
    rw [same, Option.isNone_iff_eq_none] at after
    rw [after] at before
    cases before
  cases e with
  | init => exact (kept rfl).elim
  | initApply network => exact (kept rfl).elim
  | initDone => exact .inr ⟨rfl, after⟩
  | apply network =>
      have written : (s.after (.apply network)).stored.get? r =
          if r = .of network then some network else s.stored.get? r :=
        Table.get?_insert s.stored (.of network) r network
      rw [written] at after
      by_cases here : r = .of network
      · simp [here] at after
      · rw [if_neg here, Option.isNone_iff_eq_none] at after
        rw [after] at before
        cases before
  | delete network =>
      have erased : (s.after (.delete network)).stored.get? r =
          if r = .of network then none else s.stored.get? r :=
        Table.get?_erase s.stored (.of network) r
      rw [erased] at after
      by_cases here : r = .of network
      · exact .inl ⟨network, rfl, here.symm⟩
      · rw [if_neg here, Option.isNone_iff_eq_none] at after
        rw [after] at before
        cases before

/-- A list tells of the ends of networks as it should just when it drops none. -/
theorem endsTold_iff (s : Snapshots) (entries : List (Option PrivateNetwork)) :
    EndsTold s entries ↔
      ∀ r, (s.stored.get? r).isSome → ((s.through (listing entries)).stored.get? r).isSome := by
  simp only [stored_through_listing]
  constructor
  · intro told r present
    obtain ⟨network, found⟩ := Option.isSome_iff_exists.mp present
    refine Classical.byContradiction fun unlisted => ?_
    have tells := told.dropped r network found unlisted
    rw [endsOf_listing] at tells
    cases tells
  · intro names
    refine ⟨?_, fun r _ => endsOf_listing s r entries⟩
    intro r network found unlisted
    exact absurd (names r (Option.isSome_iff_exists.mpr ⟨network, found⟩)) unlisted

/-- A stream loses no network silently just when none of its lists drops one. -/
theorem noneLostSilently_iff (stream : List (Option WatchEvent)) :
    NoneLostSilently stream ↔ DropsNone stream := by
  have complete : ∀ earlier : List (Option WatchEvent),
      (empty.through (earlier ++ [some .initDone])).stored = (empty.through earlier).pending := by
    intro earlier
    rw [through_append]
    rfl
  constructor
  · intro told earlier later split r present
    refine Classical.byContradiction fun dropped => ?_
    have left : ((empty.through (earlier ++ [some .initDone])).stored.get? r).isNone := by
      rw [complete, Option.not_isSome_iff_eq_none.mp dropped]
      rfl
    obtain ⟨gone, -, tells⟩ := told earlier .initDone later split r present left
    cases tells
  · intro names earlier e later split r present left
    rw [through_append] at left
    rcases left_cases present left with ⟨gone, rfl, own⟩ | ⟨rfl, dropped⟩
    · exact ⟨gone, own, rfl⟩
    · have gathered := names earlier later split r present
      rw [Option.isNone_iff_eq_none.mp dropped] at gathered
      cases gathered

end Ends

/-- The ends of networks are told just as far as no list drops any: after any stream a complete list tells
of what it drops when that is nothing, and a stream loses nothing silently when none of its lists drops
anything. In each case what is dropped is what the list does not name. -/
theorem ends_told_iff (stream : List (Option WatchEvent)) :
    (∀ entries,
      (EndsTold (empty.through stream) entries ↔
          ∀ r, ((empty.through stream).stored.get? r).isSome → Listed entries r) ∧
        ∀ r, (((empty.through stream).through (listing entries)).stored.get? r).isSome ↔ Listed entries r) ∧
      (NoneLostSilently stream ↔ DropsNone stream) := by
  refine ⟨fun entries => ⟨?_, stored_through_listing _ entries⟩, noneLostSilently_iff stream⟩
  rw [endsTold_iff]
  simp only [stored_through_listing]

/-- A list that names nothing drops a network without a word. -/
theorem empty_list_drops_silently :
    ¬ EndsTold (empty.through [some (.apply (networkAt "pn-1" "1"))]) [] := by
  intro told
  have unlisted : ¬ Listed [] (NetworkRef.of (networkAt "pn-1" "1")) := by
    rintro ⟨network, mem, -⟩
    cases mem
  have tells := told.dropped _ (networkAt "pn-1" "1") rfl unlisted
  cases tells

end Snapshots

end LinkKeeper
