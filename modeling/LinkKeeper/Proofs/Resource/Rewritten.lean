import LinkKeeper.Proofs.Json.Held
import LinkKeeper.Proofs.Resource.Objects
import LinkKeeper.Proofs.Resource.Unknown
import LinkKeeper.Reconcile.Plan

/-!
Objects survive being read, written and read again.

An object has a part that nothing here looks at: documents in which the cluster records what each writer has set. They
are kept and written with the rest, and doubles in them are the one thing that a second reading may change.

* `ObjectMeta.Proper`: the metadata that a program can hold and a reader can take in.
* `ObjectMeta.zeroed`: metadata but for those doubles.
* `NetworkInterface.Survives`, `PrivateNetwork.Survives`: what stays the same of an object.
-/

namespace LinkKeeper

open Json

/-! ### Writers -/

namespace FieldManager

variable {levels : Nat} {m : FieldManager}

/-- What the writer has set with all doubles set to zero. -/
def zeroed (m : FieldManager) : FieldManager := { m with fields := m.fields.map Json.zeroed }

/-- The account of a writer can be held, and inside of `levels` arrays and objects it is not too deep for a reader. -/
structure Proper (levels : Nat) (m : FieldManager) : Prop where
  held : ∀ j, m.fields = some j → j.Held
  present : m.fields ≠ some .null
  depth : ∀ j, m.fields = some j → j.depth + (levels + 1) ≤ deepest
  time : ∀ t, m.time = some t → t.isValid = true

theorem Proper.sound (proper : m.Proper levels) : m.Sound levels where
  fields j set := by
    obtain ⟨again, kept, -, whole⟩ := exists_rereads (proper.held j set)
    refine ⟨fun null => proper.present (null ▸ set), proper.depth j set, (proper.held j set).printable, fun all => ?_⟩
    rw [kept, whole all]
  time := proper.time

/-- The account of a writer is read again. -/
theorem Proper.exists_again (proper : m.Proper levels) :
    ∃ again, fromJson? levels m.toJson = some again ∧ again.zeroed = m.zeroed ∧ (m.Whole → again = m) := by
  have fields := lastOf_fields proper.sound fun j set => by
    obtain ⟨again, kept, -, -⟩ := exists_rereads (proper.held j set)
    rw [kept, Option.isSome_some]
  refine ⟨_, fromJson?_toJson_of proper.sound fields, ?_, fun whole => ?_⟩
  · cases set : m.fields with
    | none => simp [zeroed, set]
    | some j =>
        obtain ⟨again, kept, same, -⟩ := exists_rereads (proper.held j set)
        simp [zeroed, set, kept, same]
  · cases set : m.fields with
    | none => rw [Option.bind_none, ← set]
    | some j =>
        obtain ⟨again, kept, -, same⟩ := exists_rereads (proper.held j set)
        rw [Option.bind_some, kept, same (whole j set), ← set]

theorem proper_of_fromJson? {j : Json} (read : fromJson? levels j = some m) : m.Proper levels := by
  have sound := sound_of_fromJson? read
  refine ⟨?_, fun null => (sound.fields _ null).present rfl, fun k set => (sound.fields k set).depth, sound.time⟩
  unfold fromJson? at read
  simp only [Option.bind_eq_bind, Option.bind_eq_some_iff, Option.some.injEq] at read
  obtain ⟨ms, -, _, -, _, -, fields, kept, _, -, _, -, _, -, _, -, rfl⟩ := read
  rintro k rfl
  obtain ⟨given, -, read⟩ := exists_of_lastOf kept
  unfold anyJson? at read
  split at read
  · exact held_of_kept? given read
  · cases read

end FieldManager

/-! ### Metadata -/

namespace ObjectMeta

variable {levels : Nat} {m : ObjectMeta} {members : List (String × Json)}

/-- The metadata with all doubles that writers have set set to zero. -/
def zeroed (m : ObjectMeta) : ObjectMeta :=
  { m with managedFields := m.managedFields.map fun l => l.map FieldManager.zeroed }

/-- Nothing else is set to zero. -/
theorem eq_of_zeroed {kept : ObjectMeta} (same : kept.zeroed = m.zeroed) :
    kept = { m with managedFields := kept.managedFields } := by
  obtain ⟨annotations, created, grace, deleted, finalizers, generateName, generation, labels, managers, name,
    namespaceName, owners, version, link, uid⟩ := kept
  cases m
  simp only [zeroed, ObjectMeta.mk.injEq] at same ⊢
  obtain ⟨h₁, h₂, h₃, h₄, h₅, h₆, h₇, h₈, -, h₁₀, h₁₁, h₁₂, h₁₃, h₁₄, h₁₅⟩ := same
  exact ⟨h₁, h₂, h₃, h₄, h₅, h₆, h₇, h₈, trivial, h₁₀, h₁₁, h₁₂, h₁₃, h₁₄, h₁₅⟩

/-- Metadata can be held, and inside of `levels` arrays and objects a reader can take it in. -/
structure Proper (levels : Nat) (m : ObjectMeta) : Prop where
  created : ∀ t, m.creationTimestamp = some t → t.isValid = true
  deleted : ∀ t, m.deletionTimestamp = some t → t.isValid = true
  grace : ∀ i, m.deletionGracePeriodSeconds = some i → IsInt64 i
  generation : ∀ i, m.generation = some i → IsInt64 i
  managers : ∀ l, m.managedFields = some l → ∀ f ∈ l, f.Proper (levels + 2)

theorem Proper.sound (proper : m.Proper levels) : m.Sound levels :=
  ⟨proper.created, proper.deleted, proper.grace, proper.generation, fun l held f mem =>
    (proper.managers l held f mem).sound⟩

theorem Read.proper (read : Read levels members m) : m.Proper levels := by
  obtain ⟨created, deleted, grace, generation, -⟩ := read.sound
  refine ⟨created, deleted, grace, generation, fun l held f mem => ?_⟩
  have field := read.managedFields
  rw [held] at field
  obtain ⟨j, -, read⟩ := exists_of_lastOf field
  cases j with
  | array items =>
      obtain ⟨i, -, read⟩ := exists_of_mem_mapM read mem
      exact FieldManager.proper_of_fromJson? read
  | _ => cases read

theorem proper_of_fromJson? {j : Json} (read : fromJson? levels j = some m) : m.Proper levels := by
  obtain ⟨members, -, read⟩ := exists_of_fromJson? read
  exact read.proper

/-- All accounts of writers are read again. -/
theorem exists_managers {l : List FieldManager} (proper : ∀ f ∈ l, f.Proper levels) :
    ∃ others, list? (FieldManager.fromJson? levels) (.array (l.map FieldManager.toJson)) = some others ∧
      others.map FieldManager.zeroed = l.map FieldManager.zeroed ∧ ((∀ f ∈ l, f.Whole) → others = l) := by
  induction l with
  | nil => exact ⟨[], rfl, rfl, fun _ => rfl⟩
  | cons f rest ih =>
      obtain ⟨first, later⟩ := List.forall_mem_cons.mp proper
      obtain ⟨again, read, zeroed, whole⟩ := first.exists_again
      obtain ⟨others, readOthers, zeroedOthers, wholeOthers⟩ := ih later
      refine ⟨again :: others, ?_, ?_, fun all => ?_⟩
      · have readRest : (rest.map FieldManager.toJson).mapM (FieldManager.fromJson? levels) = some others := readOthers
        simp [list?, read, readRest]
      · rw [List.map_cons, List.map_cons, zeroed, zeroedOthers]
      · obtain ⟨first, all⟩ := List.forall_mem_cons.mp all
        rw [whole first, wholeOthers all]

/-- Metadata is read again. -/
theorem Proper.exists_again (proper : m.Proper levels) :
    ∃ again, fromJson? levels m.toJson = some again ∧ again.zeroed = m.zeroed ∧ (m.Whole → again = m) := by
  have mem : ("managedFields", m.managedFields.map fun l => .array (l.map FieldManager.toJson)) ∈ m.given := by
    simp [given]
  have stands := under_written m.distinct_given mem
  cases held : m.managedFields with
  | none =>
      rw [held] at stands
      have read := read_written_of proper.sound (lastOf_of_none stands)
      refine ⟨_, fromJson?_object_iff.mpr read, ?_, fun _ => ?_⟩
      · simp [zeroed, held]
      · rw [← held]
  | some l =>
      obtain ⟨others, readOthers, zeroedOthers, whole⟩ := exists_managers (proper.managers l held)
      rw [held] at stands
      have read := read_written_of proper.sound
        ((lastOf_of_single stands).trans (congrArg (Option.map some) readOthers))
      refine ⟨_, fromJson?_object_iff.mpr read, ?_, fun all => ?_⟩
      · simp [zeroed, held, zeroedOthers]
      · rw [whole (all l held), ← held]

end ObjectMeta

/-! ### The two kinds -/

/-- What stays the same of an interface when it is written and read again. -/
structure NetworkInterface.Survives (nic again : NetworkInterface) : Prop where
  zeroed : ({ again with metadata := again.metadata.zeroed } : NetworkInterface) =
    { nic with metadata := nic.metadata.zeroed }
  whole : nic.metadata.Whole → again = nic
  macAddress : again.macAddress? = nic.macAddress?
  linkName : again.linkName? = nic.linkName?
  isTerminating : again.isTerminating = nic.isTerminating
  hasFinalizer : again.hasFinalizer = nic.hasFinalizer
  ownerNetwork : again.ownerNetwork? = nic.ownerNetwork?
  phase : ∀ settings, Phase.of settings again = Phase.of settings nic

/-- What stays the same of a network when it is written and read again. -/
structure PrivateNetwork.Survives (network again : PrivateNetwork) : Prop where
  zeroed : ({ again with metadata := again.metadata.zeroed } : PrivateNetwork) =
    { network with metadata := network.metadata.zeroed }
  whole : network.metadata.Whole → again = network
  routes : desiredRoutes again = desiredRoutes network

namespace NetworkInterface

variable {nic : NetworkInterface}

/-- Nothing that is asked of an interface looks at the accounts of writers. -/
theorem survives_of_zeroed {kept : ObjectMeta} (zeroed : kept.zeroed = nic.metadata.zeroed)
    (whole : nic.metadata.Whole → kept = nic.metadata) : nic.Survives { nic with metadata := kept } := by
  refine ⟨?_, fun all => ?_, rfl, rfl, ?_, ?_, ?_, fun settings => ?_⟩
  · simp only [zeroed]
  · simp only [whole all]
  all_goals
    rw [ObjectMeta.eq_of_zeroed zeroed]
    rfl

/-- An interface is written as a text from which it is read again. -/
theorem exists_again (proper : nic.metadata.Proper 1) :
    ∃ again, (Json.parse? nic.toJson.render >>= fromJson?) = some again ∧ nic.Survives again := by
  obtain ⟨kept, read, zeroed, whole⟩ := proper.exists_again
  rw [parse?_render (printable_toJson proper.sound)]
  exact ⟨_, fromJson?_toJson_of read, survives_of_zeroed zeroed whole⟩

theorem proper_of_fromJson? {j : Json} (read : fromJson? j = some nic) : nic.metadata.Proper 1 := by
  obtain ⟨f, -, read⟩ := Option.bind_eq_some_iff.mp read
  obtain ⟨metadata, readMetadata, read⟩ := Option.bind_eq_some_iff.mp read
  obtain ⟨spec, -, read⟩ := Option.bind_eq_some_iff.mp read
  obtain ⟨status, -, same⟩ := Option.bind_eq_some_iff.mp read
  cases same
  obtain ⟨k, -, readMetadata⟩ := Option.bind_eq_some_iff.mp readMetadata
  exact ObjectMeta.proper_of_fromJson? readMetadata

end NetworkInterface

namespace PrivateNetwork

variable {network : PrivateNetwork}

/-- A network is written as a text from which it is read again. -/
theorem exists_again (proper : network.metadata.Proper 1) :
    ∃ again, (Json.parse? network.toJson.render >>= fromJson?) = some again ∧ network.Survives again := by
  obtain ⟨kept, read, zeroed, whole⟩ := proper.exists_again
  rw [parse?_render (printable_toJson proper.sound)]
  refine ⟨_, fromJson?_toJson_of read, ?_, fun all => ?_, ?_⟩
  · simp only [zeroed]
  · simp only [whole all]
  · rw [ObjectMeta.eq_of_zeroed zeroed]
    rfl

theorem proper_of_fromJson? {j : Json} (read : fromJson? j = some network) : network.metadata.Proper 1 := by
  obtain ⟨f, -, read⟩ := Option.bind_eq_some_iff.mp read
  obtain ⟨metadata, readMetadata, read⟩ := Option.bind_eq_some_iff.mp read
  obtain ⟨spec, -, same⟩ := Option.bind_eq_some_iff.mp read
  cases same
  obtain ⟨k, -, readMetadata⟩ := Option.bind_eq_some_iff.mp readMetadata
  exact ObjectMeta.proper_of_fromJson? readMetadata

end PrivateNetwork

/-- Objects survive being written and read again, whether they were made by a program or read from a document. Only
doubles that writers have set may change, so nothing that is asked of an object does. Members that are not known of an
object do not count. -/
theorem objects_survive_rewriting :
    (∀ nic : NetworkInterface, nic.metadata.Proper 1 → ∃ again,
        (Json.parse? nic.toJson.render >>= NetworkInterface.fromJson?) = some again ∧ nic.Survives again) ∧
      (∀ network : PrivateNetwork, network.metadata.Proper 1 → ∃ again,
        (Json.parse? network.toJson.render >>= PrivateNetwork.fromJson?) = some again ∧ network.Survives again) ∧
      (∀ j nic, NetworkInterface.fromJson? j = some nic → ∃ again,
        (Json.parse? nic.toJson.render >>= NetworkInterface.fromJson?) = some again ∧ nic.Survives again) ∧
      (∀ j network, PrivateNetwork.fromJson? j = some network → ∃ again,
        (Json.parse? network.toJson.render >>= PrivateNetwork.fromJson?) = some again ∧ network.Survives again) ∧
      (∀ j, NetworkInterface.fromJson? ((Shape.record Shape.networkInterface).pruned j) =
        NetworkInterface.fromJson? j) ∧
      ∀ j, PrivateNetwork.fromJson? ((Shape.record Shape.privateNetwork).pruned j) = PrivateNetwork.fromJson? j :=
  ⟨fun _ proper => NetworkInterface.exists_again proper, fun _ proper => PrivateNetwork.exists_again proper,
    fun _ _ read => NetworkInterface.exists_again (NetworkInterface.proper_of_fromJson? read),
    fun _ _ read => PrivateNetwork.exists_again (PrivateNetwork.proper_of_fromJson? read),
    NetworkInterface.overlooks 0, PrivateNetwork.overlooks⟩

/-- The account of a writer. -/
def account (fields : Json) : FieldManager :=
  ⟨some "v1", none, some fields, none, some "Update", none, some ⟨1999, 12, 31, 0, 0, 0⟩⟩

/-- An interface with some accounts of writers, that has a label, an owner, a finalizer and an empty status. -/
def departing (accounts : List FieldManager) : NetworkInterface where
  metadata :=
    { ObjectMeta.blank with
      creationTimestamp := some ⟨2024, 2, 29, 23, 59, 59⟩
      deletionTimestamp := some ⟨2024, 3, 1, 0, 0, 0⟩
      finalizers := some [interfaceFinalizer, ""]
      generation := some 3
      labels := some (Table.ofList [(networkLabel, "pn-1")])
      managedFields := some accounts
      name := some "nic-a"
      ownerReferences := some [⟨apiVersion, networkKind, "pn-1", "2", some true, none⟩] }
  spec := ⟨"node-1", ""⟩
  status := some ⟨none, some ""⟩

/-- Without doubles an interface is read back as it was. -/
theorem departing_survives_rewriting :
    let nic := departing [account (.object [("f:spec", .object [(".", .number (.ofInt 7))])])]
    nic.metadata.Proper 1 ∧ (Json.parse? nic.toJson.render >>= NetworkInterface.fromJson?) = some nic := by
  intro nic
  have fits : JsonNumber.fitsWord 7 = true := by decide
  have proper : nic.metadata.Proper 1 := by
    refine ⟨?_, ?_, nofun, ?_, ?_⟩
    · rintro t ⟨⟩
      decide
    · rintro t ⟨⟩
      decide
    · rintro i ⟨⟩
      exact ⟨by decide, by decide⟩
    · rintro l ⟨⟩ f mem
      obtain rfl := List.mem_singleton.mp mem
      refine ⟨?_, nofun, ?_, ?_⟩
      · rintro j ⟨⟩
        exact .object (List.pairwise_singleton ..) (List.forall_mem_singleton.mpr
          (.object (List.pairwise_singleton ..) (List.forall_mem_singleton.mpr (.whole fits))))
      · rintro j ⟨⟩
        decide
      · rintro t ⟨⟩
        decide
  obtain ⟨again, read, survives⟩ := objects_survive_rewriting.1 nic proper
  have whole : nic.metadata.Whole := by
    rintro l ⟨⟩ f mem
    obtain rfl := List.mem_singleton.mp mem
    rintro j ⟨⟩
    exact .object (List.forall_mem_singleton.mpr (.object (List.forall_mem_singleton.mpr (.number fits))))
  obtain rfl := survives.whole whole
  exact ⟨proper, read⟩

/-- What the first writer of an interface has set, as a text. -/
def setText? (nic : NetworkInterface) : Option String :=
  (nic.metadata.managedFields.bind List.head? >>= FieldManager.fields).map Json.render

/-- Arrays inside of each other. -/
def nested : Nat → Json
  | 0 => .null
  | n + 1 => .array [nested n]

/-- A double that has been read is written as a text from which another one is read. Neither is null read back, nor what
is nested too deep for a reader. -/
theorem accounts_change_on_rewriting :
    (∃ nic again,
        NetworkInterface.fromJson? (departing [account (.number ⟨false, 2, none, some (-24)⟩)]).toJson = some nic ∧
        NetworkInterface.fromJson? nic.toJson = some again ∧ again ≠ nic) ∧
      NetworkInterface.fromJson? (departing [account .null]).toJson ≠ some (departing [account .null]) ∧
      NetworkInterface.fromJson? (departing [account (nested 124)]).toJson = none := by
  refine ⟨?_, fun same => ?_, ?_⟩
  · have first : (NetworkInterface.fromJson? (departing [account (.number ⟨false, 2, none, some (-24)⟩)]).toJson).bind
        setText? = some "2.0000000000000002e-24" := by decide +kernel
    have second : ((NetworkInterface.fromJson? (departing [account (.number ⟨false, 2, none, some (-24)⟩)]).toJson).bind
        fun nic => (NetworkInterface.fromJson? nic.toJson).bind setText?) = some "2e-24" := by decide +kernel
    obtain ⟨nic, read, told⟩ := Option.bind_eq_some_iff.mp first
    rw [read, Option.bind_some] at second
    obtain ⟨again, readAgain, toldAgain⟩ := Option.bind_eq_some_iff.mp second
    refine ⟨nic, again, read, readAgain, ?_⟩
    rintro rfl
    rw [told] at toldAgain
    exact absurd toldAgain (by decide)
  · have nothing : (NetworkInterface.fromJson? (departing [account .null]).toJson).bind setText? = none := by
      decide +kernel
    rw [same] at nothing
    exact absurd nothing (by decide)
  · exact Option.isNone_iff_eq_none.mp (by decide +kernel)

end LinkKeeper
