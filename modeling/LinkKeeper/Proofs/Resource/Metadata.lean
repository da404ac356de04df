import LinkKeeper.Proofs.Json.Fields
import LinkKeeper.Proofs.Resource.Timestamps
import LinkKeeper.Resource.Metadata

/-!
Metadata is read back from the document that is written for it.

This holds of all metadata that has been read from some document, but for one thing: writers of an object may have set
doubles in it, and a double is not always kept by a second reading.

* `ObjectMeta.fromJson?_object_iff`: what is read from which members.
* `ObjectMeta.Sound`, `ObjectMeta.Read.sound`: what is known of metadata that has been read.
* `ObjectMeta.Stable`, `ObjectMeta.Sound.stable`: what writers have set is kept by a second reading, if there are no
  doubles in it.
* `ObjectMeta.read_written`: reading what has been written.
* `ObjectMeta.printable_toJson`: what is written has a text.
-/

namespace LinkKeeper

open Json

/-! ### Owners and times -/

theorem OwnerReference.fromJson?_toJson (r : OwnerReference) : fromJson? r.toJson = some r := by
  obtain ⟨apiVersion, kind, name, uid, controller, blockOwnerDeletion⟩ := r
  cases controller <;> cases blockOwnerDeletion <;> rfl

theorem OwnerReference.printable_toJson (r : OwnerReference) : r.toJson.Printable := by
  refine printable_ofFields ?_
  simp only [List.forall_mem_cons]
  exact ⟨printable_some (.text _), printable_map fun b _ => .bool b, printable_map fun b _ => .bool b,
    printable_some (.text _), printable_some (.text _), printable_some (.text _), by simp⟩

theorem Timestamp.fromJson?_text {t : Timestamp} (valid : t.isValid = true) : fromJson? (.text t.text) = some t := by
  simp [fromJson?, text?, parse?_text valid]

theorem Timestamp.isValid_of_fromJson? {j : Json} {t : Timestamp} (read : fromJson? j = some t) :
    t.isValid = true := by
  obtain ⟨s, -, read⟩ := Option.bind_eq_some_iff.mp read
  exact isValid_of_parse? read

/-! ### Writers -/

namespace FieldManager

variable {levels : Nat} {m : FieldManager}

/-- What is known of a document that a writer has set, inside of `levels` arrays and objects, once it has been read. -/
structure Sets (levels : Nat) (j : Json) : Prop where
  present : j ≠ .null
  depth : j.depth + levels ≤ deepest
  printable : j.Printable
  again : j.Whole → j.kept? = some j

/-- What is known of what a writer has set, inside of `levels` arrays and objects, once it has been read. -/
structure Sound (levels : Nat) (m : FieldManager) : Prop where
  fields : ∀ j, m.fields = some j → Sets (levels + 1) j
  time : ∀ t, m.time = some t → t.isValid = true

/-- What the writer has set is kept as it is when it is read again. -/
def Stable (m : FieldManager) : Prop := ∀ j, m.fields = some j → j.kept? = some j

/-- The writer has set no doubles. -/
def Whole (m : FieldManager) : Prop := ∀ j, m.fields = some j → j.Whole

theorem Sound.stable (sound : m.Sound levels) (whole : m.Whole) : m.Stable :=
  fun j held => (sound.fields j held).again (whole j held)

/-- The fields that are written. -/
def given (m : FieldManager) : List (String × Option Json) :=
  [("apiVersion", m.apiVersion.map .text),
    ("fieldsType", m.fieldsType.map .text),
    ("fieldsV1", m.fields),
    ("manager", m.manager.map .text),
    ("operation", m.operation.map .text),
    ("subresource", m.subresource.map .text),
    ("time", m.time.map fun t => .text t.text)]

theorem toJson_eq (m : FieldManager) : m.toJson = .object (written m.given) := rfl

theorem distinct_given (m : FieldManager) : (m.given.map Prod.fst).Nodup :=
  (by decide : ["apiVersion", "fieldsType", "fieldsV1", "manager", "operation", "subresource", "time"].Nodup)

/-- Whatever is read of the fields that have been set, all else is read back. -/
theorem fromJson?_toJson_of (sound : m.Sound levels) {kept : Option Json}
    (fields : lastOf (written m.given) "fieldsV1" (anyJson? (levels + 1)) = some kept) :
    fromJson? levels m.toJson = some { m with fields := kept } := by
  have text {name : String} {a : Option String} (mem : (name, a.map .text) ∈ m.given) :
      lastOf (written m.given) name text? = some a := lastOf_written m.distinct_given mem fun _ _ => rfl
  have time : lastOf (written m.given) "time" Timestamp.fromJson? = some m.time := by
    have mem : ("time", m.time.map fun t => .text t.text) ∈ m.given := by simp [given]
    exact lastOf_written m.distinct_given mem fun t held =>
      congrArg (Option.map some) (Timestamp.fromJson?_text (sound.time t held))
  have apiVersion : ("apiVersion", m.apiVersion.map .text) ∈ m.given := by simp [given]
  have fieldsType : ("fieldsType", m.fieldsType.map .text) ∈ m.given := by simp [given]
  have manager : ("manager", m.manager.map .text) ∈ m.given := by simp [given]
  have operation : ("operation", m.operation.map .text) ∈ m.given := by simp [given]
  have subresource : ("subresource", m.subresource.map .text) ∈ m.given := by simp [given]
  rw [toJson_eq]
  unfold fromJson?
  simp only [members?, Option.bind_eq_bind, Option.bind_some, text apiVersion, text fieldsType, fields, text manager,
    text operation, text subresource, time]

/-- Of what the writer has set that is read which is kept of it. -/
theorem lastOf_fields (sound : m.Sound levels) (readable : ∀ j, m.fields = some j → j.kept?.isSome = true) :
    lastOf (written m.given) "fieldsV1" (anyJson? (levels + 1)) = some (m.fields.bind Json.kept?) := by
  have mem : ("fieldsV1", m.fields) ∈ m.given := by simp [given]
  have stands := under_written m.distinct_given mem
  cases held : m.fields with
  | none =>
      rw [held] at stands
      exact lastOf_of_none stands
  | some j =>
      obtain ⟨present, depth, -, -⟩ := sound.fields j held
      obtain ⟨k, kept⟩ := Option.isSome_iff_exists.mp (readable j held)
      have read : anyJson? (levels + 1) j = some k := by
        unfold anyJson?
        rw [if_pos depth, kept]
      rw [held] at stands
      rw [lastOf_of_single stands, Option.bind_some, kept]
      cases j with
      | null => exact absurd rfl present
      | _ => exact congrArg (Option.map some) read

theorem fromJson?_toJson (sound : m.Sound levels) (stable : m.Stable) : fromJson? levels m.toJson = some m := by
  have same : m.fields.bind Json.kept? = m.fields := by
    cases held : m.fields with
    | none => rfl
    | some j => exact stable j held
  have fields := lastOf_fields sound fun j held => Option.isSome_iff_exists.mpr ⟨j, stable j held⟩
  rw [same] at fields
  exact fromJson?_toJson_of sound fields

theorem sound_of_fromJson? {j : Json} (read : fromJson? levels j = some m) : m.Sound levels := by
  unfold fromJson? at read
  simp only [Option.bind_eq_bind, Option.bind_eq_some_iff, Option.some.injEq] at read
  obtain ⟨ms, -, apiVersion, -, fieldsType, -, fields, kept, manager, -, operation, -, subresource, -, time, told,
    rfl⟩ := read
  constructor
  · rintro k rfl
    obtain ⟨given, present, read⟩ := exists_of_lastOf kept
    unfold anyJson? at read
    split at read
    · rename_i shallow
      obtain ⟨printable, depth⟩ := keeps_of_kept? given read
      exact ⟨ne_null_of_kept? read present, by omega, printable, kept?_kept given read⟩
    · cases read
  · rintro t rfl
    obtain ⟨given, -, read⟩ := exists_of_lastOf told
    exact Timestamp.isValid_of_fromJson? read

theorem printable_toJson (sound : m.Sound levels) : m.toJson.Printable := by
  refine printable_ofFields ?_
  simp only [List.forall_mem_cons]
  exact ⟨printable_map fun s _ => .text s, printable_map fun s _ => .text s,
    fun j held => (sound.fields j held).printable, printable_map fun s _ => .text s,
    printable_map fun s _ => .text s, printable_map fun s _ => .text s, printable_map fun t _ => .text t.text, by simp⟩

end FieldManager

/-! ### Metadata -/

namespace ObjectMeta

variable {levels : Nat} {m : ObjectMeta} {members others : List (String × Json)}

/-- What is read of each field. -/
structure Read (levels : Nat) (members : List (String × Json)) (m : ObjectMeta) : Prop where
  annotations : lastOf members "annotations" textTable? = some m.annotations
  creationTimestamp : lastOf members "creationTimestamp" Timestamp.fromJson? = some m.creationTimestamp
  deletionGracePeriodSeconds : lastOf members "deletionGracePeriodSeconds" int64? = some m.deletionGracePeriodSeconds
  deletionTimestamp : lastOf members "deletionTimestamp" Timestamp.fromJson? = some m.deletionTimestamp
  finalizers : lastOf members "finalizers" (list? text?) = some m.finalizers
  generateName : lastOf members "generateName" text? = some m.generateName
  generation : lastOf members "generation" int64? = some m.generation
  labels : lastOf members "labels" textTable? = some m.labels
  managedFields : lastOf members "managedFields" (list? (FieldManager.fromJson? (levels + 2))) = some m.managedFields
  name : lastOf members "name" text? = some m.name
  namespaceName : lastOf members "namespace" text? = some m.namespaceName
  ownerReferences : lastOf members "ownerReferences" (list? OwnerReference.fromJson?) = some m.ownerReferences
  resourceVersion : lastOf members "resourceVersion" text? = some m.resourceVersion
  selfLink : lastOf members "selfLink" text? = some m.selfLink
  uid : lastOf members "uid" text? = some m.uid

theorem fromJson?_object_iff : fromJson? levels (.object members) = some m ↔ Read levels members m := by
  constructor
  · intro read
    obtain ⟨_, annotations, read⟩ := Option.bind_eq_some_iff.mp read
    obtain ⟨_, creationTimestamp, read⟩ := Option.bind_eq_some_iff.mp read
    obtain ⟨_, deletionGracePeriodSeconds, read⟩ := Option.bind_eq_some_iff.mp read
    obtain ⟨_, deletionTimestamp, read⟩ := Option.bind_eq_some_iff.mp read
    obtain ⟨_, finalizers, read⟩ := Option.bind_eq_some_iff.mp read
    obtain ⟨_, generateName, read⟩ := Option.bind_eq_some_iff.mp read
    obtain ⟨_, generation, read⟩ := Option.bind_eq_some_iff.mp read
    obtain ⟨_, labels, read⟩ := Option.bind_eq_some_iff.mp read
    obtain ⟨_, managedFields, read⟩ := Option.bind_eq_some_iff.mp read
    obtain ⟨_, name, read⟩ := Option.bind_eq_some_iff.mp read
    obtain ⟨_, namespaceName, read⟩ := Option.bind_eq_some_iff.mp read
    obtain ⟨_, ownerReferences, read⟩ := Option.bind_eq_some_iff.mp read
    obtain ⟨_, resourceVersion, read⟩ := Option.bind_eq_some_iff.mp read
    obtain ⟨_, selfLink, read⟩ := Option.bind_eq_some_iff.mp read
    obtain ⟨_, uid, read⟩ := Option.bind_eq_some_iff.mp read
    cases read
    exact ⟨annotations, creationTimestamp, deletionGracePeriodSeconds, deletionTimestamp, finalizers, generateName,
      generation, labels, managedFields, name, namespaceName, ownerReferences, resourceVersion, selfLink, uid⟩
  · intro read
    refine (bind_of_some read.annotations).trans ?_
    refine (bind_of_some read.creationTimestamp).trans ?_
    refine (bind_of_some read.deletionGracePeriodSeconds).trans ?_
    refine (bind_of_some read.deletionTimestamp).trans ?_
    refine (bind_of_some read.finalizers).trans ?_
    refine (bind_of_some read.generateName).trans ?_
    refine (bind_of_some read.generation).trans ?_
    refine (bind_of_some read.labels).trans ?_
    refine (bind_of_some read.managedFields).trans ?_
    refine (bind_of_some read.name).trans ?_
    refine (bind_of_some read.namespaceName).trans ?_
    refine (bind_of_some read.ownerReferences).trans ?_
    refine (bind_of_some read.resourceVersion).trans ?_
    refine (bind_of_some read.selfLink).trans ?_
    refine (bind_of_some read.uid).trans ?_
    rfl

/-- Only an object is read as metadata. -/
theorem exists_of_fromJson? {j : Json} (read : fromJson? levels j = some m) :
    ∃ members, j = .object members ∧ Read levels members m := by
  cases j with
  | object members => exact ⟨members, rfl, fromJson?_object_iff.mp read⟩
  | _ => cases read

/-- Metadata at another version is read with that version. -/
theorem Read.atVersion (read : Read levels members m) {version : String}
    (own : under "resourceVersion" others = [.text version])
    (same : ∀ name, name ≠ "resourceVersion" → under name others = under name members) :
    Read levels others (m.atVersion version) := by
  have field {α : Type} {name : String} {value : Decoder α} {a : Option α} (apart : name ≠ "resourceVersion")
      (read : lastOf members name value = some a) : lastOf others name value = some a :=
    (lastOf_congr (same name apart)).trans read
  obtain ⟨r₁, r₂, r₃, r₄, r₅, r₆, r₇, r₈, r₉, r₁₀, r₁₁, r₁₂, -, r₁₄, r₁₅⟩ := read
  exact ⟨field (by decide) r₁, field (by decide) r₂, field (by decide) r₃, field (by decide) r₄, field (by decide) r₅,
    field (by decide) r₆, field (by decide) r₇, field (by decide) r₈, field (by decide) r₉, field (by decide) r₁₀,
    field (by decide) r₁₁, field (by decide) r₁₂, lastOf_of_single own, field (by decide) r₁₄, field (by decide) r₁₅⟩

/-- Whether sixty-four bits hold a number with its sign. -/
def IsInt64 (i : Int) : Prop := -0x8000000000000000 ≤ i ∧ i ≤ 0x7FFFFFFFFFFFFFFF

/-- What is known of metadata, inside of `levels` arrays and objects, once it has been read. -/
structure Sound (levels : Nat) (m : ObjectMeta) : Prop where
  created : ∀ t, m.creationTimestamp = some t → t.isValid = true
  deleted : ∀ t, m.deletionTimestamp = some t → t.isValid = true
  grace : ∀ i, m.deletionGracePeriodSeconds = some i → IsInt64 i
  generation : ∀ i, m.generation = some i → IsInt64 i
  managers : ∀ l, m.managedFields = some l → ∀ f ∈ l, f.Sound (levels + 2)

/-- What the writers of the object have set is kept as it is when it is read again. -/
def Stable (m : ObjectMeta) : Prop := ∀ l, m.managedFields = some l → ∀ f ∈ l, f.Stable

/-- The writers of the object have set no doubles. -/
def Whole (m : ObjectMeta) : Prop := ∀ l, m.managedFields = some l → ∀ f ∈ l, f.Whole

/-- Only doubles may change when metadata is read again. -/
theorem Sound.stable (sound : m.Sound levels) (whole : m.Whole) : m.Stable :=
  fun l held f mem => (sound.managers l held f mem).stable (whole l held f mem)

theorem isInt64_of_read {j : Json} {i : Int} (read : int64? j = some i) : IsInt64 i := by
  cases j with
  | number n =>
      obtain ⟨-, bounds⟩ := Option.filter_eq_some_iff.mp read
      simpa [IsInt64] using bounds
  | _ => cases read

theorem Read.sound (read : Read levels members m) : m.Sound levels where
  created t held := by
    have field := read.creationTimestamp
    rw [held] at field
    obtain ⟨j, -, read⟩ := exists_of_lastOf field
    exact Timestamp.isValid_of_fromJson? read
  deleted t held := by
    have field := read.deletionTimestamp
    rw [held] at field
    obtain ⟨j, -, read⟩ := exists_of_lastOf field
    exact Timestamp.isValid_of_fromJson? read
  grace i held := by
    have field := read.deletionGracePeriodSeconds
    rw [held] at field
    obtain ⟨j, -, read⟩ := exists_of_lastOf field
    exact isInt64_of_read read
  generation i held := by
    have field := read.generation
    rw [held] at field
    obtain ⟨j, -, read⟩ := exists_of_lastOf field
    exact isInt64_of_read read
  managers l held f mem := by
    have field := read.managedFields
    rw [held] at field
    obtain ⟨j, -, read⟩ := exists_of_lastOf field
    cases j with
    | array items =>
        obtain ⟨i, -, read⟩ := exists_of_mem_mapM read mem
        exact FieldManager.sound_of_fromJson? read
    | _ => cases read

/-- The fields that are written. -/
def given (m : ObjectMeta) : List (String × Option Json) :=
  [("annotations", m.annotations.map ofTextTable),
    ("creationTimestamp", m.creationTimestamp.map fun t => .text t.text),
    ("deletionGracePeriodSeconds", m.deletionGracePeriodSeconds.map fun i => .number (.ofInt i)),
    ("deletionTimestamp", m.deletionTimestamp.map fun t => .text t.text),
    ("finalizers", m.finalizers.map ofTexts),
    ("generateName", m.generateName.map .text),
    ("generation", m.generation.map fun i => .number (.ofInt i)),
    ("labels", m.labels.map ofTextTable),
    ("managedFields", m.managedFields.map fun l => .array (l.map FieldManager.toJson)),
    ("name", m.name.map .text),
    ("namespace", m.namespaceName.map .text),
    ("ownerReferences", m.ownerReferences.map fun l => .array (l.map OwnerReference.toJson)),
    ("resourceVersion", m.resourceVersion.map .text),
    ("selfLink", m.selfLink.map .text),
    ("uid", m.uid.map .text)]

theorem toJson_eq (m : ObjectMeta) : m.toJson = .object (written m.given) := rfl

theorem distinct_given (m : ObjectMeta) : (m.given.map Prod.fst).Nodup :=
  (by decide : ["annotations", "creationTimestamp", "deletionGracePeriodSeconds", "deletionTimestamp", "finalizers",
    "generateName", "generation", "labels", "managedFields", "name", "namespace", "ownerReferences", "resourceVersion",
    "selfLink", "uid"].Nodup)

/-- Whatever is read of the writers, all else is read back. -/
theorem read_written_of (sound : m.Sound levels) {kept : Option (List FieldManager)}
    (managers : lastOf (written m.given) "managedFields" (list? (FieldManager.fromJson? (levels + 2))) = some kept) :
    Read levels (written m.given) { m with managedFields := kept } := by
  have distinct := m.distinct_given
  have texts (l : List String) : nullable (list? text?) (ofTexts l) = some (some l) := by
    have read : list? text? (ofTexts l) = some l := list?_forms fun _ _ => rfl
    exact congrArg (Option.map some) read
  have owners (l : List OwnerReference) :
      nullable (list? OwnerReference.fromJson?) (.array (l.map OwnerReference.toJson)) = some (some l) :=
    congrArg (Option.map some) (list?_forms fun r _ => r.fromJson?_toJson)
  have time (t : Timestamp) (valid : t.isValid = true) : nullable Timestamp.fromJson? (.text t.text) = some (some t) :=
    congrArg (Option.map some) (Timestamp.fromJson?_text valid)
  have int (i : Int) (fits : IsInt64 i) : nullable int64? (.number (.ofInt i)) = some (some i) :=
    congrArg (Option.map some) (int64?_ofInt fits.1 fits.2)
  have table (t : Table String String) : nullable textTable? (ofTextTable t) = some (some t) :=
    congrArg (Option.map some) (textTable?_ofTextTable t)
  have text (s : String) : nullable text? (.text s) = some (some s) := rfl
  constructor
  case annotations => exact lastOf_written distinct (by simp [given]) fun t _ => table t
  case creationTimestamp => exact lastOf_written distinct (by simp [given]) fun t held => time t (sound.created t held)
  case deletionGracePeriodSeconds =>
    exact lastOf_written distinct (by simp [given]) fun i held => int i (sound.grace i held)
  case deletionTimestamp => exact lastOf_written distinct (by simp [given]) fun t held => time t (sound.deleted t held)
  case finalizers => exact lastOf_written distinct (by simp [given]) fun l _ => texts l
  case generateName => exact lastOf_written distinct (by simp [given]) fun s _ => text s
  case generation => exact lastOf_written distinct (by simp [given]) fun i held => int i (sound.generation i held)
  case labels => exact lastOf_written distinct (by simp [given]) fun t _ => table t
  case managedFields => exact managers
  case name => exact lastOf_written distinct (by simp [given]) fun s _ => text s
  case namespaceName => exact lastOf_written distinct (by simp [given]) fun s _ => text s
  case ownerReferences => exact lastOf_written distinct (by simp [given]) fun l _ => owners l
  case resourceVersion => exact lastOf_written distinct (by simp [given]) fun s _ => text s
  case selfLink => exact lastOf_written distinct (by simp [given]) fun s _ => text s
  case uid => exact lastOf_written distinct (by simp [given]) fun s _ => text s

/-- What has been written is read back. -/
theorem read_written (sound : m.Sound levels) (stable : m.Stable) : Read levels (written m.given) m := by
  have mem : ("managedFields", m.managedFields.map fun l => .array (l.map FieldManager.toJson)) ∈ m.given := by
    simp [given]
  refine read_written_of sound (lastOf_written m.distinct_given mem fun l held => ?_)
  exact congrArg (Option.map some) (list?_forms fun f mem =>
    FieldManager.fromJson?_toJson (sound.managers l held f mem) (stable l held f mem))

theorem printable_toJson (sound : m.Sound levels) : m.toJson.Printable := by
  refine printable_ofFields ?_
  simp only [List.forall_mem_cons]
  refine ⟨printable_map fun t _ => printable_ofTextTable t, printable_map fun t _ => .text t.text,
    printable_map fun i _ => printable_ofInt i, printable_map fun t _ => .text t.text,
    printable_map fun l _ => printable_forms fun s _ => .text s, printable_map fun s _ => .text s,
    printable_map fun i _ => printable_ofInt i, printable_map fun t _ => printable_ofTextTable t,
    printable_map fun l held => printable_forms fun f mem =>
      FieldManager.printable_toJson (sound.managers l held f mem),
    printable_map fun s _ => .text s, printable_map fun s _ => .text s,
    printable_map fun l _ => printable_forms fun r _ => r.printable_toJson, printable_map fun s _ => .text s,
    printable_map fun s _ => .text s, printable_map fun s _ => .text s, by simp⟩

end ObjectMeta

end LinkKeeper
