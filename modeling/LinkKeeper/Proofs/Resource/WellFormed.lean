import LinkKeeper.Proofs.Json.Readable
import LinkKeeper.Proofs.Resource.Metadata

/-!
Documents of metadata that are well formed, told field by field, and that they can be read.

A field may be left out or null. Times are texts as the cluster writes them, and what a writer has set is any document
that can be kept and is not nested too deep.

* `Json.Field`: what stands under a name.
* `ObjectMeta.WellFormed`: the metadata of an object.
* `ObjectMeta.takes`: it can be read.
-/

namespace LinkKeeper

open Json

/-! ### Forms -/

namespace Json

/-- What stands under the name is null or has the form. -/
def Field (members : List (String × Json)) (name : String) (form : Json → Prop) : Prop :=
  ∀ j ∈ under name members, j = .null ∨ form j

def IsText (j : Json) : Prop := ∃ s, j = .text s

def IsBool (j : Json) : Prop := ∃ b, j = .bool b

/-- A whole number that sixty-four bits hold with its sign. -/
def IsWhole (j : Json) : Prop := ∃ i, ObjectMeta.IsInt64 i ∧ j = .number (.ofInt i)

/-- A point in time. -/
def IsTime (j : Json) : Prop := ∃ t : Timestamp, t.isValid = true ∧ j = .text t.text

def IsList (form : Json → Prop) (j : Json) : Prop := ∃ items, j = .array items ∧ ∀ i ∈ items, form i

/-- An object whose members are all texts. -/
def IsTextTable (j : Json) : Prop := ∃ members, j = .object members ∧ ∀ m ∈ members, IsText m.2

/-- A reader gives a value of every document of a form. -/
def Takes {α : Type} (form : Json → Prop) (value : Decoder α) : Prop := ∀ j, form j → ∃ a, value j = some a

variable {α : Type} {form : Json → Prop} {value : Decoder α}

theorem takes_text : Takes IsText text? := by
  rintro _ ⟨s, rfl⟩
  exact ⟨s, rfl⟩

theorem takes_bool : Takes IsBool bool? := by
  rintro _ ⟨b, rfl⟩
  exact ⟨b, rfl⟩

theorem takes_whole : Takes IsWhole int64? := by
  rintro _ ⟨i, ⟨low, high⟩, rfl⟩
  exact ⟨i, int64?_ofInt low high⟩

theorem takes_time : Takes IsTime Timestamp.fromJson? := by
  rintro _ ⟨t, valid, rfl⟩
  exact ⟨t, Timestamp.fromJson?_text valid⟩

theorem exists_mapM {β : Type} {f : β → Option α} {xs : List β} (each : ∀ x ∈ xs, ∃ a, f x = some a) :
    ∃ as, xs.mapM f = some as := by
  induction xs with
  | nil => exact ⟨[], rfl⟩
  | cons x rest ih =>
      obtain ⟨⟨a, first⟩, later⟩ := List.forall_mem_cons.mp each
      obtain ⟨as, others⟩ := ih later
      exact ⟨a :: as, by simp [first, others]⟩

theorem takes_list (takes : Takes form value) : Takes (IsList form) (list? value) := by
  rintro _ ⟨items, rfl, all⟩
  exact exists_mapM fun j mem => takes j (all j mem)

theorem takes_textTable : Takes IsTextTable textTable? := by
  rintro _ ⟨members, rfl, all⟩
  have collected (l : List (String × Json)) (all : ∀ m ∈ l, IsText m.2) (t : Table String String) :
      ∃ u, l.foldl (fun t m => do some ((← t).insert m.1 (← text? m.2))) (some t) = some u := by
    induction l generalizing t with
    | nil => exact ⟨t, rfl⟩
    | cons m rest ih =>
        obtain ⟨⟨s, text⟩, later⟩ := List.forall_mem_cons.mp all
        obtain ⟨u, others⟩ := ih later (t.insert m.1 s)
        exact ⟨u, by rw [List.foldl_cons, text]; exact others⟩
  exact collected members all ∅

theorem Field.of_absent {members : List (String × Json)} {name : String} (absent : under name members = []) :
    Field members name form := by
  intro j mem
  rw [absent] at mem
  cases mem

theorem Field.of_single {members : List (String × Json)} {name : String} {j : Json} (stands : under name members = [j])
    (own : j = .null ∨ form j) : Field members name form := by
  intro k mem
  rw [stands] at mem
  rwa [List.mem_singleton.mp mem]

/-- A field can be read if all that stands under its name can. -/
theorem Field.exists_lastOf {members : List (String × Json)} {name : String} (field : Field members name form)
    (takes : Takes form value) : ∃ a, lastOf members name value = some a := by
  have each : ∀ j ∈ under name members, ∃ a, nullable value j = some a := by
    intro j mem
    rcases field j mem with rfl | own
    · exact ⟨none, rfl⟩
    · obtain ⟨a, read⟩ := takes j own
      cases j with
      | null => exact ⟨none, rfl⟩
      | _ => exact ⟨some a, congrArg (Option.map some) read⟩
  obtain ⟨occurrences, all⟩ := exists_mapM each
  rw [lastOf_eq, all]
  exact ⟨_, rfl⟩

end Json

/-! ### Metadata -/

/-- An owner is well formed. -/
def OwnerReference.WellFormed (j : Json) : Prop :=
  ∃ members, j = .object members ∧ (∀ name ∈ ["apiVersion", "kind", "name", "uid"], Field members name IsText) ∧
    ∀ name ∈ ["controller", "blockOwnerDeletion"], Field members name IsBool

theorem OwnerReference.takes : Takes WellFormed OwnerReference.fromJson? := by
  rintro _ ⟨members, rfl, texts, bools⟩
  obtain ⟨apiVersion, readVersion⟩ := (texts "apiVersion" (by decide)).exists_lastOf takes_text
  obtain ⟨kind, readKind⟩ := (texts "kind" (by decide)).exists_lastOf takes_text
  obtain ⟨name, readName⟩ := (texts "name" (by decide)).exists_lastOf takes_text
  obtain ⟨uid, readUid⟩ := (texts "uid" (by decide)).exists_lastOf takes_text
  obtain ⟨controller, readController⟩ := (bools "controller" (by decide)).exists_lastOf takes_bool
  obtain ⟨block, readBlock⟩ := (bools "blockOwnerDeletion" (by decide)).exists_lastOf takes_bool
  refine ⟨⟨apiVersion.getD "", kind.getD "", name.getD "", uid.getD "", controller, block⟩, ?_⟩
  unfold fromJson?
  simp only [members?, Option.bind_eq_bind, Option.bind_some, readVersion, readKind, readName, readUid, readController,
    readBlock]

/-- What a writer has set can be kept, inside of `levels` arrays and objects. -/
def FieldManager.IsSet (levels : Nat) (j : Json) : Prop := j.Readable ∧ j.depth + levels ≤ deepest

/-- The account of a writer is well formed, inside of `levels` arrays and objects. -/
def FieldManager.WellFormed (levels : Nat) (j : Json) : Prop :=
  ∃ members, j = .object members ∧
    (∀ name ∈ ["apiVersion", "fieldsType", "manager", "operation", "subresource"], Field members name IsText) ∧
      Field members "fieldsV1" (IsSet (levels + 1)) ∧ Field members "time" IsTime

theorem FieldManager.takes (levels : Nat) : Takes (WellFormed levels) (FieldManager.fromJson? levels) := by
  rintro _ ⟨members, rfl, texts, fields, time⟩
  have takes_set : Takes (IsSet (levels + 1)) (anyJson? (levels + 1)) := by
    rintro j ⟨readable, shallow⟩
    obtain ⟨kept, keeps⟩ := readable.exists_kept?
    exact ⟨kept, by rw [anyJson?, if_pos shallow, keeps]⟩
  obtain ⟨apiVersion, readVersion⟩ := (texts "apiVersion" (by decide)).exists_lastOf takes_text
  obtain ⟨fieldsType, readType⟩ := (texts "fieldsType" (by decide)).exists_lastOf takes_text
  obtain ⟨fields, readFields⟩ := fields.exists_lastOf takes_set
  obtain ⟨manager, readManager⟩ := (texts "manager" (by decide)).exists_lastOf takes_text
  obtain ⟨operation, readOperation⟩ := (texts "operation" (by decide)).exists_lastOf takes_text
  obtain ⟨subresource, readSubresource⟩ := (texts "subresource" (by decide)).exists_lastOf takes_text
  obtain ⟨time, readTime⟩ := time.exists_lastOf takes_time
  refine ⟨⟨apiVersion, fieldsType, fields, manager, operation, subresource, time⟩, ?_⟩
  unfold fromJson?
  simp only [members?, Option.bind_eq_bind, Option.bind_some, readVersion, readType, readFields, readManager,
    readOperation, readSubresource, readTime]

namespace ObjectMeta

variable {levels : Nat} {j : Json}

/-- Metadata is well formed, inside of `levels` arrays and objects. -/
structure WellFormed (levels : Nat) (j : Json) : Prop where
  isObject : ∃ members, j = .object members
  texts : ∀ name ∈ ["generateName", "name", "namespace", "resourceVersion", "selfLink", "uid"],
    Field j.members name IsText
  wholes : ∀ name ∈ ["deletionGracePeriodSeconds", "generation"], Field j.members name IsWhole
  times : ∀ name ∈ ["creationTimestamp", "deletionTimestamp"], Field j.members name IsTime
  tables : ∀ name ∈ ["annotations", "labels"], Field j.members name IsTextTable
  finalizers : Field j.members "finalizers" (IsList IsText)
  managers : Field j.members "managedFields" (IsList (FieldManager.WellFormed (levels + 2)))
  owners : Field j.members "ownerReferences" (IsList OwnerReference.WellFormed)

/-- Well-formed metadata can be read. -/
theorem takes (levels : Nat) : Takes (WellFormed levels) (ObjectMeta.fromJson? levels) := by
  rintro j ⟨⟨members, rfl⟩, texts, wholes, times, tables, finalizers, managers, owners⟩
  obtain ⟨_, annotations⟩ := (tables "annotations" (by decide)).exists_lastOf takes_textTable
  obtain ⟨_, created⟩ := (times "creationTimestamp" (by decide)).exists_lastOf takes_time
  obtain ⟨_, grace⟩ := (wholes "deletionGracePeriodSeconds" (by decide)).exists_lastOf takes_whole
  obtain ⟨_, deleted⟩ := (times "deletionTimestamp" (by decide)).exists_lastOf takes_time
  obtain ⟨_, finalizers⟩ := finalizers.exists_lastOf (takes_list takes_text)
  obtain ⟨_, generateName⟩ := (texts "generateName" (by decide)).exists_lastOf takes_text
  obtain ⟨_, generation⟩ := (wholes "generation" (by decide)).exists_lastOf takes_whole
  obtain ⟨_, labels⟩ := (tables "labels" (by decide)).exists_lastOf takes_textTable
  obtain ⟨_, managers⟩ := managers.exists_lastOf (takes_list (FieldManager.takes (levels + 2)))
  obtain ⟨_, name⟩ := (texts "name" (by decide)).exists_lastOf takes_text
  obtain ⟨_, namespaceName⟩ := (texts "namespace" (by decide)).exists_lastOf takes_text
  obtain ⟨_, owners⟩ := owners.exists_lastOf (takes_list OwnerReference.takes)
  obtain ⟨_, version⟩ := (texts "resourceVersion" (by decide)).exists_lastOf takes_text
  obtain ⟨_, selfLink⟩ := (texts "selfLink" (by decide)).exists_lastOf takes_text
  obtain ⟨_, uid⟩ := (texts "uid" (by decide)).exists_lastOf takes_text
  exact ⟨⟨_, _, _, _, _, _, _, _, _, _, _, _, _, _, _⟩, fromJson?_object_iff.mpr
    ⟨annotations, created, grace, deleted, finalizers, generateName, generation, labels, managers, name, namespaceName,
      owners, version, selfLink, uid⟩⟩

end ObjectMeta

end LinkKeeper
