import LinkKeeper.Proofs.Resource.Objects
import LinkKeeper.Proofs.Resource.Published
import LinkKeeper.Proofs.Resource.WellFormed
import LinkKeeper.Watch.Triggers

/-!
What a cluster admits can be read, and what is written is admitted.

A cluster checks objects against the schemas that it has been told of, and the readers of this program do not know of
them. That both agree is shown part by part: a reader covers a schema if it gives a value of every document that the
schema accepts.

* `Schema.Covers`: the agreement of a schema with a reader.
* `Json.Admitted`: the objects that a cluster admits by a published schema.
-/

namespace LinkKeeper

open Json

namespace Json

/-- No object in the document repeats a name. -/
inductive Unrepeated : Json → Prop where
  | null : Unrepeated .null
  | bool (b : Bool) : Unrepeated (.bool b)
  | number (n : JsonNumber) : Unrepeated (.number n)
  | text (s : String) : Unrepeated (.text s)
  | array {items : List Json} (all : ∀ j ∈ items, Unrepeated j) : Unrepeated (.array items)
  | object {members : List (String × Json)} (distinct : (members.map Prod.fst).Nodup)
      (all : ∀ m ∈ members, Unrepeated m.2) : Unrepeated (.object members)
  | unreadable : Unrepeated .unreadable

/-- Without repetition there is one document under a name at most. -/
theorem length_under_le_one {members : List (String × Json)} (distinct : (members.map Prod.fst).Nodup) (name : String) :
    (under name members).length ≤ 1 := by
  induction members with
  | nil => exact Nat.zero_le 1
  | cons m rest ih =>
      obtain ⟨apart, distinct⟩ := List.nodup_cons.mp distinct
      rw [under_cons]
      split
      · rename_i own
        subst own
        rw [under_of_not_mem apart]
        exact Nat.le_refl 1
      · exact ih distinct

theorem record?_of_distinct {members : List (String × Json)} (distinct : (members.map Prod.fst).Nodup)
    (known : List String) : record? known (.object members) = some ⟨false, members⟩ := by
  have once : noneRepeated known members = true := noneRepeated_iff.mpr fun name _ => length_under_le_one distinct name
  rw [record?, if_pos once]

theorem mem_of_lookup {members : List (String × Json)} {name : String} {j : Json}
    (given : members.lookup name = some j) : ∃ m ∈ members, m.2 = j := by
  rw [lookup_eq] at given
  obtain ⟨m, mem, same⟩ := List.mem_map.mp (List.mem_of_head? given)
  exact ⟨m, (List.mem_filter.mp mem).1, same⟩

end Json

/-! ### Readers of schemas -/

namespace Schema

variable {α : Type} {s : Schema} {value : Decoder α} {name : String}

/-- The reader gives a value of every document that the schema accepts. -/
def Covers (s : Schema) (value : Decoder α) : Prop :=
  ∀ j, j.Unrepeated → s.accepts j = true → ∃ a, value j = some a

theorem covers_text (description : String) : Covers (.text description false) text? := by
  intro j _ accepted
  cases j with
  | text s => exact ⟨s, rfl⟩
  | _ => cases accepted

theorem covers_nullable_text (description : String) : Covers (.text description true) (nullable text?) := by
  intro j _ accepted
  cases j with
  | null => exact ⟨none, rfl⟩
  | text s => exact ⟨some s, rfl⟩
  | _ => cases accepted

theorem covers_list (description : String) (hasDefault : Bool) (covers : Covers s value) :
    Covers (.list description hasDefault s) (list? value) := by
  intro j unrepeated accepted
  cases j with
  | array l =>
      have all : ∀ i ∈ l, s.accepts i = true := List.all_eq_true.mp accepted
      cases unrepeated with
      | array each => exact exists_mapM fun i mem => covers i (each i mem) (all i mem)
  | _ => cases accepted

section Record

variable {title description : Option String} {nullable : Bool} {fields : List (String × Schema)}
  {required : List String} {members : List (String × Json)}

/-- The members of an object that repeats no name, of which those that are required are there and those that are known
are accepted. -/
structure Accepted (fields : List (String × Schema)) (required : List String) (members : List (String × Json)) :
    Prop where
  distinct : (members.map Prod.fst).Nodup
  each : ∀ m ∈ members, m.2.Unrepeated
  required : ∀ name ∈ required, (members.lookup name).isSome = true
  fields : ∀ f ∈ fields, ∀ j, members.lookup f.1 = some j → f.2.accepts j = true

theorem fieldsAccept_iff :
    fieldsAccept members fields = true ↔ ∀ f ∈ fields, ∀ j, members.lookup f.1 = some j → f.2.accepts j = true := by
  induction fields with
  | nil => simp [fieldsAccept]
  | cons f rest ih =>
      obtain ⟨name, s⟩ := f
      rw [fieldsAccept, Bool.and_eq_true, ih, List.forall_mem_cons]
      refine and_congr_left fun _ => ?_
      cases members.lookup name <;> simp

theorem accepts_object_iff :
    (record title description nullable fields required).accepts (.object members) = true ↔
      (∀ name ∈ required, (members.lookup name).isSome = true) ∧
        ∀ f ∈ fields, ∀ j, members.lookup f.1 = some j → f.2.accepts j = true := by
  rw [accepts, Bool.and_eq_true, fieldsAccept_iff, List.all_eq_true]

theorem accepted_of_accepts (unrepeated : (Json.object members).Unrepeated)
    (accepted : (record title description nullable fields required).accepts (.object members) = true) :
    Accepted fields required members := by
  obtain ⟨required, fields⟩ := accepts_object_iff.mp accepted
  cases unrepeated with
  | object distinct each => exact ⟨distinct, each, required, fields⟩

/-- A reader of records covers a schema if it can do with the members that the schema accepts. -/
theorem covers_record {known : List String} {read : Fields → Option α}
    (each : ∀ members, Accepted fields required members → ∃ a, read ⟨false, members⟩ = some a) :
    Covers (record title description false fields required) fun j => record? known j >>= read := by
  intro j unrepeated accepted
  cases j with
  | object members =>
      have accepted := accepted_of_accepts unrepeated accepted
      obtain ⟨a, reads⟩ := each members accepted
      exact ⟨a, (bind_of_some (record?_of_distinct accepted.distinct known)).trans reads⟩
  | _ => cases accepted

/-- A schema that allows null, too, is covered by a reader for which null stands for absence. -/
theorem covers_nullable (covers : Covers (record title description false fields required) value) :
    Covers (record title description true fields required) (Json.nullable value) := by
  intro j unrepeated accepted
  cases j with
  | null => exact ⟨none, rfl⟩
  | object members =>
      obtain ⟨a, reads⟩ := covers _ unrepeated accepted
      exact ⟨some a, congrArg (Option.map some) reads⟩
  | _ => cases accepted

section Accepted

variable (accepted : Accepted fields required members)
include accepted

theorem Accepted.exists_required (asked : name ∈ required) (mem : (name, s) ∈ fields) (covers : Covers s value) :
    ∃ a, (⟨false, members⟩ : Fields).required name value = some a := by
  obtain ⟨j, given⟩ := Option.isSome_iff_exists.mp (accepted.required name asked)
  obtain ⟨m, among, rfl⟩ := mem_of_lookup given
  obtain ⟨a, read⟩ := covers _ (accepted.each m among) (accepted.fields _ mem _ given)
  exact ⟨a, by rw [Fields.required, given]; exact read⟩

theorem Accepted.exists_defaulted (mem : (name, s) ∈ fields) (default : α) (covers : Covers s value) :
    ∃ a, (⟨false, members⟩ : Fields).defaulted name default value = some a := by
  unfold Fields.defaulted
  cases given : members.lookup name with
  | none => exact ⟨default, rfl⟩
  | some j =>
      obtain ⟨m, among, rfl⟩ := mem_of_lookup given
      exact covers _ (accepted.each m among) (accepted.fields _ mem _ given)

theorem Accepted.exists_maybe (mem : (name, s) ∈ fields) (covers : Covers s (Json.nullable value)) :
    ∃ a, (⟨false, members⟩ : Fields).maybe name value = some a := accepted.exists_defaulted mem none covers

end Accepted

end Record

end Schema

/-! ### The two kinds -/

open Schema ResourceDefinition

theorem NetworkInterface.covers_spec : Covers interfaceSpecSchema specFromJson? := by
  refine covers_record fun members accepted => ?_
  obtain ⟨nodeName, readName⟩ := accepted.exists_required (by simp) (.tail _ (.head _)) (covers_text _)
  obtain ⟨address, readAddress⟩ := accepted.exists_required (by simp) (.head _) (covers_text _)
  exact ⟨⟨nodeName, address⟩, (bind_of_some readName).trans ((bind_of_some readAddress).trans rfl)⟩

theorem NetworkInterface.covers_status : Covers interfaceStatusSchema (nullable statusFromJson?) := by
  refine covers_nullable (covers_record fun members accepted => ?_)
  obtain ⟨mac, readMac⟩ := accepted.exists_maybe (.tail _ (.head _)) (covers_nullable_text _)
  obtain ⟨link, readLink⟩ := accepted.exists_maybe (.head _) (covers_nullable_text _)
  exact ⟨⟨mac, link⟩, (bind_of_some readMac).trans ((bind_of_some readLink).trans rfl)⟩

theorem PrivateNetwork.covers_route : Covers routeSchema routeFromJson? := by
  refine covers_record fun members accepted => ?_
  obtain ⟨destination, readDestination⟩ := accepted.exists_required (by simp) (.head _) (covers_text _)
  obtain ⟨via, readVia⟩ := accepted.exists_required (by simp) (.tail _ (.head _)) (covers_text _)
  exact ⟨⟨destination, via⟩, (bind_of_some readDestination).trans ((bind_of_some readVia).trans rfl)⟩

theorem PrivateNetwork.covers_spec : Covers networkSpecSchema specFromJson? := by
  refine covers_record fun members accepted => ?_
  obtain ⟨id, readId⟩ := accepted.exists_maybe (.head _) (covers_nullable_text _)
  obtain ⟨routes, readRoutes⟩ := accepted.exists_defaulted (.tail _ (.head _)) [] (covers_list _ _ covers_route)
  exact ⟨⟨id, routes⟩, (bind_of_some readId).trans ((bind_of_some readRoutes).trans rfl)⟩

/-- An object that a cluster admits by a published schema, inside of `levels` arrays and objects; as it is stored, it
repeats no name. Its version and kind do not matter. -/
structure Json.Admitted (schema : Json) (levels : Nat) (j : Json) : Prop where
  isObject : ∃ members, j = .object members
  unrepeated : j.Unrepeated
  valid : schema.validates j = true
  metadata : ∃ m, j.member? "metadata" = some m ∧ ObjectMeta.WellFormed (levels + 1) m

/-- The published schema of the interfaces. -/
def interfaceSchema : Json := networkInterface.schema.toJson

/-- The published schema of the networks. -/
def networkSchema : Json := privateNetwork.schema.toJson

/-- An object that is admitted has metadata that can be read, and its other members are accepted. -/
theorem Json.Admitted.exists_members {title description : Option String} {fields : List (String × Schema)}
    {required : List String} {levels : Nat} {j : Json}
    (admitted : Admitted (record title description false fields required).toJson levels j) :
    ∃ members metadata, j = .object members ∧ Accepted fields required members ∧
      (⟨false, members⟩ : Fields).required "metadata" (ObjectMeta.fromJson? (levels + 1)) = some metadata := by
  obtain ⟨⟨members, rfl⟩, unrepeated, valid, m, given, wellFormed⟩ := admitted
  obtain ⟨metadata, read⟩ := ObjectMeta.takes (levels + 1) m wellFormed
  have found : members.lookup "metadata" = some m := given
  refine ⟨members, metadata, rfl, accepted_of_accepts unrepeated ((validates_toJson _ _).symm.trans valid), ?_⟩
  rw [Fields.required, found]
  exact read

/-- An interface that is admitted can be read. -/
theorem NetworkInterface.exists_of_admitted {levels : Nat} {j : Json} (admitted : Admitted interfaceSchema levels j) :
    ∃ nic, fromJsonWithin? levels j = some nic := by
  obtain ⟨members, metadata, rfl, accepted, readMetadata⟩ := admitted.exists_members
  obtain ⟨spec, readSpec⟩ := accepted.exists_required (by simp) (.head _) covers_spec
  obtain ⟨status, readStatus⟩ := accepted.exists_maybe (.tail _ (.head _)) covers_status
  refine ⟨⟨metadata, spec, status⟩, (bind_of_some (record?_of_distinct accepted.distinct _)).trans ?_⟩
  exact (bind_of_some readMetadata).trans ((bind_of_some readSpec).trans ((bind_of_some readStatus).trans rfl))

/-- A network that is admitted can be read. -/
theorem PrivateNetwork.exists_of_admitted {j : Json} (admitted : Admitted networkSchema 0 j) :
    ∃ network, fromJson? j = some network := by
  obtain ⟨members, metadata, rfl, accepted, readMetadata⟩ := admitted.exists_members
  obtain ⟨spec, readSpec⟩ := accepted.exists_required (by simp) (.head _) covers_spec
  refine ⟨⟨metadata, spec⟩, (bind_of_some (record?_of_distinct accepted.distinct _)).trans ?_⟩
  exact (bind_of_some readMetadata).trans ((bind_of_some readSpec).trans rfl)

/-! ### Lists and watches -/

/-- The metadata of a list. -/
def IsListMeta (j : Json) : Prop :=
  ∃ members, j = .object members ∧
    (∀ name ∈ ["continue", "resourceVersion", "selfLink"], Field members name IsText) ∧
      Field members "remainingItemCount" IsWhole

/-- A list of interfaces that a cluster admits. -/
structure AdmittedList (j : Json) : Prop where
  isObject : ∃ members, j = .object members
  distinct : (j.members.map Prod.fst).Nodup
  metadata : ∀ m, j.member? "metadata" = some m → IsListMeta m
  items : ∃ i, j.member? "items" = some i ∧ (i = .null ∨ IsList (Admitted interfaceSchema 2) i)
  others : ∀ m ∈ j.members, m.1 ≠ "metadata" → m.1 ≠ "items" → m.2.Readable ∧ m.2.depth + 1 ≤ deepest

theorem takes_listMeta : Takes IsListMeta ClusterStore.listMetaFromJson? := by
  rintro _ ⟨members, rfl, texts, count⟩
  obtain ⟨_, readContinue⟩ := (texts "continue" (by decide)).exists_lastOf takes_text
  obtain ⟨_, readCount⟩ := count.exists_lastOf takes_whole
  obtain ⟨_, readVersion⟩ := (texts "resourceVersion" (by decide)).exists_lastOf takes_text
  obtain ⟨_, readLink⟩ := (texts "selfLink" (by decide)).exists_lastOf takes_text
  refine ⟨(), ?_⟩
  unfold ClusterStore.listMetaFromJson?
  simp only [members?, Option.bind_eq_bind, Option.bind_some, readContinue, readCount, readVersion, readLink]

/-- A list that is admitted can be read. -/
theorem exists_list_of_admitted {j : Json} (admitted : AdmittedList j) :
    ∃ nics, ClusterStore.listFromJson? j = some nics := by
  obtain ⟨⟨members, rfl⟩, distinct, metadata, ⟨i, given, items⟩, others⟩ := admitted
  have readMetadata : ∃ u,
      (⟨false, members⟩ : Fields).defaulted "metadata" () ClusterStore.listMetaFromJson? = some u := by
    unfold Fields.defaulted
    cases stands : members.lookup "metadata" with
    | none => exact ⟨(), rfl⟩
    | some m => exact takes_listMeta m (metadata m stands)
  have readOthers : ∃ l, (members.filter fun m => m.1 ≠ "metadata" && m.1 ≠ "items").mapM
      (fun m => anyJson? 1 m.2) = some l := by
    refine exists_mapM fun m mem => ?_
    obtain ⟨among, apart⟩ := List.mem_filter.mp mem
    simp only [Bool.and_eq_true, decide_eq_true_eq] at apart
    obtain ⟨readable, shallow⟩ := others m among apart.1 apart.2
    obtain ⟨kept, keeps⟩ := readable.exists_kept?
    exact ⟨kept, by rw [anyJson?, if_pos shallow, keeps]⟩
  have readItems : ∃ l, (⟨false, members⟩ : Fields).required "items"
      (nullable (list? (NetworkInterface.fromJsonWithin? 2))) = some l := by
    have found : members.lookup "items" = some i := given
    rw [Fields.required, found]
    rcases items with rfl | ⟨l, rfl, all⟩
    · exact ⟨none, rfl⟩
    · obtain ⟨nics, read⟩ := exists_mapM fun i mem => NetworkInterface.exists_of_admitted (all i mem)
      exact ⟨some nics, congrArg (Option.map some) read⟩
  obtain ⟨⟨⟩, readMetadata⟩ := readMetadata
  obtain ⟨kept, readOthers⟩ := readOthers
  obtain ⟨nics, readItems⟩ := readItems
  have fields := record?_of_distinct distinct ["metadata", "items"]
  refine ⟨nics.getD [], (bind_of_some (rfl : members? (.object members) = some members)).trans ?_⟩
  refine (bind_of_some fields).trans ((bind_of_some readMetadata).trans ?_)
  exact (bind_of_some readOthers).trans ((bind_of_some readItems).trans rfl)

/-- The line of a watch that tells of a network that is admitted. -/
theorem watchLine_of_admitted {j : Json} (admitted : Admitted networkSchema 0 j) :
    ∃ network, PrivateNetwork.fromJson? j = some network ∧
      (∀ type ∈ ["ADDED", "MODIFIED"],
        WatchLine.fromJson (.object [("type", .text type), ("object", j)]) = .changed network) ∧
        WatchLine.fromJson (.object [("type", .text "DELETED"), ("object", j)]) = .removed network := by
  obtain ⟨network, read⟩ := PrivateNetwork.exists_of_admitted admitted
  have line (type : String) : record? ["type", "object"] (.object [("type", .text type), ("object", j)]) =
      some ⟨false, [("type", .text type), ("object", j)]⟩ := rfl
  refine ⟨network, read, fun type mem => ?_, ?_⟩
  · unfold WatchLine.fromJson WatchLine.fromJson?
    rcases List.mem_cons.mp mem with rfl | mem
    · simp [line, Fields.required, WatchLine.type?, List.lookup_cons, read]
    · obtain rfl := List.mem_singleton.mp mem
      simp [line, Fields.required, WatchLine.type?, List.lookup_cons, read]
  · unfold WatchLine.fromJson WatchLine.fromJson?
    simp [line, Fields.required, WatchLine.type?, List.lookup_cons, read]

/-! ### Writing -/

/-- What is written is accepted if every known field is written in an accepted form. -/
theorem accepts_written {title description : Option String} {nullable : Bool} {fields : List (String × Schema)}
    {required : List String} {given : List (String × Option Json)} (distinct : (given.map Prod.fst).Nodup)
    (there : ∀ name ∈ required, ∃ j, (name, some j) ∈ given)
    (each : ∀ f ∈ fields, ∃ written, (f.1, written) ∈ given ∧ ∀ j, written = some j → f.2.accepts j = true) :
    (record title description nullable fields required).accepts (.object (written given)) = true := by
  refine accepts_object_iff.mpr ⟨fun name mem => ?_, fun f mem j stands => ?_⟩
  · obtain ⟨j, among⟩ := there name mem
    rw [lookup_written distinct among]
    rfl
  · obtain ⟨form, among, accepted⟩ := each f mem
    rw [lookup_written distinct among] at stands
    exact accepted j stands

theorem accepts_status (s : InterfaceStatus) :
    interfaceStatusSchema.accepts (NetworkInterface.statusToJson s) = true := by
  obtain ⟨mac, link⟩ := s
  cases mac <;> cases link <;> rfl

theorem accepts_networkInterface (nic : NetworkInterface) : networkInterface.schema.accepts nic.toJson = true := by
  rw [nic.toJson_eq]
  refine accepts_written nic.distinct_given ?_ ?_
  · simp [NetworkInterface.given]
  · simp only [List.forall_mem_cons]
    refine ⟨⟨some (NetworkInterface.specToJson nic.spec), by simp [NetworkInterface.given], ?_⟩,
      ⟨nic.status.map NetworkInterface.statusToJson, by simp [NetworkInterface.given], fun j given => ?_⟩,
      List.forall_mem_nil _⟩
    · rintro j ⟨⟩
      rfl
    · obtain ⟨s, -, rfl⟩ := Option.map_eq_some_iff.mp given
      exact accepts_status s

theorem accepts_networkSpec (spec : NetworkSpec) :
    networkSpecSchema.accepts (PrivateNetwork.specToJson spec) = true := by
  refine accepts_written (by decide : ["id", "routes"].Nodup) (List.forall_mem_nil _) ?_
  simp only [List.forall_mem_cons]
  refine ⟨⟨spec.id.map .text, .head _, fun j given => ?_⟩, ⟨_, .tail _ (.head _), ?_⟩, List.forall_mem_nil _⟩
  · obtain ⟨s, -, rfl⟩ := Option.map_eq_some_iff.mp given
    rfl
  · rintro j ⟨⟩
    refine List.all_eq_true.mpr fun r mem => ?_
    obtain ⟨route, -, rfl⟩ := List.mem_map.mp mem
    rfl

theorem accepts_privateNetwork (network : PrivateNetwork) : privateNetwork.schema.accepts network.toJson = true := by
  refine accepts_written (by decide : ["apiVersion", "kind", "metadata", "spec"].Nodup) ?_ ?_
  · simp only [List.forall_mem_cons]
    exact ⟨⟨_, .tail _ (.tail _ (.tail _ (.head _)))⟩, List.forall_mem_nil _⟩
  · simp only [List.forall_mem_cons]
    refine ⟨⟨_, .tail _ (.tail _ (.tail _ (.head _))), ?_⟩, List.forall_mem_nil _⟩
    rintro j ⟨⟩
    exact accepts_networkSpec network.spec

/-- Known fields stay accepted in a merge if those of the patch are accepted where they are merged. -/
theorem accepts_mergeMembers {fields : List (String × Schema)} {members patch : List (String × Json)}
    (distinct : (patch.map Prod.fst).Nodup)
    (old : ∀ f ∈ fields, ∀ j, members.lookup f.1 = some j → f.2.accepts j = true)
    (new : ∀ f ∈ fields, ∀ j, patch.lookup f.1 = some j → j.isNull = false →
      f.2.accepts (mergePatch ((members.lookup f.1).getD .null) j) = true) :
    ∀ f ∈ fields, ∀ j, (mergeMembers members patch).lookup f.1 = some j → f.2.accepts j = true := by
  intro f mem j stands
  rw [lookup_mergeMembers distinct] at stands
  cases patched : patch.lookup f.1 with
  | none =>
      rw [patched] at stands
      exact old f mem j stands
  | some k =>
      rw [patched] at stands
      dsimp only at stands
      split at stands
      · cases stands
      · rename_i present
        cases stands
        exact new f mem k patched (Bool.eq_false_iff.mpr present)

/-- A status stays accepted when another one is merged into it. -/
theorem accepts_mergeStatus {old : Json} (accepted : interfaceStatusSchema.accepts old = true) (s : InterfaceStatus) :
    interfaceStatusSchema.accepts (mergePatch old (NetworkInterface.statusToJson s)) = true := by
  have names : ["macAddress", "linkName"].Nodup := by decide
  have distinct : (([("macAddress", s.macAddress.map Json.text), ("linkName", s.linkName.map Json.text)] :
      List (String × Option Json)).map Prod.fst).Nodup := names
  have text {d : String} {a : Option String} {old : Json} :
      ∀ j, a.map Json.text = some j → j.isNull = false → (Schema.text d true).accepts (mergePatch old j) = true := by
    rintro j given -
    obtain ⟨s, -, rfl⟩ := Option.map_eq_some_iff.mp given
    rfl
  refine accepts_object_iff.mpr ⟨List.forall_mem_nil _, accepts_mergeMembers (distinct_written distinct) ?_ ?_⟩
  · cases old with
    | object members => exact (accepts_object_iff.mp accepted).2
    | null =>
        intro f _ j stands
        cases stands
    | _ => cases accepted
  · simp only [List.forall_mem_cons]
    exact ⟨fun j stands => text j ((lookup_written distinct (.tail _ (.head _))).symm.trans stands),
      fun j stands => text j ((lookup_written distinct (.head _)).symm.trans stands), List.forall_mem_nil _⟩

/-- An interface stays accepted when its status is written. -/
theorem accepts_mergePatch {j : Json} (accepted : networkInterface.schema.accepts j = true) (nic : NetworkInterface) :
    networkInterface.schema.accepts (mergePatch j (ClusterStore.statusPatch nic)) = true := by
  cases j with
  | object members =>
      obtain ⟨required, fields⟩ := accepts_object_iff.mp accepted
      have distinct (k l : Json) : ([("metadata", k), ("status", l)].map Prod.fst).Nodup :=
        (by decide : ["metadata", "status"].Nodup)
      refine accepts_object_iff.mpr ⟨?_, accepts_mergeMembers (distinct _ _) fields ?_⟩
      · simp only [List.forall_mem_singleton] at required ⊢
        rw [lookup_mergeMembers (distinct _ _)]
        exact required
      · simp only [List.forall_mem_cons]
        refine ⟨?_, ?_, List.forall_mem_nil _⟩
        · rintro j ⟨⟩
        · rintro j ⟨⟩ present
          cases given : nic.status with
          | none =>
              rw [given] at present
              cases present
          | some s =>
              have old : interfaceStatusSchema.accepts ((members.lookup "status").getD .null) = true := by
                cases stands : members.lookup "status" with
                | none => rfl
                | some k => exact fields _ (.tail _ (.head _)) k stands
              exact accepts_mergeStatus old s
  | _ => cases accepted

/-! ### Agreement -/

/-- The published schemas agree with the readers and the writers. What is admitted by the schema of a kind can be read,
by itself, in a list, and in the lines of a watch; and what is written of an object is valid for it, as is what comes
of an object when its status is written. -/
theorem published_schemas_agree :
    ResourceDefinition.all.map (fun d => openApiSchema? d.toJson) = [some interfaceSchema, some networkSchema] ∧
      (∀ j, Admitted interfaceSchema 0 j → ∃ nic, NetworkInterface.fromJson? j = some nic) ∧
      (∀ j, Admitted networkSchema 0 j → ∃ network, PrivateNetwork.fromJson? j = some network) ∧
      (∀ j, AdmittedList j → ∃ nics, ClusterStore.listFromJson? j = some nics) ∧
      (∀ j, Admitted networkSchema 0 j → ∃ network, PrivateNetwork.fromJson? j = some network ∧
        (∀ type ∈ ["ADDED", "MODIFIED"],
          WatchLine.fromJson (.object [("type", .text type), ("object", j)]) = .changed network) ∧
          WatchLine.fromJson (.object [("type", .text "DELETED"), ("object", j)]) = .removed network) ∧
      (∀ nic : NetworkInterface, interfaceSchema.validates nic.toJson = true) ∧
      (∀ network : PrivateNetwork, networkSchema.validates network.toJson = true) ∧
      ∀ j nic, interfaceSchema.validates j = true →
        interfaceSchema.validates (mergePatch j (ClusterStore.statusPatch nic)) = true := by
  have valid (j : Json) : interfaceSchema.validates j = networkInterface.schema.accepts j := validates_toJson _ j
  refine ⟨rfl, fun _ => NetworkInterface.exists_of_admitted, fun _ => PrivateNetwork.exists_of_admitted,
    fun _ => exists_list_of_admitted, fun _ => watchLine_of_admitted, fun nic => ?_, fun network => ?_,
    fun j nic own => ?_⟩
  · rw [valid]
    exact accepts_networkInterface nic
  · exact (validates_toJson _ _).trans (accepts_privateNetwork network)
  · rw [valid] at own ⊢
    exact accepts_mergePatch own nic

/-- Metadata of an object that some writer has set something in. -/
def sampleMetadata : Json :=
  .object [("name", .text "a"), ("creationTimestamp", .null), ("labels", .object [("b", .text "c")]),
    ("managedFields", .array [.object [("fieldsV1", .object [("f:spec", .array [])])]]), ("unknown", .bool true)]

def sampleInterface : Json :=
  .object [("apiVersion", .text apiVersion), ("kind", .text interfaceKind), ("metadata", sampleMetadata),
    ("spec", .object [("nodeName", .text "node-1"), ("unknown", .null), ("address", .text "")]), ("status", .null)]

def sampleList : Json :=
  .object [("kind", .text "NetworkInterfaceList"), ("metadata", .object [("continue", .text "")]),
    ("items", .array [sampleInterface])]

def sampleNetwork : Json :=
  .object [("metadata", sampleMetadata),
    ("spec", .object [("id", .null), ("routes", .array [.object [("via", .text "v"), ("to", .text "t")]])])]

theorem wellFormed_sampleMetadata {levels : Nat} (few : levels ≤ 100) :
    ObjectMeta.WellFormed levels sampleMetadata := by
  have account : FieldManager.WellFormed (levels + 2) (.object [("fieldsV1", .object [("f:spec", .array [])])]) := by
    have readable : (Json.object [("f:spec", .array [])]).Readable :=
      .object (List.forall_mem_singleton.mpr (.array (List.forall_mem_nil _)))
    have depth : (Json.object [("f:spec", .array [])]).depth = 2 := rfl
    have shallow : 2 + (levels + 3) ≤ deepest := by
      unfold deepest
      omega
    refine ⟨_, rfl, ?_, .of_single rfl (.inr ⟨readable, depth ▸ shallow⟩), .of_absent rfl⟩
    simp only [List.forall_mem_cons]
    exact ⟨.of_absent rfl, .of_absent rfl, .of_absent rfl, .of_absent rfl, .of_absent rfl, List.forall_mem_nil _⟩
  refine ⟨⟨_, rfl⟩, ?_, ?_, ?_, ?_, .of_absent rfl, ?_, .of_absent rfl⟩
  · simp only [List.forall_mem_cons]
    exact ⟨.of_absent rfl, .of_single rfl (.inr ⟨_, rfl⟩), .of_absent rfl, .of_absent rfl, .of_absent rfl,
      .of_absent rfl, List.forall_mem_nil _⟩
  · simp only [List.forall_mem_cons]
    exact ⟨.of_absent rfl, .of_absent rfl, List.forall_mem_nil _⟩
  · simp only [List.forall_mem_cons]
    exact ⟨.of_single rfl (.inl rfl), .of_absent rfl, List.forall_mem_nil _⟩
  · simp only [List.forall_mem_cons]
    exact ⟨.of_absent rfl, .of_single rfl (.inr ⟨_, rfl, List.forall_mem_singleton.mpr ⟨_, rfl⟩⟩),
      List.forall_mem_nil _⟩
  · exact .of_single rfl (.inr ⟨_, rfl, List.forall_mem_singleton.mpr account⟩)

theorem unrepeated_sampleMetadata : sampleMetadata.Unrepeated := by
  refine .object (by decide) ?_
  simp only [List.forall_mem_cons]
  refine ⟨.text _, .null, .object (by decide) (List.forall_mem_singleton.mpr (.text _)), ?_, .bool true,
    List.forall_mem_nil _⟩
  exact .array (List.forall_mem_singleton.mpr (.object (by decide) (List.forall_mem_singleton.mpr
    (.object (by decide) (List.forall_mem_singleton.mpr (.array (List.forall_mem_nil _)))))))

theorem admitted_sampleInterface {levels : Nat} (few : levels ≤ 99) :
    Admitted interfaceSchema levels sampleInterface := by
  refine ⟨⟨_, rfl⟩, .object (by decide) ?_, ?_, _, rfl, wellFormed_sampleMetadata (by omega)⟩
  · have spec : (Json.object [("nodeName", .text "node-1"), ("unknown", .null), ("address", .text "")]).Unrepeated := by
      refine .object (by decide) ?_
      simp only [List.forall_mem_cons]
      exact ⟨.text _, .null, .text _, List.forall_mem_nil _⟩
    simp only [List.forall_mem_cons]
    exact ⟨.text _, .text _, unrepeated_sampleMetadata, spec, .null, List.forall_mem_nil _⟩
  · rw [interfaceSchema, validates_toJson]
    rfl

theorem admitted_sampleNetwork : Admitted networkSchema 0 sampleNetwork := by
  refine ⟨⟨_, rfl⟩, .object (by decide) ?_, ?_, _, rfl, wellFormed_sampleMetadata (by decide)⟩
  · have route : (Json.object [("via", .text "v"), ("to", .text "t")]).Unrepeated := by
      refine .object (by decide) ?_
      simp only [List.forall_mem_cons]
      exact ⟨.text _, .text _, List.forall_mem_nil _⟩
    simp only [List.forall_mem_cons]
    refine ⟨unrepeated_sampleMetadata, .object (by decide) ?_, List.forall_mem_nil _⟩
    simp only [List.forall_mem_cons]
    exact ⟨.null, .array (List.forall_mem_singleton.mpr route), List.forall_mem_nil _⟩
  · rw [networkSchema, validates_toJson]
    rfl

theorem admitted_sampleList : AdmittedList sampleList := by
  refine ⟨⟨_, rfl⟩, by decide, ?_, ⟨_, rfl, .inr ⟨_, rfl, ?_⟩⟩, ?_⟩
  · rintro m ⟨⟩
    refine ⟨_, rfl, ?_, .of_absent rfl⟩
    simp only [List.forall_mem_cons]
    exact ⟨.of_single rfl (.inr ⟨_, rfl⟩), .of_absent rfl, .of_absent rfl, List.forall_mem_nil _⟩
  · exact List.forall_mem_singleton.mpr (admitted_sampleInterface (by decide))
  · show ∀ m ∈ [_, _, _], _
    simp only [List.forall_mem_cons]
    exact ⟨fun _ _ => ⟨.text _, by decide⟩, fun apart => absurd rfl apart, fun _ apart => absurd rfl apart,
      List.forall_mem_nil _⟩

/-- The samples are admitted, so they are read, and an interface stays valid when a status is written to it. -/
theorem samples_are_read :
    (Admitted interfaceSchema 0 sampleInterface ∧ ∃ nic, NetworkInterface.fromJson? sampleInterface = some nic) ∧
      (Admitted networkSchema 0 sampleNetwork ∧ ∃ network, PrivateNetwork.fromJson? sampleNetwork = some network) ∧
      (AdmittedList sampleList ∧ ∃ nics, ClusterStore.listFromJson? sampleList = some nics) ∧
      (∃ network,
        WatchLine.fromJson (.object [("type", .text "ADDED"), ("object", sampleNetwork)]) = .changed network) ∧
      let linked : NetworkInterface := ⟨.blank, ⟨"node-1", ""⟩, some ⟨none, some "ens5"⟩⟩
      (mergePatch sampleInterface (ClusterStore.statusPatch linked)).member? "status" =
          some (.object [("linkName", .text "ens5")]) ∧
        interfaceSchema.validates (mergePatch sampleInterface (ClusterStore.statusPatch linked)) = true := by
  obtain ⟨-, interfaces, networks, lists, lines, -, -, patched⟩ := published_schemas_agree
  obtain ⟨network, -, changed, -⟩ := lines _ admitted_sampleNetwork
  have interface : Admitted interfaceSchema 0 sampleInterface := admitted_sampleInterface (Nat.zero_le _)
  exact ⟨⟨interface, interfaces _ interface⟩, ⟨admitted_sampleNetwork, networks _ admitted_sampleNetwork⟩,
    ⟨admitted_sampleList, lists _ admitted_sampleList⟩, ⟨network, changed "ADDED" (by decide)⟩, rfl,
    patched _ _ interface.valid⟩

end LinkKeeper
