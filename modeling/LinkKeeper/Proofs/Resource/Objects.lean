import LinkKeeper.Proofs.Resource.Metadata
import LinkKeeper.Resource.PrivateNetwork

/-!
Interfaces and networks are read back from the documents that are written for them.

* `NetworkInterface.fromJson?_object_iff`: what is read from which members.
* `NetworkInterface.fromJson?_toJson`, `PrivateNetwork.fromJson?_toJson`: reading what has been written.
* `NetworkInterface.printable_toJson`: what is written has a text.
* `NetworkInterface.statusFromJson?_mergePatch`: reading a status that has been patched.
-/

namespace LinkKeeper

open Json

namespace NetworkInterface

theorem specFromJson?_toJson (s : InterfaceSpec) : specFromJson? (specToJson s) = some s := rfl

/-- What is read of each part of a status. -/
structure ReadStatus (members : List (String × Json)) (s : InterfaceStatus) : Prop where
  macOnce : (under "macAddress" members).length ≤ 1
  linkOnce : (under "linkName" members).length ≤ 1
  mac : lastOf members "macAddress" text? = some s.macAddress
  link : lastOf members "linkName" text? = some s.linkName

theorem statusFromJson?_object_iff {members : List (String × Json)} {s : InterfaceStatus} :
    statusFromJson? (.object members) = some s ↔ ReadStatus members s := by
  unfold statusFromJson? record?
  by_cases once : noneRepeated ["macAddress", "linkName"] members = true
  · have single := noneRepeated_iff.mp once
    have macOnce := single "macAddress" (by simp)
    have linkOnce := single "linkName" (by simp)
    simp only [once, if_true, Option.bind_eq_bind, Option.bind_some, maybe_eq macOnce, maybe_eq linkOnce,
      Option.bind_eq_some_iff, Option.some.injEq]
    constructor
    · rintro ⟨mac, readMac, link, readLink, rfl⟩
      exact ⟨macOnce, linkOnce, readMac, readLink⟩
    · rintro ⟨-, -, mac, link⟩
      exact ⟨_, mac, _, link, rfl⟩
  · simp only [once, Option.bind_eq_bind]
    constructor
    · intro read
      cases read
    · rintro ⟨macOnce, linkOnce, -, -⟩
      refine absurd (noneRepeated_iff.mpr ?_) once
      simp [macOnce, linkOnce]

/-- What is read of each part of an interface. -/
structure Read (levels : Nat) (members : List (String × Json)) (nic : NetworkInterface) : Prop where
  metadata : ∃ j, under "metadata" members = [j] ∧ ObjectMeta.fromJson? (levels + 1) j = some nic.metadata
  spec : ∃ j, under "spec" members = [j] ∧ specFromJson? j = some nic.spec
  statusOnce : (under "status" members).length ≤ 1
  status : lastOf members "status" statusFromJson? = some nic.status

theorem Read.sound {members : List (String × Json)} {nic : NetworkInterface} (read : Read 0 members nic) :
    nic.metadata.Sound 1 := by
  obtain ⟨j, -, readMetadata⟩ := read.metadata
  obtain ⟨fields, -, readFields⟩ := ObjectMeta.exists_of_fromJson? readMetadata
  exact readFields.sound

theorem fromJson?_object_iff {levels : Nat} {members : List (String × Json)} {nic : NetworkInterface} :
    fromJsonWithin? levels (.object members) = some nic ↔ Read levels members nic := by
  unfold fromJsonWithin? record?
  by_cases once : noneRepeated ["metadata", "spec", "status"] members = true
  · have single := noneRepeated_iff.mp once
    have statusOnce := single "status" (by simp)
    have optional : (⟨false, members⟩ : Fields).optional "status" statusFromJson? =
        lastOf members "status" statusFromJson? := maybe_eq statusOnce _
    simp only [once, if_true, Option.bind_eq_bind, Option.bind_some, optional, Option.bind_eq_some_iff,
      Option.some.injEq, required_eq (single "metadata" (by simp)), required_eq (single "spec" (by simp))]
    constructor
    · rintro ⟨metadata, readMetadata, spec, readSpec, status, readStatus, rfl⟩
      exact ⟨readMetadata, readSpec, statusOnce, readStatus⟩
    · rintro ⟨metadata, spec, -, status⟩
      exact ⟨_, metadata, _, spec, _, status, rfl⟩
  · simp only [once, Option.bind_eq_bind]
    constructor
    · intro read
      cases read
    · rintro ⟨⟨_, metadata, -⟩, ⟨_, spec, -⟩, statusOnce, -⟩
      refine absurd (noneRepeated_iff.mpr ?_) once
      simp [metadata, spec, statusOnce]

/-- The fields that are written. -/
def given (nic : NetworkInterface) : List (String × Option Json) :=
  [("apiVersion", some (.text apiVersion)),
    ("kind", some (.text interfaceKind)),
    ("metadata", some nic.metadata.toJson),
    ("spec", some (specToJson nic.spec)),
    ("status", nic.status.map statusToJson)]

theorem toJson_eq (nic : NetworkInterface) : nic.toJson = .object (written nic.given) := rfl

theorem distinct_given (nic : NetworkInterface) : (nic.given.map Prod.fst).Nodup :=
  (by decide : ["apiVersion", "kind", "metadata", "spec", "status"].Nodup)

theorem under_metadata_written (nic : NetworkInterface) :
    under "metadata" (written nic.given) = [nic.metadata.toJson] :=
  under_written nic.distinct_given (j := some nic.metadata.toJson) (by simp [given])

theorem under_spec_written (nic : NetworkInterface) : under "spec" (written nic.given) = [specToJson nic.spec] :=
  under_written nic.distinct_given (j := some (specToJson nic.spec)) (by simp [given])

theorem statusFromJson?_toJson (s : InterfaceStatus) : statusFromJson? (statusToJson s) = some s := by
  obtain ⟨mac, link⟩ := s
  cases mac <;> cases link <;> rfl

/-- Whatever is read of the metadata, all else is read back. -/
theorem fromJson?_toJson_of {nic : NetworkInterface} {kept : ObjectMeta}
    (metadata : ObjectMeta.fromJson? 1 nic.metadata.toJson = some kept) :
    fromJson? nic.toJson = some { nic with metadata := kept } := by
  rw [toJson_eq]
  refine fromJson?_object_iff.mpr ⟨⟨_, nic.under_metadata_written, metadata⟩, ⟨_, nic.under_spec_written, rfl⟩, ?_, ?_⟩
  · rw [under_written nic.distinct_given (j := nic.status.map statusToJson) (by simp [given])]
    cases nic.status <;> simp
  · have status (s : InterfaceStatus) : nullable statusFromJson? (statusToJson s) = some (some s) :=
      congrArg (Option.map some) (statusFromJson?_toJson s)
    exact lastOf_written nic.distinct_given (by simp [given]) fun s _ => status s

/-- An interface is read back from the document that is written for it. -/
theorem fromJson?_toJson {nic : NetworkInterface} (sound : nic.metadata.Sound 1) (stable : nic.metadata.Stable) :
    fromJson? nic.toJson = some nic :=
  fromJson?_toJson_of (ObjectMeta.fromJson?_object_iff.mpr (ObjectMeta.read_written sound stable))

theorem printable_statusToJson (s : InterfaceStatus) : (statusToJson s).Printable := by
  refine printable_ofFields ?_
  simp only [List.forall_mem_cons]
  exact ⟨printable_map fun s _ => .text s, printable_map fun s _ => .text s, by simp⟩

theorem printable_toJson {nic : NetworkInterface} (sound : nic.metadata.Sound 1) : nic.toJson.Printable := by
  refine printable_ofFields ?_
  simp only [List.forall_mem_cons]
  refine ⟨printable_some (.text _), printable_some (.text _), printable_some (ObjectMeta.printable_toJson sound),
    printable_some ?_, printable_map fun s _ => ?_, by simp⟩
  · refine printable_ofFields ?_
    simp only [List.forall_mem_cons]
    exact ⟨printable_some (.text _), printable_some (.text _), by simp⟩
  · exact printable_statusToJson s

/-! ### Patching a status -/

/-- The members of a status that has no hardware address. -/
theorem mac_of_members {t : Json} {old : Option InterfaceStatus} (read : nullable statusFromJson? t = some old)
    (absent : old.bind InterfaceStatus.macAddress = none) :
    (under "macAddress" t.members).length ≤ 1 ∧ lastOf t.members "macAddress" text? = some none := by
  cases t with
  | object members =>
      obtain ⟨s, readStatus, rfl⟩ := Option.map_eq_some_iff.mp read
      obtain ⟨once, -, mac, -⟩ := statusFromJson?_object_iff.mp readStatus
      exact ⟨once, mac.trans (congrArg some absent)⟩
  | _ => exact ⟨Nat.zero_le 1, rfl⟩

/-- The status after a patch that names its link: a hardware address that the patch leaves out stays as it is. -/
theorem statusFromJson?_mergePatch {t : Json} {old : Option InterfaceStatus}
    (read : nullable statusFromJson? t = some old) (link : String) :
    statusFromJson? (mergePatch t (statusToJson ⟨old.bind InterfaceStatus.macAddress, some link⟩)) =
      some ⟨old.bind InterfaceStatus.macAddress, some link⟩ := by
  refine statusFromJson?_object_iff.mpr ?_
  cases known : old.bind InterfaceStatus.macAddress with
  | none =>
      obtain ⟨once, absent⟩ := mac_of_members read known
      have distinct : (([("linkName", Json.text link)] : List (String × Json)).map Prod.fst).Nodup :=
        (by decide : ["linkName"].Nodup)
      have mac : under "macAddress" (mergeMembers t.members [("linkName", .text link)]) =
          under "macAddress" t.members := under_mergeMembers distinct _ _
      have name : under "linkName" (mergeMembers t.members [("linkName", .text link)]) = [.text link] :=
        under_mergeMembers distinct _ _
      exact ⟨Nat.le_trans (Nat.le_of_eq (congrArg List.length mac)) once, Nat.le_of_eq (congrArg List.length name),
        (lastOf_congr mac).trans absent, lastOf_of_single name⟩
  | some address =>
      have distinct : (([("macAddress", Json.text address), ("linkName", .text link)] :
          List (String × Json)).map Prod.fst).Nodup := (by decide : ["macAddress", "linkName"].Nodup)
      have mac : under "macAddress" (mergeMembers t.members [("macAddress", .text address), ("linkName", .text link)]) =
          [.text address] := under_mergeMembers distinct _ _
      have name : under "linkName" (mergeMembers t.members [("macAddress", .text address), ("linkName", .text link)]) =
          [.text link] := under_mergeMembers distinct _ _
      exact ⟨Nat.le_of_eq (congrArg List.length mac), Nat.le_of_eq (congrArg List.length name), lastOf_of_single mac,
        lastOf_of_single name⟩

end NetworkInterface

/-! ### Networks -/

namespace PrivateNetwork

variable {network : PrivateNetwork}

theorem specFromJson?_toJson (s : NetworkSpec) : specFromJson? (specToJson s) = some s := by
  obtain ⟨id, routes⟩ := s
  have read : list? routeFromJson? (.array (routes.map routeToJson)) = some routes := list?_forms fun _ _ => rfl
  cases id with
  | none =>
      show (list? routeFromJson? (.array (routes.map routeToJson))).bind _ = _
      rw [read]
      rfl
  | some id =>
      show (list? routeFromJson? (.array (routes.map routeToJson))).bind _ = _
      rw [read]
      rfl

/-- Whatever is read of the metadata, all else is read back. -/
theorem fromJson?_toJson_of {kept : ObjectMeta}
    (metadata : ObjectMeta.fromJson? 1 network.metadata.toJson = some kept) :
    fromJson? network.toJson = some { network with metadata := kept } := by
  show (ObjectMeta.fromJson? 1 network.metadata.toJson).bind (fun metadata =>
    (specFromJson? (specToJson network.spec)).bind fun spec => some (⟨metadata, spec⟩ : PrivateNetwork)) = _
  rw [metadata, specFromJson?_toJson]
  rfl

/-- A network is read back from the document that is written for it. -/
theorem fromJson?_toJson (sound : network.metadata.Sound 1) (stable : network.metadata.Stable) :
    fromJson? network.toJson = some network :=
  fromJson?_toJson_of (ObjectMeta.fromJson?_object_iff.mpr (ObjectMeta.read_written sound stable))

theorem printable_toJson (sound : network.metadata.Sound 1) : network.toJson.Printable := by
  refine printable_ofFields ?_
  simp only [List.forall_mem_cons]
  refine ⟨printable_some (.text _), printable_some (.text _), printable_some (ObjectMeta.printable_toJson sound),
    printable_some ?_, by simp⟩
  refine printable_ofFields ?_
  simp only [List.forall_mem_cons]
  refine ⟨printable_map fun s _ => .text s, printable_some (printable_forms fun r _ => ?_), by simp⟩
  refine printable_ofFields ?_
  simp only [List.forall_mem_cons]
  exact ⟨printable_some (.text _), printable_some (.text _), by simp⟩

end PrivateNetwork

end LinkKeeper
