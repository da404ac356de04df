import LinkKeeper.Proofs.Resource.Objects
import LinkKeeper.Store.Cluster
import Mathlib.Data.List.TakeDrop

/-!
What the store behind the API asks of the cluster.

Every operation on an object with a valid name is one request for the path of the object, and what the operation gives
is read from the reply to it.

* `ValidName`: the names that objects may have.
* `ClusterStore.interfacePath`, `ClusterStore.networkPath`: where objects are found; no two share a path.
* `ClusterStore.getInterface_eq`, `ClusterStore.getNetwork_eq`: the reads.
* `ClusterStore.update_eq`, `ClusterStore.updateStatus_eq`: the writes.
-/

namespace LinkKeeper

open Json

/-- Whether a character may stand in the name of an object: small letters, digits, dashes and points. -/
def isNameChar (c : Char) : Bool :=
  ('a' ≤ c && c ≤ 'z') || ('0' ≤ c && c ≤ '9') || c = '-' || c = '.'

/-- A name that an object may have. A point or a dash at either end is ruled out as well, which does not matter here. -/
structure ValidName (name : String) : Prop where
  nonempty : name ≠ ""
  short : name.length ≤ 253
  chars : name.toList.all isNameChar = true

namespace ApiRequest

/-- Reads the object at a path. -/
def read (path : String) : ApiRequest := ⟨.get, ⟨path, []⟩, none, none⟩

/-- Puts a document in the place of the object at a path. -/
def replace (path : String) (body : Json) : ApiRequest := ⟨.put, ⟨path, []⟩, some "application/json", some body⟩

/-- Merges a patch into the status of the object at a path. -/
def patchStatus (path : String) (patch : Json) : ApiRequest :=
  ⟨.patch, ⟨path ++ "/status", []⟩, some "application/merge-patch+json", some patch⟩

end ApiRequest

/-! ### Paths -/

namespace Http.Target

theorem utf8ByteSize_ofList_le (cs : List Char) : (String.ofList cs).utf8ByteSize ≤ 4 * cs.length := by
  induction cs with
  | nil => exact Nat.le_refl 0
  | cons c cs ih =>
      have first := c.utf8Size_le_four
      rw [String.ofList_cons, String.utf8ByteSize_append, String.utf8ByteSize_singleton, List.length_cons]
      omega

/-- Whether a character stands for itself in a path. -/
def isPlain (c : Char) : Bool := isPathChar c && c ≠ '#' && c ≠ '?'

theorem isPlain_iff {c : Char} : isPlain c = true ↔ isPathChar c = true ∧ c ≠ '#' ∧ c ≠ '?' := by
  simp [isPlain, and_assoc]

/-- A target of plain characters is a path, with an empty query if a question mark is after it. -/
theorem read?_plain {plain tail : List Char} (all : plain.all isPlain = true)
    (short : 4 * (plain ++ tail).length ≤ longest) (mark : tail = [] ∨ tail = ['?']) :
    read? (plain ++ tail) = some ⟨String.ofList plain, []⟩ := by
  have chars (c : Char) (mem : c ∈ plain) := isPlain_iff.mp (List.all_eq_true.mp all c mem)
  have fits := Nat.le_trans (utf8ByteSize_ofList_le (plain ++ tail)) short
  have whole : (plain ++ tail).takeWhile (· ≠ '#') = plain ++ tail := by
    rw [List.takeWhile_append_of_pos fun c mem => decide_eq_true (chars c mem).2.1]
    rcases mark with rfl | rfl <;> rfl
  have path : (plain ++ tail).takeWhile (· ≠ '?') = plain := by
    rw [List.takeWhile_append_of_pos fun c mem => decide_eq_true (chars c mem).2.2]
    rcases mark with rfl | rfl <;> simp
  have rest : (plain ++ tail).dropWhile (· ≠ '?') = tail := by
    rw [List.dropWhile_append_of_pos fun c mem => decide_eq_true (chars c mem).2.2]
    rcases mark with rfl | rfl <;> rfl
  have allowed : plain.all isPathChar = true := List.all_eq_true.mpr fun c mem => (chars c mem).1
  have empty : tail.drop 1 = [] := by
    rcases mark with rfl | rfl <;> rfl
  unfold read?
  rw [whole, List.span_eq_takeWhile_dropWhile, path, rest]
  dsimp only
  rw [empty, allowed, decide_eq_true fits]
  rfl

end Http.Target

namespace ClusterStore

/-- Where an object of a collection is found. -/
def objectPath (collection name : String) : String := collection ++ "/" ++ name

/-- Where an interface is found. -/
def interfacePath (name : String) : String := objectPath interfacesPath name

/-- Where a network is found. -/
def networkPath (name : String) : String := objectPath networksPath name

theorem isPlain_of_isNameChar {c : Char} (plain : isNameChar c = true) : Http.Target.isPlain c = true := by
  have range : (97 ≤ c.toNat ∧ c.toNat ≤ 122) ∨ (48 ≤ c.toNat ∧ c.toNat ≤ 57) ∨ c = '-' ∨ c = '.' := by
    simp only [isNameChar, Bool.or_eq_true, Bool.and_eq_true, decide_eq_true_eq, or_assoc] at plain
    exact plain
  have other (d : Char)
      (outside : ¬ ((97 ≤ d.toNat ∧ d.toNat ≤ 122) ∨ (48 ≤ d.toNat ∧ d.toNat ≤ 57) ∨ d = '-' ∨ d = '.')) : c ≠ d := by
    rintro rfl
    exact outside range
  have shown : 0x20 < c.toNat := by
    rcases range with range | range | rfl | rfl
    · omega
    · omega
    · decide
    · decide
  have taken : "<>\x60\x7f".toList.contains c = false := by
    have apart : c ∉ ['<', '>', '\x60', '\x7f'] := by
      simp [other '<' (by decide), other '>' (by decide), other '\x60' (by decide), other '\x7f' (by decide)]
    simpa using apart
  refine Http.Target.isPlain_iff.mpr ⟨?_, other '#' (by decide), other '?' (by decide)⟩
  unfold Http.Target.isPathChar
  rw [taken, decide_eq_true shown]
  rfl

/-- The target of a part of an object with a valid name. -/
theorem objectTarget?_eq {collection name mark : String} (suffix : String) (valid : ValidName name)
    (plain : (collection.toList ++ '/' :: suffix.toList).all Http.Target.isPlain = true)
    (short : collection.length + suffix.length ≤ 1000) (ends : mark = "" ∨ mark = "?") :
    objectTarget? collection name (suffix ++ mark) = some ⟨objectPath collection name ++ suffix, []⟩ := by
  have written : (collection ++ "/" ++ name ++ (suffix ++ mark)).toList =
      (objectPath collection name ++ suffix).toList ++ mark.toList := by
    simp [objectPath]
  have tail : mark.toList = [] ∨ mark.toList = ['?'] := by
    rcases ends with rfl | rfl
    · exact .inl rfl
    · exact .inr rfl
  have chars : (objectPath collection name ++ suffix).toList.all Http.Target.isPlain = true := by
    refine List.all_eq_true.mpr fun c mem => ?_
    by_cases own : c ∈ name.toList
    · exact isPlain_of_isNameChar (List.all_eq_true.mp valid.chars c own)
    · refine List.all_eq_true.mp plain c ?_
      simpa [objectPath, own, or_assoc] using mem
  unfold objectTarget?
  rw [if_neg valid.nonempty, written, Http.Target.read?_plain chars ?_ tail, String.ofList_toList]
  have few : mark.toList.length ≤ 1 := by
    rcases tail with none | one
    · simp [none]
    · simp [one]
  have most := valid.short
  rw [List.length_append, String.length_toList]
  simp only [objectPath, String.length_append, Http.Target.longest]
  have slash : "/".length = 1 := rfl
  omega

theorem objectTarget?_interface {name mark : String} (valid : ValidName name) (ends : mark = "" ∨ mark = "?") :
    objectTarget? interfacesPath name mark = some ⟨interfacePath name, []⟩ := by
  have plain : (interfacesPath.toList ++ '/' :: "".toList).all Http.Target.isPlain = true := by decide
  have target := objectTarget?_eq "" valid plain (by decide) ends
  rwa [String.empty_append, String.append_empty] at target

theorem objectTarget?_status {name : String} (valid : ValidName name) :
    objectTarget? interfacesPath name "/status?" = some ⟨interfacePath name ++ "/status", []⟩ := by
  have plain : (interfacesPath.toList ++ '/' :: "/status".toList).all Http.Target.isPlain = true := by decide
  have part : "/status" ++ "?" = "/status?" := by decide
  have target := objectTarget?_eq "/status" valid plain (by decide) (.inr rfl)
  rwa [part] at target

theorem objectTarget?_network {name : String} (valid : ValidName name) :
    objectTarget? networksPath name "" = some ⟨networkPath name, []⟩ := by
  have plain : (networksPath.toList ++ '/' :: "".toList).all Http.Target.isPlain = true := by decide
  have target := objectTarget?_eq "" valid plain (by decide) (.inl rfl)
  rwa [String.empty_append, String.append_empty] at target

theorem interfacePath_inj {name other : String} : interfacePath name = interfacePath other ↔ name = other := by
  simp [interfacePath, objectPath, String.append_assoc, String.append_right_inj]

theorem networkPath_inj {name other : String} : networkPath name = networkPath other ↔ name = other := by
  simp [networkPath, objectPath, String.append_assoc, String.append_right_inj]

/-- Interfaces and networks are found in different places, and so are the statuses of interfaces. -/
theorem networkPath_ne (name other suffix : String) : networkPath name ≠ interfacePath other ++ suffix := by
  intro same
  have chars := congrArg String.toList same
  simp only [networkPath, interfacePath, objectPath, networksPath, interfacesPath, String.append_assoc,
    String.toList_append, List.append_cancel_left_eq] at chars
  exact absurd (List.cons.inj chars).1 (by decide)

/-! ### Operations -/

section Operations

variable {α : Type} {name : String} {nic : NetworkInterface}

/-- What a read gives for a reply. -/
def fetched (kind name : String) : Reply α → Except StoreError (Option α)
  | .value a => .ok (some a)
  | .refused r => if r.reason = "NotFound" then .ok none else .error (r.error kind name)
  | .fault f => .error (.api f)

/-- What a write gives for a reply. -/
def written (name : String) : Reply NetworkInterface → Except StoreError NetworkInterface
  | .value nic => .ok nic
  | .refused r => .error (r.error interfaceKind name)
  | .fault f => .error (.api f)

theorem getInterface_eq (valid : ValidName name) :
    getInterface name = .ask (.read (interfacePath name)) fun reply =>
      .done (fetched interfaceKind name (read NetworkInterface.fromJson? reply)) := by
  unfold getInterface get
  rw [objectTarget?_interface valid (.inl rfl)]
  refine congrArg (Program.ask _) (funext fun reply => ?_)
  show Program.bind (.done _) _ = _
  cases read NetworkInterface.fromJson? reply <;> rfl

theorem getNetwork_eq (valid : ValidName name) :
    getNetwork name = .ask (.read (networkPath name)) fun reply =>
      .done (fetched networkKind name (read PrivateNetwork.fromJson? reply)) := by
  unfold getNetwork get
  rw [objectTarget?_network valid]
  refine congrArg (Program.ask _) (funext fun reply => ?_)
  show Program.bind (.done _) _ = _
  cases read PrivateNetwork.fromJson? reply <;> rfl

theorem update_eq (named : nic.metadata.name = some name) (valid : ValidName name) :
    update nic = .ask (.replace (interfacePath name) nic.toJson) fun reply =>
      .done (written name (read NetworkInterface.fromJson? reply)) := by
  unfold update write
  rw [named]
  dsimp only
  rw [objectTarget?_interface valid (.inr rfl)]
  refine congrArg (Program.ask _) (funext fun reply => ?_)
  show Program.bind (.done _) _ = _
  cases read NetworkInterface.fromJson? reply <;> rfl

theorem updateStatus_eq (named : nic.metadata.name = some name) (valid : ValidName name) :
    updateStatus nic = .ask (.patchStatus (interfacePath name) (statusPatch nic)) fun reply =>
      .done (written name (read NetworkInterface.fromJson? reply)) := by
  unfold updateStatus write
  rw [named]
  dsimp only
  rw [objectTarget?_status valid]
  refine congrArg (Program.ask _) (funext fun reply => ?_)
  show Program.bind (.done _) _ = _
  cases read NetworkInterface.fromJson? reply <;> rfl

end Operations

end ClusterStore

end LinkKeeper
