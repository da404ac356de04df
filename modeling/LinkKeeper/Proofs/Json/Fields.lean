import LinkKeeper.Proofs.Json.Kept
import LinkKeeper.Proofs.Json.Members

/-!
Fields of objects: what is written of them, and what they are read from.

* `Json.list?_forms`, `Json.textTable?_ofTextTable`, `Json.int64?_ofInt`, `Json.nat?_ofNat`: what is written of a
  field is read back.
* `Json.exists_of_lastOf`: a field that has been read was there, and was not null.
* `Json.maybe_eq`, `Json.required_eq`: fields of records, as long as none is repeated.
* `Json.printable_ofFields`: an object has a text if what is written of its fields has.
-/

namespace LinkKeeper.Json

variable {α : Type}

/-! ### Reading what has been written -/

theorem int64?_ofInt {i : Int} (low : -0x8000000000000000 ≤ i) (high : i ≤ 0x7FFFFFFFFFFFFFFF) :
    int64? (.number (.ofInt i)) = some i := by
  simp [int64?, int?, JsonNumber.toInt?_ofInt, low, high]

theorem nat?_ofNat {bound n : Nat} (small : n ≤ bound) : nat? bound (.ofNat n) = some n := by
  simp [nat?, int?, Json.ofNat, JsonNumber.toInt?_ofInt, Option.filter, small]

theorem textTable?_ofTextTable (t : Table String String) : textTable? (ofTextTable t) = some t := by
  have collected (l : List (String × String)) (u : Table String String) :
      (l.map fun e => (e.1, Json.text e.2)).foldl (fun t m => do some ((← t).insert m.1 (← text? m.2))) (some u) =
        some (l.foldl (fun t e => t.insert e.1 e.2) u) := by
    induction l generalizing u with
    | nil => rfl
    | cons e rest ih => exact ih _
  exact (collected t.toList ∅).trans (congrArg some t.ofList_toList)

/-- A list is read back if its items are. -/
theorem list?_forms {form : α → Json} {item : Decoder α} {l : List α} (reads : ∀ x ∈ l, item (form x) = some x) :
    list? item (.array (l.map form)) = some l := by
  show (l.map form).mapM item = some l
  induction l with
  | nil => rfl
  | cons x rest ih =>
      have first := reads x (by simp)
      have later := ih fun y mem => reads y (List.mem_cons_of_mem _ mem)
      simp [first, later]

/-! ### Reading from any document -/

theorem exists_of_mem_mapM {f : Json → Option α} {js : List Json} {as : List α} (read : js.mapM f = some as) {a : α}
    (mem : a ∈ as) : ∃ j ∈ js, f j = some a := by
  induction js generalizing as with
  | nil =>
      cases read
      cases mem
  | cons j js ih =>
      simp only [List.mapM_cons, Option.bind_eq_bind, Option.bind_eq_some_iff] at read
      obtain ⟨b, first, bs, later, same⟩ := read
      cases same
      rcases List.mem_cons.mp mem with rfl | mem
      · exact ⟨j, by simp, first⟩
      · obtain ⟨k, among, read⟩ := ih later mem
        exact ⟨k, List.mem_cons_of_mem _ among, read⟩

theorem eq_none_or_of_nullable {value : Decoder α} {j : Json} {a : α} (read : nullable value j = some (some a)) :
    j ≠ .null ∧ value j = some a := by
  cases j with
  | null => cases read
  | _ =>
      obtain ⟨b, read, same⟩ := Option.map_eq_some_iff.mp read
      cases same
      exact ⟨nofun, read⟩

/-- What is read of a field comes from a document that is not null. -/
theorem exists_of_lastOf {members : List (String × Json)} {name : String} {value : Decoder α} {a : α}
    (read : lastOf members name value = some (some a)) : ∃ j, j ≠ .null ∧ value j = some a := by
  rw [lastOf_eq] at read
  obtain ⟨occurrences, all, last⟩ := Option.map_eq_some_iff.mp read
  obtain ⟨j, -, read⟩ := exists_of_mem_mapM all (List.mem_of_getLast? (Option.join_eq_some_iff.mp last))
  exact ⟨j, eq_none_or_of_nullable read⟩

/-! ### Records -/

section Records

variable {members : List (String × Json)} {name : String} (single : (under name members).length ≤ 1)
include single

/-- A field that may be absent is read as one of a metadata object. -/
theorem maybe_eq (value : Decoder α) :
    (⟨false, members⟩ : Fields).maybe name value = lastOf members name value := by
  unfold Fields.maybe Fields.defaulted
  rw [lookup_eq]
  cases stands : under name members with
  | nil => exact (lastOf_of_none stands).symm
  | cons j rest =>
      cases rest with
      | nil => exact (lastOf_of_single stands).symm
      | cons k rest => simp [stands] at single

theorem required_eq (value : Decoder α) (a : α) :
    (⟨false, members⟩ : Fields).required name value = some a ↔ ∃ j, under name members = [j] ∧ value j = some a := by
  unfold Fields.required
  rw [lookup_eq]
  cases stands : under name members with
  | nil => simp
  | cons j rest =>
      cases rest with
      | nil => simp
      | cons k rest => simp [stands] at single

end Records

/-! ### Written documents have a text -/

theorem printable_map {a : Option α} {form : α → Json} (each : ∀ x, a = some x → (form x).Printable) :
    ∀ j, a.map form = some j → j.Printable := by
  rintro j held
  obtain ⟨x, given, rfl⟩ := Option.map_eq_some_iff.mp held
  exact each x given

theorem printable_some {j : Json} (printable : j.Printable) : ∀ k, some j = some k → k.Printable := by
  rintro k held
  exact Option.some.inj held ▸ printable

theorem printable_ofFields {fields : List (String × Option Json)}
    (all : ∀ f ∈ fields, ∀ j, f.2 = some j → j.Printable) : (ofFields fields).Printable := by
  refine .object fun m mem => ?_
  obtain ⟨f, field, held⟩ := List.mem_filterMap.mp mem
  obtain ⟨j, given, rfl⟩ := Option.map_eq_some_iff.mp held
  exact all f field j given

theorem printable_forms {form : α → Json} {l : List α} (each : ∀ x ∈ l, (form x).Printable) :
    (Json.array (l.map form)).Printable := by
  refine .array fun j mem => ?_
  obtain ⟨x, given, rfl⟩ := List.mem_map.mp mem
  exact each x given

theorem printable_ofTextTable (t : Table String String) : (ofTextTable t).Printable := by
  refine .object fun m mem => ?_
  obtain ⟨e, -, rfl⟩ := List.mem_map.mp mem
  exact .text e.2

theorem printable_under {members : List (String × Json)} (all : ∀ m ∈ members, m.2.Printable) (name : String) :
    ∀ j ∈ under name members, j.Printable := by
  intro j mem
  obtain ⟨m, among, rfl⟩ := List.mem_map.mp mem
  exact all m ((List.mem_filter.mp among).1)

theorem printable_exchange {members : List (String × Json)} {js : List Json} (name : String)
    (all : ∀ m ∈ members, m.2.Printable) (others : ∀ j ∈ js, j.Printable) :
    ∀ m ∈ exchange name js members, m.2.Printable := by
  intro m mem
  rcases List.mem_append.mp mem with mem | mem
  · exact all m ((List.mem_filter.mp mem).1)
  · obtain ⟨j, among, rfl⟩ := List.mem_map.mp mem
    exact others j among

theorem printable_members {j : Json} (printable : j.Printable) : ∀ m ∈ j.members, m.2.Printable := by
  cases printable with
  | object all => exact all
  | _ => exact nofun

mutual

/-- What has a text has one when it is patched with what has a text. -/
theorem printable_mergePatch {target : Json} (printable : target.Printable) :
    (patch : Json) → patch.Printable → (mergePatch target patch).Printable
  | .object patch, .object all => .object (printable_mergeMembers patch (printable_members printable) all)
  | .null, _ => .null
  | .bool b, _ => .bool b
  | .number _, own => own
  | .text s, _ => .text s
  | .array _, own => own

theorem printable_mergeMembers : (patch : List (String × Json)) → ∀ {target : List (String × Json)},
    (∀ m ∈ target, m.2.Printable) → (∀ m ∈ patch, m.2.Printable) → ∀ m ∈ mergeMembers target patch, m.2.Printable
  | [], _, all, _ => all
  | (name, j) :: rest, target, all, patches => by
      obtain ⟨first, later⟩ := List.forall_mem_cons.mp patches
      have old : ((target.lookup name).getD .null).Printable := by
        rw [lookup_eq]
        cases stands : under name target with
        | nil => exact .null
        | cons i others => exact printable_under all name i (by simp [stands])
      have merged := printable_mergePatch old j first
      refine printable_mergeMembers rest (printable_exchange name all ?_) later
      split
      · exact nofun
      · simpa using merged

end

theorem printable_ofInt (i : Int) : (Json.number (.ofInt i)).Printable := .number (JsonNumber.printable_ofInt i)

end LinkKeeper.Json
