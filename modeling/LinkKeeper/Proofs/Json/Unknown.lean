import LinkKeeper.Proofs.Json.Members

/-!
Members that a reader does not know.

What a reader knows is told by a shape: the fields of each object that it looks into. A document is pruned to a shape by
taking all other members away; a reader overlooks them if it reads the same from both.

* `Json.Shape.pruned`: the document without the members that are not known.
* `Json.Overlooks`: a reader reads the same from the pruned document.
* `Json.overlooks_list`, `Json.Overlooks.lastOf`, `Json.record?_pruned`: readers are put together from others.
-/

namespace LinkKeeper.Json

/-- What a reader knows of a document. -/
inductive Shape where
  /-- It takes the document as it is. -/
  | any
  | list (items : Shape)
  /-- It looks at these fields, which may be given by position, too. -/
  | record (fields : List (String × Shape))

namespace Shape

mutual

/-- The document without the members that are not known. -/
def pruned : Shape → Json → Json
  | any, j => j
  | list items, j =>
    match j with
    | .array l => .array (l.map fun i => items.pruned i)
    | j => j
  | record fields, j =>
    match j with
    | .object members => .object (members.filterMap fun m => prunedMember? fields m)
    | .array items => .array (prunedItems fields items)
    | j => j

def prunedMember? : List (String × Shape) → String × Json → Option (String × Json)
  | [], _ => none
  | (name, s) :: rest, m => if m.1 = name then some (name, s.pruned m.2) else prunedMember? rest m

def prunedItems : List (String × Shape) → List Json → List Json
  | (_, s) :: rest, i :: items => s.pruned i :: prunedItems rest items
  | _, items => items

end

variable {s : Shape} {fields : List (String × Shape)} {name : String} {members : List (String × Json)}

theorem prunedMember?_eq (fields : List (String × Shape)) (m : String × Json) :
    prunedMember? fields m = (fields.lookup m.1).map fun s => (m.1, s.pruned m.2) := by
  induction fields with
  | nil => rfl
  | cons f rest ih =>
      obtain ⟨name, s⟩ := f
      rw [prunedMember?, List.lookup_cons]
      by_cases own : m.1 = name
      · simp [own]
      · have other : (m.1 == name) = false := beq_false_of_ne own
        rw [if_neg own, other, ih]

/-- Null stays, and nothing else becomes null. -/
theorem pruned_eq_null_iff (s : Shape) (j : Json) : s.pruned j = .null ↔ j = .null := by
  cases s <;> cases j <;> simp [pruned]

/-- Under a known name stands the same as before, but pruned. -/
theorem under_pruned (known : fields.lookup name = some s) (members : List (String × Json)) :
    under name (members.filterMap fun m => prunedMember? fields m) = (under name members).map s.pruned := by
  induction members with
  | nil => rfl
  | cons m rest ih =>
      rw [List.filterMap_cons, prunedMember?_eq, under_cons]
      by_cases own : m.1 = name
      · rw [own, known, if_pos rfl, List.map_cons, ← ih]
        exact (under_cons _ _ _).trans (if_pos rfl)
      · rw [if_neg own, ← ih]
        cases fields.lookup m.1 with
        | none => rfl
        | some t => exact (under_cons _ _ _).trans (if_neg own)

theorem length_prunedItems (fields : List (String × Shape)) (items : List Json) :
    (prunedItems fields items).length = items.length := by
  induction fields generalizing items with
  | nil => rfl
  | cons f rest ih =>
      cases items with
      | nil => rfl
      | cons i items => simp [prunedItems, ih]

/-- A field is known by its name. -/
theorem lookup_of_mem (distinct : (fields.map Prod.fst).Nodup) (mem : (name, s) ∈ fields) :
    fields.lookup name = some s := by
  induction fields with
  | nil => cases mem
  | cons f rest ih =>
      obtain ⟨n, t⟩ := f
      obtain ⟨apart, distinct⟩ := List.nodup_cons.mp distinct
      rcases List.mem_cons.mp mem with same | later
      · cases same
        exact List.lookup_cons_self
      · have other : (name == n) = false := by
          refine beq_false_of_ne ?_
          rintro rfl
          exact apart (List.mem_map.mpr ⟨_, later, rfl⟩)
        rw [List.lookup_cons, other]
        exact ih distinct later

/-- Fields that are given by position are pruned as those under their names are. -/
theorem zip_prunedItems {rest : List (String × Shape)} (known : ∀ f ∈ rest, fields.lookup f.1 = some f.2)
    (items : List Json) :
    (rest.map Prod.fst).zip (prunedItems rest items) =
      ((rest.map Prod.fst).zip items).filterMap fun m => prunedMember? fields m := by
  induction rest generalizing items with
  | nil => rfl
  | cons f rest ih =>
      obtain ⟨first, later⟩ := List.forall_mem_cons.mp known
      cases items with
      | nil => rfl
      | cons i items =>
          rw [prunedItems, List.map_cons, List.zip_cons_cons, List.zip_cons_cons, List.filterMap_cons,
            prunedMember?_eq, first, ih later]
          rfl

end Shape

/-! ### Readers -/

section Overlooks

variable {α β : Type} {s : Shape} {value : Decoder α} {fields : List (String × Shape)} {name : String}

/-- The reader reads the same from a document without the members that it does not know. -/
def Overlooks (s : Shape) (value : Decoder α) : Prop := ∀ j, value (s.pruned j) = value j

theorem overlooks_any (value : Decoder α) : Overlooks .any value := fun _ => rfl

theorem overlooks_list (items : Overlooks s value) : Overlooks (.list s) (list? value) := by
  intro j
  cases j with
  | array l =>
      show (l.map s.pruned).mapM value = l.mapM value
      rw [List.mapM_map]
      exact congrArg l.mapM (funext items)
  | _ => rfl

theorem Overlooks.nullable (overlooks : Overlooks s value) : Overlooks s (nullable value) := by
  intro j
  by_cases null : j = .null
  · subst null
    rw [(s.pruned_eq_null_iff .null).mpr rfl]
  · have some_value {k : Json} (present : k ≠ .null) : Json.nullable value k = (value k).map some := by
      cases k with
      | null => exact absurd rfl present
      | _ => rfl
    rw [some_value null, some_value (mt (s.pruned_eq_null_iff j).mp null), overlooks j]

/-- A field of a metadata object. -/
theorem Overlooks.lastOf (overlooks : Overlooks s value) (known : fields.lookup name = some s)
    (members : List (String × Json)) :
    lastOf (members.filterMap fun m => Shape.prunedMember? fields m) name value = lastOf members name value := by
  have same : Json.nullable value ∘ s.pruned = Json.nullable value := funext overlooks.nullable
  rw [lastOf_eq, lastOf_eq, Shape.under_pruned known, List.mapM_map, same]

/-- A reader of metadata objects overlooks what it does not know if the reader of the members does. -/
theorem overlooks_members {read : List (String × Json) → Option α}
    (each : ∀ members, read (members.filterMap fun m => Shape.prunedMember? fields m) = read members) :
    Overlooks (.record fields) fun j => members? j >>= read := by
  intro j
  cases j with
  | object members => exact each members
  | _ => rfl

/-! ### Records -/

/-- The fields of a record without those that are not known. -/
def Fields.pruned (fields : List (String × Shape)) (f : Fields) : Fields :=
  ⟨f.byPosition, f.given.filterMap fun m => Shape.prunedMember? fields m⟩

theorem noneRepeated_pruned (distinct : (fields.map Prod.fst).Nodup) (members : List (String × Json)) :
    noneRepeated (fields.map Prod.fst) (members.filterMap fun m => Shape.prunedMember? fields m) =
      noneRepeated (fields.map Prod.fst) members := by
  rw [Bool.eq_iff_iff, noneRepeated_iff, noneRepeated_iff]
  refine forall₂_congr fun name mem => ?_
  obtain ⟨⟨_, s⟩, field, rfl⟩ := List.mem_map.mp mem
  rw [Shape.under_pruned (Shape.lookup_of_mem distinct field), List.length_map]

theorem record?_pruned (distinct : (fields.map Prod.fst).Nodup) (j : Json) :
    record? (fields.map Prod.fst) ((Shape.record fields).pruned j) =
      (record? (fields.map Prod.fst) j).map (Fields.pruned fields) := by
  cases j with
  | object members =>
      rw [Shape.pruned, record?, record?, noneRepeated_pruned distinct]
      split <;> rfl
  | array items =>
      have known : ∀ f ∈ fields, fields.lookup f.1 = some f.2 := fun _ mem => Shape.lookup_of_mem distinct mem
      rw [Shape.pruned, record?, record?, Shape.length_prunedItems, Shape.zip_prunedItems known]
      split <;> rfl
  | _ => rfl

theorem lookup_pruned (known : fields.lookup name = some s) (f : Fields) :
    (f.pruned fields).given.lookup name = (f.given.lookup name).map s.pruned := by
  unfold Fields.pruned
  rw [lookup_eq, lookup_eq, Shape.under_pruned known, List.head?_map]

theorem Overlooks.required (overlooks : Overlooks s value) (known : fields.lookup name = some s) (f : Fields) :
    (f.pruned fields).required name value = f.required name value := by
  unfold Fields.required
  rw [lookup_pruned known]
  cases f.given.lookup name with
  | none => rfl
  | some j => exact overlooks j

theorem Overlooks.defaulted (overlooks : Overlooks s value) (known : fields.lookup name = some s) (default : α)
    (f : Fields) : (f.pruned fields).defaulted name default value = f.defaulted name default value := by
  unfold Fields.defaulted
  rw [lookup_pruned known]
  cases f.given.lookup name with
  | none => rfl
  | some j => exact overlooks j

theorem Overlooks.maybe (overlooks : Overlooks s value) (known : fields.lookup name = some s) (f : Fields) :
    (f.pruned fields).maybe name value = f.maybe name value := overlooks.nullable.defaulted known none f

theorem Overlooks.optional (overlooks : Overlooks s value) (known : fields.lookup name = some s) (f : Fields) :
    (f.pruned fields).optional name value = f.optional name value := by
  unfold Fields.optional
  rw [overlooks.nullable.required known, overlooks.maybe known]
  rfl

/-- A reader of records overlooks what it does not know if the reader of the fields does. -/
theorem overlooks_record (distinct : (fields.map Prod.fst).Nodup) {read : Fields → Option α}
    (each : ∀ f, read (f.pruned fields) = read f) :
    Overlooks (.record fields) fun j => record? (fields.map Prod.fst) j >>= read := by
  intro j
  dsimp only
  rw [record?_pruned distinct]
  cases record? (fields.map Prod.fst) j with
  | none => rfl
  | some f => exact each f

end Overlooks

end LinkKeeper.Json
